import Screening.Binary64

/-!
# Relations

The six relations in which a field may stand to a literal. All six hold or fail between two
numbers; between two texts only equality and its opposite have an answer.
-/

namespace Screening

/-- A relation between the value of a field and a literal. -/
inductive Relation where
  | equal
  | notEqual
  | less
  | greater
  | atMost
  | atLeast
  deriving DecidableEq

namespace Relation

/-- The sign of a relation. -/
def symbol : Relation → String
  | .equal => "="
  | .notEqual => "!="
  | .less => "<"
  | .greater => ">"
  | .atMost => "<="
  | .atLeast => ">="

/-- The relation that a sign stands for. -/
def ofSymbol? : String → Option Relation
  | "=" => some .equal
  | "!=" => some .notEqual
  | "<" => some .less
  | ">" => some .greater
  | "<=" => some .atMost
  | ">=" => some .atLeast
  | _ => none

/-- A relation that asks for an order, and so says nothing about texts. -/
def isOrdering : Relation → Bool
  | .equal | .notEqual => false
  | .less | .greater | .atMost | .atLeast => true

/-- Whether the relation holds between two numbers. What is no number differs from everything. -/
def holds (r : Relation) (x y : Binary64) : Bool :=
  match r with
  | .equal => x.equal y
  | .notEqual => !x.equal y
  | .less => x.less y
  | .greater => y.less x
  | .atMost => x.atMost y
  | .atLeast => y.atMost x

/-- Whether the relation holds between two texts; a relation that asks for an order has no
answer. -/
def holdsText (r : Relation) (s t : String) : Option Bool :=
  match r with
  | .equal => some (s == t)
  | .notEqual => some (s != t)
  | .less | .greater | .atMost | .atLeast => none

@[simp] theorem ofSymbol?_symbol (r : Relation) : ofSymbol? r.symbol = some r := by
  cases r <;> rfl

end Relation

end Screening
