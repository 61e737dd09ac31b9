import Screening.Binary64.Printer
import Screening.Condition

/-!
# Writing conditions

`Condition.print` writes a condition in its one canonical form: keywords in upper case, single
spaces, and parentheses only where the condition would be read differently without them. The
tighter a condition binds, the fewer neighbours can pull it apart: comparisons bind tightest,
then negation, conjunction and disjunction. An operand that binds less tightly than the
condition around it stands in parentheses, and on the right of a conjunction or disjunction also
one that binds as tightly, because both are read from the left.
-/

namespace Screening

/-- A quote and a backslash stand behind a backslash, and everything else for itself. -/
def Literal.escape (c : Char) : List Char :=
  if c = '\'' ∨ c = '\\' then ['\\', c] else [c]

/-- The characters of a literal. -/
def Literal.render : Literal → List Char
  | .number value => value.display
  | .text value => '\'' :: value.toList.flatMap escape ++ ['\'']

/-- The characters of an operand. -/
def Operand.render : Operand → List Char
  | .field name _ => name.toList
  | .literal value _ => value.render

/-- The characters of a comparison. -/
def Comparison.render (c : Comparison) : List Char :=
  c.left.render ++ ' ' :: c.relation.symbol.toList ++ ' ' :: c.right.render

namespace Condition

/-- How tightly a condition binds. -/
def strength : Condition → Nat
  | .or .. => 1
  | .and .. => 2
  | .not .. => 3
  | .compare .. => 4

/-- The characters between parentheses, if they need any. -/
def enclose (needed : Bool) (cs : List Char) : List Char :=
  if needed then '(' :: cs ++ [')'] else cs

/-- The characters of a condition. -/
def render : Condition → List Char
  | .compare comparison => comparison.render
  | .not operand _ => "NOT ".toList ++ enclose (operand.strength < 3) operand.render
  | .and left right _ =>
      enclose (left.strength < 2) left.render ++ " AND ".toList ++
        enclose (right.strength ≤ 2) right.render
  | .or left right _ =>
      enclose (left.strength < 1) left.render ++ " OR ".toList ++
        enclose (right.strength ≤ 1) right.render

/-- The canonical form of a condition. -/
def print (c : Condition) : String := String.ofList c.render

end Condition

/-- The canonical form of a comparison. -/
def Comparison.print (c : Comparison) : String := String.ofList c.render

end Screening
