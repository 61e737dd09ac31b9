import Screening.Relation

/-!
# Conditions

What a rule says about a transaction and its user: comparisons of a field with a literal, joined
by negation, conjunction and disjunction. Every part remembers the place in the text it was read
from: an operand the place of its own token, a comparison that of its relation sign, and a
negation, conjunction or disjunction that of its keyword.

`Condition.same` compares two conditions without looking at places, and `Condition.comparisons`
lists the comparisons in the order in which they are written.
-/

namespace Screening

/-- A value written into a condition. Only finite numbers are modelled: these are the ones that are
read from a text. -/
inductive Literal where
  | number (value : Binary64.Finite)
  | text (value : String)
  deriving DecidableEq

/-- One side of a comparison. A field or a literal may stand on either side; a condition that has
been checked has a field on the left and a literal on the right. -/
inductive Operand where
  | field (name : String) (position : Nat)
  | literal (value : Literal) (position : Nat)
  deriving DecidableEq

/-- Two operands and the relation asked of them. -/
structure Comparison where
  relation : Relation
  left : Operand
  right : Operand
  position : Nat
  deriving DecidableEq

/-- A condition on a transaction and its user. -/
inductive Condition where
  | compare (comparison : Comparison)
  | not (operand : Condition) (position : Nat)
  | and (left right : Condition) (position : Nat)
  | or (left right : Condition) (position : Nat)
  deriving DecidableEq

/-! ## Places -/

/-- The place of an operand. -/
def Operand.position : Operand → Nat
  | .field _ position | .literal _ position => position

/-- The place of the token that makes a condition what it is. -/
def Condition.position : Condition → Nat
  | .compare comparison => comparison.position
  | .not _ position | .and _ _ position | .or _ _ position => position

/-! ## Equality without places -/

/-- Whether two literals are the same: numbers by their value, so that both zeros are one. -/
def Literal.same : Literal → Literal → Bool
  | .number x, .number y => x.key == y.key
  | .text s, .text t => s == t
  | _, _ => false

/-- Whether two operands are the same, wherever they stand. -/
def Operand.same : Operand → Operand → Bool
  | .field name _, .field name' _ => name == name'
  | .literal value _, .literal value' _ => value.same value'
  | _, _ => false

/-- Whether two comparisons are the same, wherever they stand. -/
def Comparison.same (c d : Comparison) : Bool :=
  c.relation == d.relation && c.left.same d.left && c.right.same d.right

/-- Whether two conditions are the same, wherever their parts stand. -/
def Condition.same : Condition → Condition → Bool
  | .compare c, .compare d => c.same d
  | .not c _, .not d _ => c.same d
  | .and c d _, .and c' d' _ => c.same c' && d.same d'
  | .or c d _, .or c' d' _ => c.same c' && d.same d'
  | _, _ => false

/-! ## Comparisons -/

/-- The comparisons of a condition in the order in which they are written. -/
def Condition.comparisons : Condition → List Comparison
  | .compare comparison => [comparison]
  | .not operand _ => operand.comparisons
  | .and left right _ | .or left right _ => left.comparisons ++ right.comparisons

end Screening
