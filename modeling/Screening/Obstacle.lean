import Screening.Field
import Screening.Relation

/-!
# Obstacles

Why a comparison has no answer for a transaction. An obstacle never stops anything: a comparison
without an answer counts as one that does not hold.
-/

namespace Screening

/-- Why a comparison has no answer. -/
inductive Obstacle where
  /-- It does not compare a field with a literal. -/
  | shape
  | unknownField (name : String)
  /-- The field has no value. -/
  | absent (name : String)
  /-- The value of a field, of the type `found`, cannot be read as the literal's kind. -/
  | unreadable (name : String) (found : String) (wanted : FieldKind)
  /-- An order is asked of a text. -/
  | orderedText (relation : Relation)
  deriving DecidableEq

/-- What is said about an obstacle. -/
def Obstacle.message : Obstacle → String
  | .shape => "comparison must be a field against a literal"
  | .unknownField name => "field '" ++ name ++ "' is not in the catalog"
  | .absent name => "field '" ++ name ++ "' has no value"
  | .unreadable name found wanted =>
      let kind := match wanted with
        | .numeric => "number"
        | .text => "text"
      "value of '" ++ name ++ "' (" ++ found ++ ") cannot be read as " ++ kind
  | .orderedText relation => "operator '" ++ relation.symbol ++ "' cannot compare text"

end Screening
