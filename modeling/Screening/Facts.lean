import Screening.Field
import Screening.Value

/-!
# Facts

The `Facts` that a condition is applied to are the attributes of one transaction and of its user.
The name of a field says where its value is found (`Route.ofName`): behind `user.` it names an
attribute of the user, dots included; otherwise the first dot, if there is one, divides the
name of an attribute of the transaction from the name of a member of that attribute. A null counts
as no value.
-/

namespace Screening

/-- Where the value of a field is found. -/
inductive Route where
  /-- An attribute of the user. -/
  | user (key : String)
  /-- An attribute of the transaction. -/
  | attribute (key : String)
  /-- A member of an attribute of the transaction. -/
  | member (key sub : String)
  deriving DecidableEq

/-- Splits a text at its first dot. -/
def splitAtDot? (cs : List Char) : Option (List Char × List Char) :=
  match cs.dropWhile (· != '.') with
  | [] => none
  | _ :: rest => some (cs.takeWhile (· != '.'), rest)

/-- Where the value of the field with this name is found. -/
def Route.ofName (name : String) : Route :=
  match userKey? name with
  | some key => .user key
  | none =>
      match splitAtDot? name.toList with
      | some (key, sub) => .member (String.ofList key) (String.ofList sub)
      | none => .attribute name

/-- The attributes of a transaction and of its user. -/
structure Facts where
  transaction : Value
  user : Value

namespace Facts

/-- The value that is found on a route, which may be null. -/
def follow (facts : Facts) : Route → Option Value
  | .user key => facts.user.member? key
  | .attribute key => facts.transaction.member? key
  | .member key sub => (facts.transaction.member? key).bind (·.member? sub)

/-- The value of a field. -/
def resolve (facts : Facts) (name : String) : Option Value :=
  (facts.follow (Route.ofName name)).filter fun v => !v.isNull

end Facts

end Screening
