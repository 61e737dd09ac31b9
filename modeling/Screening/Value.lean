import Screening.Binary64.Printer
import Screening.Binary64.Reader
import Screening.Json.Printer
import Screening.Text.Classes

/-!
# Attribute values

The values of the attributes of a transaction or a user. Integers and floating-point numbers are
kept apart, so that a value is written as it was read; a comparison sees the number nearest to
either. The members of an object are kept in a directory, so that no name occurs twice in it.

`Value.ofJson` takes an integer as an integer as long as it fits 64 bits with a sign, and
`Value.toJson` writes null for a number without a finite value, and members in the order of their
names.
-/

namespace Screening

/-- The value of an attribute. -/
inductive Value where
  | null
  | boolean (b : Bool)
  | float (x : Binary64)
  | integer (i : Int64)
  | text (s : String)
  | list (items : List Value)
  | object (members : Directory Value)

namespace Value

/-- The object with these members; of members with one name the last is kept. -/
def ofMembers (members : List (String × Value)) : Value := .object (.ofList members)

/-! ## JSON -/

/-- An integer as a value: it is kept as it is if it fits 64 bits with a sign. -/
def ofInt (i : Int) : Value :=
  if -0x8000000000000000 ≤ i ∧ i < 0x8000000000000000 then .integer (Int64.ofInt i)
  else .float (Binary64.ofInt i)

mutual

/-- The value that a JSON value stands for. -/
def ofJson : Json → Value
  | .null => .null
  | .boolean b => .boolean b
  | .integer i => ofInt i
  | .float x => .float (.finite x)
  | .text s => .text s
  | .array items => .list (ofJsonItems items)
  | .object members => ofMembers (ofJsonMembers members)

/-- The values of items. -/
def ofJsonItems : List Json → List Value
  | [] => []
  | item :: rest => ofJson item :: ofJsonItems rest

/-- The values of members. -/
def ofJsonMembers : List (String × Json) → List (String × Value)
  | [] => []
  | (name, value) :: rest => (name, ofJson value) :: ofJsonMembers rest

end

mutual

/-- The JSON value that stands for a value. -/
def toJson : Value → Json
  | .null => .null
  | .boolean b => .boolean b
  | .float (.finite x) => .float x
  | .float _ => .null
  | .integer i => .integer i.toInt
  | .text s => .text s
  | .list items => .array (toJsonItems items)
  | .object ⟨_, _, column⟩ => .object (toJsonMembers column)

/-- The JSON values of items. -/
def toJsonItems : List Value → List Json
  | [] => []
  | item :: rest => item.toJson :: toJsonItems rest

/-- The JSON values of members, in the order of their names. -/
def toJsonMembers : {names : List String} → Column Value names → List (String × Json)
  | _, .nil => []
  | name :: _, .cons value rest => (name, value.toJson) :: toJsonMembers rest

end

/-- The text of a value: compact JSON. -/
def display (v : Value) : String := v.toJson.compact

/-! ## Reading a value -/

/-- Whether there is no value. -/
def isNull : Value → Bool
  | .null => true
  | _ => false

/-- The member of an object with this name. -/
def member? (v : Value) (name : String) : Option Value :=
  match v with
  | .object members => members.find? name
  | _ => none

/-- The name of a value's type. -/
def typeName : Value → String
  | .null => "null"
  | .boolean _ => "boolean"
  | .integer _ => "integer"
  | .float _ => "float"
  | .text _ => "string"
  | .list _ => "array"
  | .object _ => "object"

/-- A value as a number. The booleans count as one and zero, and a text as the number it writes
between blanks. -/
def asNumber? : Value → Option Binary64
  | .integer i => some (Binary64.ofInt i.toInt)
  | .float x => some x
  | .boolean b => some (Binary64.ofInt (if b then 1 else 0))
  | .text s => Binary64.read? (Text.trim s.toList)
  | .null | .list _ | .object _ => none

/-- A value as a text. -/
def asText? : Value → Option String
  | .text s => some s
  | .float x => some (String.ofList x.display)
  | .integer i => some (String.ofList (Json.integerChars i.toInt))
  | .boolean b => some (if b then "true" else "false")
  | .null | .list _ | .object _ => none

end Value

end Screening
