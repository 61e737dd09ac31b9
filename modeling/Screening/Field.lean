import Screening.Directory

/-!
# Fields

A `Field` is an attribute that a condition may name: a number or a text, read from the
transaction or from its user. Which of the two it is read from shows in its name: the fields of
the user begin with `user.`.
-/

namespace Screening

/-- What kind of value a field has. -/
inductive FieldKind where
  /-- A number; every relation may be asked of it. -/
  | numeric
  /-- A text; it is equal to another or not. -/
  | text
  deriving DecidableEq

/-- Which record a field is read from. -/
inductive Origin where
  | transaction
  | user
  deriving DecidableEq

/-- The name of a kind of fields. -/
def FieldKind.label : FieldKind → String
  | .numeric => "numeric"
  | .text => "text"

/-- The name of a record. -/
def Origin.label : Origin → String
  | .transaction => "transaction"
  | .user => "user"

/-- What the names of the user's fields begin with. -/
def userPrefix : String := "user."

/-- The part of a user field's name that names the attribute. -/
def userKey? (name : String) : Option String :=
  if userPrefix.toList.isPrefixOf name.toList then
    some (String.ofList (name.toList.drop userPrefix.length))
  else none

/-- The record that a field with this name is read from. -/
def Origin.ofName (name : String) : Origin :=
  if (userKey? name).isSome then .user else .transaction

/-- An attribute that a condition may name. -/
structure Field where
  name : String
  kind : FieldKind
  origin : Origin
  deriving DecidableEq

/-- The field with this name, read from the record that the name says. -/
def Field.named (name : String) (kind : FieldKind) : Field := ⟨name, kind, Origin.ofName name⟩

end Screening
