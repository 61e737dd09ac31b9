import Screening.Document

/-!
# Reading records

A record is written as a table, or as a list of its fields in their order. In a table unknown
members are passed over, and a field that is given twice is a mistake; in a list the last fields
may be missing. `Document.fields?` gives the fields of either form under their names, and the
readers for single fields say what becomes of one that is missing.

The formats differ in two points, which a `Convention` fixes: whether a list may go on behind the
last field of a record, and what may stand beside the name of a choice if it is written as a table
with one member instead of as a text.
-/

namespace Screening

/-- What a format of documents leaves open about records and choices. -/
structure Convention where
  /-- Whether a list may go on behind the last field of a record. -/
  surplus : Bool
  /-- What may stand beside the name of a choice that is written as a table. -/
  isBlank : Document → Bool

namespace Document

/-! ## Single values -/

/-- A text. -/
def text? : Document → Option String
  | .text s => s
  | _ => none

/-- A truth value. -/
def boolean? : Document → Option Bool
  | .boolean b => some b
  | _ => none

/-- An integer in a range; a number with a fraction is none, whatever its value. -/
def integerIn? (low high : Int) : Document → Option Int
  | .integer i => if low ≤ i ∧ i < high then some i else none
  | _ => none

/-- A count of at most 64 bits. -/
def count? (d : Document) : Option Nat := (d.integerIn? 0 0x10000000000000000).map Int.toNat

/-- A finite number. -/
def finite? : Document → Option Binary64.Finite
  | .integer i => (Binary64.ofInt i).finite?
  | .float x => x.finite?
  | _ => none

/-- A list of values that `read` can read. -/
def listOf? {α : Type} (read : Document → Option α) : Document → Option (List α)
  | .list items => items.mapM read
  | _ => none

/-- One of several choices, given by its name. -/
def choice? {α : Type} (convention : Convention) (ofLabel? : String → Option α) :
    Document → Option α
  | .text (some label) => ofLabel? label
  | .table [(some label, d)] => if convention.isBlank d then ofLabel? label else none
  | _ => none

/-! ## Records -/

/-- The fields of a record that are given, under their names. -/
abbrev Fields := List (String × Document)

/-- Adds the members of a table whose names are among `names`, none of them twice. -/
def knownMembers? (names : List String) :
    Fields → List (Option String × Document) → Option Fields
  | fields, [] => some fields
  | fields, (name, d) :: rest => do
      let name ← name
      if !names.contains name then knownMembers? names fields rest
      else if fields.any (·.1 == name) then none
      else knownMembers? names ((name, d) :: fields) rest

/-- The fields of a record that has the fields `names`, in this order. -/
def fields? (convention : Convention) (names : List String) : Document → Option Fields
  | .table members => knownMembers? names [] members
  | .list items =>
      if items.length ≤ names.length || convention.surplus then some (names.zip items) else none
  | _ => none

namespace Fields

/-- A field that must be given. -/
def required {α : Type} (fields : Fields) (name : String) (read : Document → Option α) :
    Option α :=
  (fields.lookup name).bind read

/-- A field that takes a value of its own where it is not given. -/
def withDefault {α : Type} (fields : Fields) (name : String) (default : α)
    (read : Document → Option α) : Option α :=
  match fields.lookup name with
  | some d => read d
  | none => some default

/-- A field that may be missing or null. -/
def optional {α : Type} (fields : Fields) (name : String) (read : Document → Option α) :
    Option (Option α) :=
  match fields.lookup name with
  | none | some .null => some none
  | some d => (read d).map some

end Fields

end Document

end Screening
