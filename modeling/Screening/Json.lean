import Screening.Directory
import Screening.Document

/-!
# JSON values

A `Json` value is data that can be written as JSON: its numbers are integers and finite
floating-point numbers, its texts hold whole characters, and the members of its objects stand in
the order in which they are written.

`Json.ofDocument?` takes over a document that somebody wrote. Members come in the order of their
names, and of members with one name the last counts. A number without a finite value, half a
character, and lists and tables nested more than `maxNesting` deep are refused.
-/

namespace Screening

/-- Data that can be written as JSON. -/
inductive Json where
  | null
  | boolean (b : Bool)
  | integer (i : Int)
  | float (x : Binary64.Finite)
  | text (s : String)
  | array (items : List Json)
  /-- Named members in the order in which they are written. -/
  | object (members : List (String × Json))

namespace Json

/-- How deep lists and tables may be nested. -/
def maxNesting : Nat := 127

mutual

/-- The value of a document in which lists and tables may be nested `room` deep. -/
def ofDocumentWithin? (room : Nat) : Document → Option Json
  | .null => some .null
  | .boolean b => some (.boolean b)
  | .integer i => some (.integer i)
  | .float x => x.finite?.map .float
  | .text s => s.map .text
  | .list items =>
      match room with
      | 0 => none
      | room + 1 => (ofItems? room items).map .array
  | .table members =>
      match room with
      | 0 => none
      | room + 1 => (ofMembers? room .empty members).map fun d => .object d.entries

/-- The values of the items of a list. -/
def ofItems? (room : Nat) : List Document → Option (List Json)
  | [] => some []
  | d :: rest => do
      let item ← ofDocumentWithin? room d
      return item :: (← ofItems? room rest)

/-- Adds the values of the members of a table to a directory, the last of each name. -/
def ofMembers? (room : Nat) (d : Directory Json) :
    List (Option String × Document) → Option (Directory Json)
  | [] => some d
  | (name, value) :: rest => do
      let name ← name
      let value ← ofDocumentWithin? room value
      ofMembers? room (d.insert name value) rest

end

/-- The value of a document. -/
def ofDocument? (d : Document) : Option Json := ofDocumentWithin? maxNesting d

mutual

/-- A value as a document. -/
def toDocument : Json → Document
  | .null => .null
  | .boolean b => .boolean b
  | .integer i => .integer i
  | .float x => .float (.finite x)
  | .text s => .text (some s)
  | .array items => .list (toDocuments items)
  | .object members => .table (toMembers members)

/-- Values as documents. -/
def toDocuments : List Json → List Document
  | [] => []
  | item :: rest => item.toDocument :: toDocuments rest

/-- Named values as named documents. -/
def toMembers : List (String × Json) → List (Option String × Document)
  | [] => []
  | (name, value) :: rest => (some name, value.toDocument) :: toMembers rest

end

/-- A text, or null where there is none. -/
def ofText? (s : Option String) : Json := (s.map .text).getD .null

/-- A natural number. -/
def ofNat (n : Nat) : Json := .integer n

end Json

end Screening
