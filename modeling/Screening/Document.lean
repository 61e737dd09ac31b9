import Screening.Binary64

/-!
# Documents

A `Document` is plain data as somebody wrote it down: records and settings are read from it, and
attribute values. It keeps what a value of the library cannot hold and what only a reader of it
can judge: members of a table that are given twice, texts with half a character in them, and
numbers too large for a floating-point number, which stand as an infinity.
-/

namespace Screening

/-- Plain data as it is written. -/
inductive Document where
  | null
  | boolean (b : Bool)
  | integer (i : Int)
  | float (x : Binary64)
  /-- A text, unless it holds half a character. -/
  | text (s : Option String)
  | list (items : List Document)
  /-- Named members in the order in which they are written. -/
  | table (members : List (Option String × Document))

end Screening
