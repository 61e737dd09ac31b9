import Screening.Json.Lexeme

/-!
# Reading JSON

The pieces of a JSON text are put together by a machine that knows which lists and tables are
open (`Frame`) and what may come next (`Stage`). A text is a document if every piece fits, nothing
is left open, and exactly one value has been read.
-/

namespace Screening.Json

/-- A list or table that is open, with the items or members read so far, the last one first. -/
inductive Frame where
  | list (items : List Document)
  | table (members : List (Option String × Document)) (key : Option String)

/-- What may come next. -/
inductive Stage where
  /-- A value. -/
  | value
  /-- The first item of a list, or its end. -/
  | firstItem
  /-- The first key of a table, or its end. -/
  | firstKey
  /-- A key behind a comma. -/
  | nextKey (members : List (Option String × Document))
  /-- The colon behind a key. -/
  | colon (members : List (Option String × Document)) (key : Option String)
  /-- What may stand behind a value that is complete. -/
  | complete (d : Document)

/-- A value begins: a scalar is complete at once, a list or table is opened. -/
def begin (open_ : List Frame) : Lexeme → Option (List Frame × Stage)
  | .scalar d => some (open_, .complete d)
  | .openList => some (.list [] :: open_, .firstItem)
  | .openTable => some (open_, .firstKey)
  | _ => none

/-- Takes one piece. -/
def take : List Frame × Stage → Lexeme → Option (List Frame × Stage)
  | (open_, .value), piece => begin open_ piece
  | (.list [] :: open_, .firstItem), .closeList => some (open_, .complete (.list []))
  | (open_, .firstItem), piece => begin open_ piece
  | (open_, .firstKey), .closeTable => some (open_, .complete (.table []))
  | (open_, .firstKey), .scalar (.text key) => some (open_, .colon [] key)
  | (open_, .nextKey members), .scalar (.text key) => some (open_, .colon members key)
  | (open_, .colon members key), .colon => some (.table members key :: open_, .value)
  | (.list items :: open_, .complete d), .comma => some (.list (d :: items) :: open_, .value)
  | (.list items :: open_, .complete d), .closeList =>
      some (open_, .complete (.list (d :: items).reverse))
  | (.table members key :: open_, .complete d), .comma =>
      some (open_, .nextKey ((key, d) :: members))
  | (.table members key :: open_, .complete d), .closeTable =>
      some (open_, .complete (.table ((key, d) :: members).reverse))
  | _, _ => none

/-- The document that a JSON text writes. -/
def document? (text : String) : Option Document := do
  let pieces ← lexemes text.toList
  match ← pieces.foldlM take ([], .value) with
  | ([], .complete d) => some d
  | _ => none

end Screening.Json
