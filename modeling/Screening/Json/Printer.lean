import Screening.Binary64.Printer
import Screening.Json

/-!
# Writing JSON

`Json.compact` writes a value without any blanks; `Json.pretty` puts every item and member on a
line of its own, two spaces further in than what holds it, and leaves empty arrays and objects on
their line. Both keep the order of members.
-/

namespace Screening.Json

/-! ## Texts and scalars -/

/-- A hexadecimal digit, in lower case. -/
def hexDigit (n : Nat) : Char := Nat.digitChar (n % 16)

/-- How a character is written between double quotes: quotes, backslashes and controls are
escaped. -/
def escape (c : Char) : List Char :=
  match c with
  | '"' => ['\\', '"']
  | '\\' => ['\\', '\\']
  | '\x08' => ['\\', 'b']
  | '\x0c' => ['\\', 'f']
  | '\n' => ['\\', 'n']
  | '\r' => ['\\', 'r']
  | '\t' => ['\\', 't']
  | c =>
      if c.toNat < 0x20 then ['\\', 'u', '0', '0', hexDigit (c.toNat / 16), hexDigit c.toNat]
      else [c]

/-- A text between double quotes. -/
def quote (s : String) : List Char := '"' :: s.toList.flatMap escape ++ ['"']

/-- The digits of an integer behind its sign. -/
def integerChars (i : Int) : List Char :=
  Binary64.signed (decide (i < 0)) (Nat.toDigits 10 i.natAbs)

/-! ## The compact form -/

mutual

/-- The characters of a value in the compact form. -/
def render : Json → List Char
  | .null => "null".toList
  | .boolean true => "true".toList
  | .boolean false => "false".toList
  | .integer i => integerChars i
  | .float x => x.compact
  | .text s => quote s
  | .array items => '[' :: renderItems items ++ [']']
  | .object members => '\x7b' :: renderMembers members ++ ['\x7d']

/-- Items with commas between them. -/
def renderItems : List Json → List Char
  | [] => []
  | [item] => item.render
  | item :: rest => item.render ++ ',' :: renderItems rest

/-- Members with commas between them. -/
def renderMembers : List (String × Json) → List Char
  | [] => []
  | [(name, value)] => quote name ++ ':' :: value.render
  | (name, value) :: rest => quote name ++ ':' :: value.render ++ ',' :: renderMembers rest

end

/-- The compact form of a value. -/
def compact (j : Json) : String := String.ofList j.render

/-! ## The pretty form -/

/-- A new line, indented for a nesting of `depth`. -/
def newline (depth : Nat) : List Char := '\n' :: List.replicate (2 * depth) ' '

mutual

/-- The characters of a value that stands at a nesting of `depth`, in the pretty form. -/
def renderAt (depth : Nat) : Json → List Char
  | .array [] => ['[', ']']
  | .array (item :: rest) =>
      '[' :: renderItemsAt (depth + 1) (item :: rest) ++ newline depth ++ [']']
  | .object [] => ['\x7b', '\x7d']
  | .object (member :: rest) =>
      '\x7b' :: renderMembersAt (depth + 1) (member :: rest) ++ newline depth ++ ['\x7d']
  | scalar => scalar.render

/-- Items on lines of their own. -/
def renderItemsAt (depth : Nat) : List Json → List Char
  | [] => []
  | [item] => newline depth ++ item.renderAt depth
  | item :: rest => newline depth ++ item.renderAt depth ++ ',' :: renderItemsAt depth rest

/-- Members on lines of their own. -/
def renderMembersAt (depth : Nat) : List (String × Json) → List Char
  | [] => []
  | [(name, value)] => newline depth ++ quote name ++ ':' :: ' ' :: value.renderAt depth
  | (name, value) :: rest =>
      newline depth ++ quote name ++ ':' :: ' ' :: value.renderAt depth ++
        ',' :: renderMembersAt depth rest

end

/-- The pretty form of a value. -/
def pretty (j : Json) : String := String.ofList (j.renderAt 0)

end Screening.Json
