import Screening.Text.Extending
import Screening.Text.Printable

/-!
# Quoted text

`quoted` writes a text between double quotes so that every character can be seen: the quote and
the backslash behind a backslash, the common controls by their letters, and by the number of its
code point whatever cannot be printed or would be drawn on the character before it.
-/

namespace Screening.Text

/-- How one character is written between double quotes. -/
def escape (c : Char) : List Char :=
  match c with
  | '\x00' => ['\\', '0']
  | '\t' => ['\\', 't']
  | '\n' => ['\\', 'n']
  | '\r' => ['\\', 'r']
  | '"' => ['\\', '"']
  | '\\' => ['\\', '\\']
  | c =>
      if printable.contains c && !extending.contains c then [c]
      else ['\\', 'u', '\x7b'] ++ Nat.toDigits 16 c.toNat ++ ['\x7d']

/-- The text between double quotes, with every character made visible. -/
def quoted (text : String) : String :=
  String.ofList ('"' :: text.toList.flatMap escape ++ ['"'])

end Screening.Text
