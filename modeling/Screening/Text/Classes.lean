import Screening.Text.Alphabetic
import Screening.Text.Numeric

/-!
# Classes of characters

The classes by which rule text is cut into words, numbers and blanks. `isBlank` is the Unicode
property White_Space, `isWordStart` and `isWordPart` say where a field name or a keyword begins
and how far it runs, and `trim` takes the blanks off both ends of a text.

Digits are the ten ASCII digits throughout (`Char.isDigit`): a digit of another script may stand
inside a word, but never begins a number.
-/

namespace Screening.Text

/-! ## Blanks -/

/-- The code points with the Unicode property White_Space. -/
def blank : CodePointSet where
  boundaries := [0x9, 0xE, 0x20, 0x21, 0x85, 0x86, 0xA0, 0xA1, 0x1680, 0x1681, 0x2000, 0x200B,
    0x2028, 0x202A, 0x202F, 0x2030, 0x205F, 0x2060, 0x3000, 0x3001]

/-- A blank separates words and says nothing else. -/
def isBlank (c : Char) : Bool := blank.contains c

/-- The text without the blanks it begins with. -/
def trimStart (cs : List Char) : List Char := cs.dropWhile isBlank

/-- The text without the blanks it ends with. -/
def trimEnd (cs : List Char) : List Char := (cs.reverse.dropWhile isBlank).reverse

/-- The text without the blanks around it. -/
def trim (cs : List Char) : List Char := trimEnd (trimStart cs)

/-! ## Words -/

/-- A word begins with a letter or an underscore. -/
def isWordStart (c : Char) : Bool := alphabetic.contains c || c == '_'

/-- Behind its first character a word also runs over numbers of every script and over dots. -/
def isWordPart (c : Char) : Bool :=
  alphabetic.contains c || numeric.contains c || c == '_' || c == '.'

end Screening.Text
