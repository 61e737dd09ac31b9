import Screening.Binary64

/-!
# Reading numbers

A number is written with an optional sign and decimal digits, at most one dot among them, and an
optional power of ten behind the letter e; or as one of the words `inf`, `infinity` and `nan` in
any case. There are digits on at least one side of the dot, and nothing else may stand in the
text. `Binary64.read?` gives the number nearest to what is written.
-/

namespace Screening.Binary64

/-- The sign a text begins with, and the rest. -/
def splitSign : List Char → Bool × List Char
  | '-' :: cs => (true, cs)
  | '+' :: cs => (false, cs)
  | cs => (false, cs)

/-- The digits a text begins with, and the rest. -/
def splitDigits (cs : List Char) : List Char × List Char :=
  (cs.takeWhile Char.isDigit, cs.dropWhile Char.isDigit)

/-- The power of ten at the end of a number: none, or the letter e, a sign and digits. -/
def readExponent? : List Char → Option Int
  | [] => some 0
  | c :: cs =>
      if c == 'e' || c == 'E' then
        let (negative, unsigned) := splitSign cs
        let (digits, rest) := splitDigits unsigned
        if digits.isEmpty || !rest.isEmpty then none
        else
          let magnitude : Int := Nat.ofDigitChars 10 digits 0
          some (if negative then -magnitude else magnitude)
      else none

/-- The digits behind the dot, if the text begins with one, and the rest. -/
def splitFraction : List Char → List Char × List Char
  | '.' :: cs => splitDigits cs
  | cs => ([], cs)

/-- The value of an unsigned decimal as digits and a power of ten. -/
def readDecimal? (cs : List Char) : Option (Nat × Int) :=
  let (whole, afterWhole) := splitDigits cs
  let (fraction, afterFraction) := splitFraction afterWhole
  if whole.isEmpty && fraction.isEmpty then none
  else (readExponent? afterFraction).map fun exponent =>
    (Nat.ofDigitChars 10 (whole ++ fraction) 0, exponent - fraction.length)

/-- The number a text writes, rounded to the nearest one of the format. -/
def read? (cs : List Char) : Option Binary64 :=
  let (negative, unsigned) := splitSign cs
  let word := unsigned.map Char.toLower
  if word == "inf".toList || word == "infinity".toList then some (.infinite negative)
  else if word == "nan".toList then some .nan
  else (readDecimal? unsigned).map fun (digits, exponent) => ofDecimal negative digits exponent

end Screening.Binary64
