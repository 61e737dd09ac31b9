import Screening.Binary64.Arithmetic
import Screening.Binary64.Reader
import Screening.Document

/-!
# The pieces of a JSON text

`Json.lexemes` cuts a JSON text into brackets, commas, colons and scalars. Only the four blanks of
the format may stand between them. A text is kept even where its escapes give half a character, and
a number even where it is too large for the floating-point format: whether that matters depends on
who reads them.

An integer literal is an integer as long as it fits 64 bits, with or without a sign; every other
number is a floating-point number, the literal `-0` among them. Such a number is made in steps: the
digits that 64 bits hold are a whole number, which is rounded and then scaled by the power of ten
that belongs to it (`Json.decimalLiteral`). For few digits and small powers this is the nearest
number; for others it may be one of its neighbours.
-/

namespace Screening.Json

/-- A piece of a JSON text. -/
inductive Lexeme where
  | openList
  | closeList
  | openTable
  | closeTable
  | comma
  | colon
  | scalar (d : Document)

/-! ## Texts -/

/-- A part of a text between double quotes: a character, or a unit of 16 bits that stands for a
character or for half of one. -/
inductive Piece where
  | char (c : Char)
  | unit (n : Nat)

/-- The value of a hexadecimal digit. -/
def hexDigit? (c : Char) : Option Nat :=
  if c.isDigit then some (c.toNat - '0'.toNat)
  else if 'a' ≤ c ∧ c ≤ 'f' then some (c.toNat - 'a'.toNat + 10)
  else if 'A' ≤ c ∧ c ≤ 'F' then some (c.toNat - 'A'.toNat + 10)
  else none

/-- The value of a run of hexadecimal digits. -/
def hexValue? (cs : List Char) : Option Nat :=
  cs.foldlM (fun n c => (hexDigit? c).map (16 * n + ·)) 0

/-- The character that a letter behind a backslash stands for. -/
def escaped? : Char → Option Char
  | '"' => some '"'
  | '\\' => some '\\'
  | '/' => some '/'
  | 'b' => some '\x08'
  | 'f' => some '\x0c'
  | 'n' => some '\n'
  | 'r' => some '\r'
  | 't' => some '\t'
  | _ => none

/-- The parts of what stands behind an opening double quote up to the closing one, and the rest.
Controls must be escaped. -/
def pieces? : List Char → Option (List Piece × List Char)
  | [] => none
  | '"' :: cs => some ([], cs)
  | '\\' :: 'u' :: a :: b :: c :: d :: cs => do
      let unit ← hexValue? [a, b, c, d]
      let (pieces, rest) ← pieces? cs
      return (.unit unit :: pieces, rest)
  | '\\' :: c :: cs => do
      let char ← escaped? c
      let (pieces, rest) ← pieces? cs
      return (.char char :: pieces, rest)
  | c :: cs =>
      if c.toNat < 0x20 then none
      else (pieces? cs).map fun (pieces, rest) => (.char c :: pieces, rest)

/-- The characters that the parts of a text give. Two units in the ranges for first and second
halves give one character; a half without its other half gives none. -/
def assemble? : List Piece → Option (List Char)
  | [] => some []
  | .char c :: rest => (assemble? rest).map (c :: ·)
  | .unit n :: rest =>
      if 0xD800 ≤ n ∧ n < 0xDC00 then
        match rest with
        | .unit m :: rest =>
            if 0xDC00 ≤ m ∧ m < 0xE000 then
              (assemble? rest).map
                (Char.ofNat (0x10000 + (n - 0xD800) * 0x400 + (m - 0xDC00)) :: ·)
            else none
        | _ => none
      else if 0xDC00 ≤ n ∧ n < 0xE000 then none
      else (assemble? rest).map (Char.ofNat n :: ·)

theorem length_rest_pieces? {cs rest : List Char} {pieces : List Piece}
    (h : pieces? cs = some (pieces, rest)) : rest.length < cs.length := by
  fun_induction pieces? cs generalizing pieces rest with
  | case1 => simp at h
  | case2 => simp_all
  | case3 a b c d cs ih =>
    simp only [bind, Option.bind_eq_some_iff, pure, Option.some.injEq, Prod.mk.injEq] at h
    obtain ⟨unit, _, ⟨p, r⟩, hp, _, rfl⟩ := h
    have := ih hp
    simp only [List.length_cons]
    omega
  | case4 c cs _ ih =>
    simp only [bind, Option.bind_eq_some_iff, pure, Option.some.injEq, Prod.mk.injEq] at h
    obtain ⟨char, _, ⟨p, r⟩, hp, _, rfl⟩ := h
    have := ih hp
    simp only [List.length_cons]
    omega
  | case5 => simp at h
  | case6 c cs _ _ _ _ ih =>
    obtain ⟨⟨p, r⟩, hp, he⟩ := Option.map_eq_some_iff.1 h
    simp only [Prod.mk.injEq] at he
    obtain ⟨_, rfl⟩ := he
    have := ih hp
    simp only [List.length_cons]
    omega

/-! ## Numbers -/

/-- Characters that may stand in a number. -/
def isNumberPart (c : Char) : Bool :=
  c.isDigit || c == '-' || c == '+' || c == '.' || c == 'e' || c == 'E'

/-- A significand of 64 bits with as many of the given digits behind it as there is room for, and
how many these are. -/
def extend (significand : Nat) : List Char → Nat × Nat
  | [] => (significand, 0)
  | c :: cs =>
      let next := 10 * significand + (c.toNat - '0'.toNat)
      if next < 0x10000000000000000 then
        let (extended, taken) := extend next cs
        (extended, taken + 1)
      else (significand, 0)

/-- The floating-point number of a literal by its sign, the digits on both sides of the dot and its
power of ten. A whole digit for which there is no room is worth a power of ten; a decimal for which
there is no room is worth nothing. -/
def decimalLiteral (negative : Bool) (whole fraction : List Char) (exponent : Int) : Binary64 :=
  let (integral, wholeTaken) := extend 0 whole
  let (significand, fractionTaken) := extend integral fraction
  let power := exponent + (whole.length - wholeTaken : Nat) - fractionTaken
  Binary64.ofRank negative (Binary64.scaledRank (Binary64.wholeRank significand) power)

/-- An integer literal by its sign and digits. -/
def integerLiteral (negative : Bool) (digits : List Char) : Document :=
  let n := Nat.ofDigitChars 10 digits 0
  let i : Int := if negative then -n else n
  if negative && n == 0 then .float (.finite (Binary64.zero true))
  else if -0x8000000000000000 ≤ i ∧ i < 0x10000000000000000 then .integer i
  else .float (decimalLiteral negative digits [] 0)

/-- The fraction of a number: none, or a dot with digits behind it. -/
def fraction? : List Char → Option (List Char × List Char)
  | '.' :: cs =>
      let (digits, rest) := Binary64.splitDigits cs
      if digits.isEmpty then none else some (digits, rest)
  | cs => some ([], cs)

/-- The number that a run of characters is: a sign, digits of which the first is zero only if it
is the only one, a fraction and a power of ten. -/
def number? (cs : List Char) : Option Document := do
  let (negative, unsigned) :=
    match cs with
    | '-' :: rest => (true, rest)
    | rest => (false, rest)
  let (whole, afterWhole) := Binary64.splitDigits unsigned
  let leading := whole.head? == some '0' && 1 < whole.length
  if whole.isEmpty || leading then none
  else if afterWhole.isEmpty then return integerLiteral negative whole
  else
    let (fraction, afterFraction) ← fraction? afterWhole
    let exponent ← Binary64.readExponent? afterFraction
    return .float (decimalLiteral negative whole fraction exponent)

/-! ## The whole text -/

/-- The value that a word stands for. -/
def word? (cs : List Char) : Option Document :=
  if cs == "null".toList then some .null
  else if cs == "true".toList then some (.boolean true)
  else if cs == "false".toList then some (.boolean false)
  else none

/-- The bracket or sign that a character is. -/
def mark? : Char → Option Lexeme
  | '[' => some .openList
  | ']' => some .closeList
  | '\x7b' => some .openTable
  | '\x7d' => some .closeTable
  | ',' => some .comma
  | ':' => some .colon
  | _ => none

/-- The pieces of a JSON text. -/
def lexemes (cs : List Char) : Option (List Lexeme) :=
  match cs with
  | [] => some []
  | c :: cs =>
      if c == ' ' || c == '\t' || c == '\n' || c == '\r' then lexemes cs
      else match mark? c with
      | some mark => (lexemes cs).map (mark :: ·)
      | none =>
          if c = '"' then
            match _h : pieces? cs with
            | some (pieces, rest) =>
                let text := (assemble? pieces).map String.ofList
                (lexemes rest).map (.scalar (.text text) :: ·)
            | none => none
          else if isNumberPart c && c != 'e' && c != 'E' then do
            let d ← number? (c :: cs.takeWhile isNumberPart)
            (lexemes (cs.dropWhile isNumberPart)).map (.scalar d :: ·)
          else do
            let d ← word? (c :: cs.takeWhile Char.isAlpha)
            (lexemes (cs.dropWhile Char.isAlpha)).map (.scalar d :: ·)
termination_by cs.length
decreasing_by
  all_goals simp only [List.length_cons]
  · omega
  · omega
  · have := length_rest_pieces? _h
    omega
  · have := (List.dropWhile_sublist isNumberPart (l := cs)).length_le
    omega
  · have := (List.dropWhile_sublist Char.isAlpha (l := cs)).length_le
    omega

end Screening.Json
