import Screening.Toml.Lexeme

/-!
# The scalars of TOML

What a bare run of characters stands for as a value: a truth value, an integer in one of four
bases, a floating-point number, or a date or time. Underscores may stand between digits. Dates and
times are no values of settings, so of them only the form is checked (`isMoment`).
-/

namespace Screening.Toml

/-! ## Digits -/

/-- Splits a text at the first place where a character satisfies `p`. -/
def splitAt (p : Char → Bool) (cs : List Char) : List Char × Option (List Char) :=
  match cs.dropWhile fun c => !p c with
  | [] => (cs, none)
  | _ :: rest => (cs.takeWhile fun c => !p c, some rest)

/-- Digits without the underscores between them: at least one digit, and each underscore has a
digit on both sides. -/
def plainDigits? (isDigit : Char → Bool) : List Char → Option (List Char)
  | [] => none
  | [c] => if isDigit c then some [c] else none
  | c :: '_' :: rest => if isDigit c then (plainDigits? isDigit rest).map (c :: ·) else none
  | c :: rest => if isDigit c then (plainDigits? isDigit rest).map (c :: ·) else none

/-- Decimal digits of which the first is zero only if it is the only one. -/
def wholeDigits? (cs : List Char) : Option (List Char) := do
  let digits ← plainDigits? Char.isDigit cs
  if digits.head? == some '0' && 1 < digits.length then none else some digits

/-! ## Numbers -/

/-- The value of a digit in a base, if it is one of that base. -/
def digitIn? (base : Nat) (c : Char) : Option Nat :=
  (Json.hexDigit? c).bind fun n => if n < base then some n else none

/-- The value of digits in a base. -/
def valueIn? (base : Nat) (cs : List Char) : Option Nat := do
  let digits ← plainDigits? (fun c => (digitIn? base c).isSome) cs
  digits.foldlM (fun n c => (digitIn? base c).map (base * n + ·)) 0

/-- An integer of at most 128 bits. -/
def bounded? (i : Int) : Option Document :=
  if -0x80000000000000000000000000000000 ≤ i ∧ i < 0x100000000000000000000000000000000 then
    some (.integer i)
  else none

/-- The integer that a run of characters is. -/
def integer? (cs : List Char) : Option Document :=
  match cs with
  | '0' :: 'x' :: digits => (valueIn? 16 digits).bind fun n => bounded? n
  | '0' :: 'o' :: digits => (valueIn? 8 digits).bind fun n => bounded? n
  | '0' :: 'b' :: digits => (valueIn? 2 digits).bind fun n => bounded? n
  | cs => do
      let (negative, unsigned) := Binary64.splitSign cs
      let n := Nat.ofDigitChars 10 (← wholeDigits? unsigned) 0
      bounded? (if negative then -n else n)

/-- The power of ten of a floating-point number, and zero where there is none. -/
def exponent? : Option (List Char) → Option Int
  | none => some 0
  | some cs => do
      let (negative, unsigned) := Binary64.splitSign cs
      let n : Int := Nat.ofDigitChars 10 (← plainDigits? Char.isDigit unsigned) 0
      return if negative then -n else n

/-- The floating-point number that a run of characters is. Its digits must give a finite one. -/
def float? (cs : List Char) : Option Document := do
  let (negative, unsigned) := Binary64.splitSign cs
  if unsigned == "inf".toList then return .float (.infinite negative)
  else if unsigned == "nan".toList then return .float .nan
  else
    let (mantissa, power) := splitAt (fun c => c == 'e' || c == 'E') unsigned
    let (whole, fraction) := splitAt (· == '.') mantissa
    if power.isNone && fraction.isNone then none
    else
      let whole ← wholeDigits? whole
      let fraction ← match fraction with
        | some digits => plainDigits? Char.isDigit digits
        | none => some []
      let exponent ← exponent? power
      let x := Binary64.ofDecimal negative (Nat.ofDigitChars 10 (whole ++ fraction) 0)
        (exponent - fraction.length)
      x.finite?.map fun x => .float (.finite x)

/-! ## Dates and times -/

/-- The value of exactly `count` decimal digits at the front of a text, and the rest. -/
def takeDigits? (count : Nat) (cs : List Char) : Option (Nat × List Char) :=
  let digits := cs.take count
  if digits.length = count ∧ digits.all Char.isDigit then
    some (Nat.ofDigitChars 10 digits 0, cs.drop count)
  else none

/-- Skips a character at the front of a text. -/
def skip? (c : Char) : List Char → Option (List Char)
  | d :: cs => if d = c then some cs else none
  | [] => none

/-- How many days a month has. -/
def daysIn (year month : Nat) : Nat :=
  if month = 2 then
    if year % 4 = 0 ∧ (year % 100 ≠ 0 ∨ year % 400 = 0) then 29 else 28
  else if month = 4 ∨ month = 6 ∨ month = 9 ∨ month = 11 then 30
  else 31

/-- What stands behind a date. -/
def afterDate? (cs : List Char) : Option (List Char) := do
  let (year, cs) ← takeDigits? 4 cs
  let (month, cs) ← takeDigits? 2 (← skip? '-' cs)
  let (day, cs) ← takeDigits? 2 (← skip? '-' cs)
  if 1 ≤ month ∧ month ≤ 12 ∧ 1 ≤ day ∧ day ≤ daysIn year month then some cs else none

/-- What stands behind hours and minutes. -/
def afterMinutes? (cs : List Char) : Option (List Char) := do
  let (hour, cs) ← takeDigits? 2 cs
  let (minute, cs) ← takeDigits? 2 (← skip? ':' cs)
  if hour < 24 ∧ minute < 60 then some cs else none

/-- What stands behind a time; seconds and their decimals may be missing. -/
def afterTime? (cs : List Char) : Option (List Char) := do
  let cs ← afterMinutes? cs
  match cs with
  | ':' :: cs =>
      let (second, cs) ← takeDigits? 2 cs
      if 60 < second then none
      else
        match cs with
        | '.' :: cs =>
            if (cs.head?.map Char.isDigit) == some true then some (cs.dropWhile Char.isDigit)
            else none
        | cs => some cs
  | cs => some cs

/-- Whether a text is a time zone, or empty. -/
def isZone : List Char → Bool
  | [] => true
  | ['Z'] | ['z'] => true
  | '+' :: cs | '-' :: cs => afterMinutes? cs == some []
  | _ => false

/-- Whether a run of characters is a date, a time, or a date with a time behind it. -/
def isMoment (cs : List Char) : Bool :=
  match afterDate? cs with
  | some [] => true
  | some (c :: rest) =>
      (c == 'T' || c == 't' || c == ' ') &&
        match afterTime? rest with
        | some zone => isZone zone
        | none => false
  | none => afterTime? cs == some []

/-! ## Scalars -/

/-- The document that a date or a time stands for: a table without known members. -/
def moment (cs : List Char) : Document := .table [(some "moment", .text (some (String.ofList cs)))]

/-- What a bare run of characters stands for as a value. -/
def scalar? (cs : List Char) : Option Document :=
  if cs == "true".toList then some (.boolean true)
  else if cs == "false".toList then some (.boolean false)
  else if isMoment cs then some (moment cs)
  else (integer? cs).or (float? cs)

end Screening.Toml
