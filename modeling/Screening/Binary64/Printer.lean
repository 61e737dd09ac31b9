import Screening.Binary64

/-!
# Writing numbers

A finite number is written with the fewest decimal digits that read back to it (`shortest`). For
one digit, two digits and so on the two decimals around the exact value are tried; the first
length at which one of them reads back wins, and of two the nearer. Seventeen digits are always
enough, and should none of these lengths do, the exact value itself is taken, so that reading
undoes writing by construction.

Two forms are made of these digits. `display` is positional whatever the size, as in `10000` or
`0.1`, and takes the larger of two equally near decimals. `Finite.compact` keeps at least one
decimal, as in `10000.0`, goes over to a power of ten for large and small magnitudes, as in
`1e+16`, and takes the even one of two equally near decimals.
-/

namespace Screening.Binary64

/-! ## The fewest digits -/

/-- The decimals that may be chosen in the middle between two of them. -/
inductive Tie where
  | upper
  | even

/-- Which of two equally near neighbours `below` and `below + 1` is taken. -/
def Tie.choose (tie : Tie) (below : Nat) : Nat :=
  match tie with
  | .upper => below + 1
  | .even => if below % 2 = 0 then below else below + 1

/-- The exact value at a rank, as a multiple of 10^-1074. -/
def exactDigits (rank : Nat) : Nat := units rank * Nat.pow 5 1074

/-- Whether the decimal `digits * 10 ^ exponent` reads back to the magnitude at `rank`. -/
def readsBack (rank : Nat) (digits : Nat) (exponent : Int) : Bool :=
  (ofDecimal false digits exponent).key == some (rank : Int)

/-- The nearest decimal that keeps all but `dropped` digits of the exact value, if it or its
neighbour on the other side of the value reads back. -/
def roundedAt (tie : Tie) (rank dropped : Nat) : Option (Nat × Int) :=
  let grid := Nat.pow 10 dropped
  let below := exactDigits rank / grid
  let rest := 2 * (exactDigits rank % grid)
  let exponent : Int := dropped - 1074
  let nearer :=
    if rest < grid then below else if grid < rest then below + 1 else tie.choose below
  let farther := if nearer = below then below + 1 else below
  if readsBack rank nearer exponent then some (nearer, exponent)
  else if readsBack rank farther exponent then some (farther, exponent)
  else none

/-- How many decimal digits a positive number has. The power of two below it gives the count up to
one: the logarithm of two is a little less than 0.30103, and for numbers of at most six thousand
binary digits the difference does not show. -/
def decimalLength (n : Nat) : Nat :=
  let least := n.log2 * 30103 / 100000
  if n < Nat.pow 10 (least + 1) then least + 1 else least + 2

/-- The decimal with the fewest digits that reads back to the magnitude at `rank`, as digits and
a power of ten. -/
def shortest (tie : Tie) (rank : Nat) : Nat × Int :=
  let length := decimalLength (exactDigits rank)
  ((List.range 17).findSome? fun i => roundedAt tie rank (length - (i + 1))).getD
    (exactDigits rank, -1074)

/-- The digits of a decimal without the zeros they end in, and the power of ten that belongs to
them. -/
def withoutZeros (digits : Nat) (exponent : Int) : List Char × Int :=
  let written := Nat.toDigits 10 digits
  let kept := (written.reverse.dropWhile (· == '0')).reverse
  (kept, exponent + (written.length - kept.length))

/-! ## The two forms -/

/-- The decimal point set into the digits of a decimal: the digits before it and behind it. -/
def pointed (digits : List Char) (exponent : Int) : List Char × List Char :=
  if 0 ≤ exponent then (digits ++ List.replicate exponent.toNat '0', [])
  else
    let places := (-exponent).toNat
    if places < digits.length then
      (digits.take (digits.length - places), digits.drop (digits.length - places))
    else (['0'], List.replicate (places - digits.length) '0' ++ digits)

/-- The sign in front of what is written of the magnitude. -/
def signed (negative : Bool) (magnitude : List Char) : List Char :=
  if negative then '-' :: magnitude else magnitude

/-- The positional form of the magnitude at a rank. -/
def displayMagnitude (rank : Nat) : List Char :=
  if rank = 0 then ['0']
  else
    let (digits, exponent) := shortest .upper rank
    let (kept, exponent) := withoutZeros digits exponent
    match pointed kept exponent with
    | (whole, []) => whole
    | (whole, fraction) => whole ++ '.' :: fraction

/-- The positional form of a finite number. -/
def Finite.display (x : Finite) : List Char := signed x.negative (displayMagnitude x.rank)

/-- The positional form of a number, the infinities and what is no number included. -/
def display : Binary64 → List Char
  | .nan => "NaN".toList
  | .infinite negative => signed negative "inf".toList
  | .finite x => x.display

/-- The form with a power of ten: one digit before the point, and the sign of the power. -/
def scientific (digits : List Char) (power : Int) : List Char :=
  let mantissa :=
    match digits with
    | first :: second :: rest => first :: '.' :: second :: rest
    | short => short
  let sign := if power < 0 then '-' else '+'
  mantissa ++ 'e' :: sign :: Nat.toDigits 10 power.natAbs

/-- The compact form of the magnitude at a rank: positional from 10^-5 up to below 10^16. -/
def compactMagnitude (rank : Nat) : List Char :=
  if rank = 0 then "0.0".toList
  else
    let (digits, exponent) := shortest .even rank
    let (kept, exponent) := withoutZeros digits exponent
    let power := exponent + kept.length - 1
    if -5 ≤ power ∧ power < 16 then
      match pointed kept exponent with
      | (whole, []) => whole ++ ['.', '0']
      | (whole, fraction) => whole ++ '.' :: fraction
    else scientific kept power

/-- The compact form of a finite number. -/
def Finite.compact (x : Finite) : List Char := signed x.negative (compactMagnitude x.rank)

end Screening.Binary64
