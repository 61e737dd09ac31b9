import Screening.Binary64.Arithmetic
import Screening.Value

/-!
# Amounts

An `Amount` of money is a decimal that keeps the decimals it is written with: a coefficient of at
most 96 bits and at most 28 decimals.

`Amount.read?` takes an amount from a text, with underscores between digits and with a power of ten
if need be. Decimals for which there is no room are dropped, and the first of them rounds what is
kept; those behind it are worth nothing, but only digits and underscores may stand there. A zero
that is written has no sign, while an amount that a power of ten makes vanish keeps its own.

`Amount.toValue` makes an attribute value of an amount: an integer if it is whole and fits 64 bits,
otherwise a floating-point number. That number is made of the whole part and the fraction, each
rounded by itself (`Amount.toFloat`); for amounts of many digits it may be a neighbour of the
nearest one.
-/

namespace Screening

/-- One more than the largest coefficient. -/
def Amount.coefficientLimit : Nat := 0x1000000000000000000000000

/-- How many decimals an amount may have. -/
def Amount.maxScale : Nat := 28

/-- A decimal `coefficient * 10 ^ (-scale)` with its sign. -/
structure Amount where
  negative : Bool
  coefficient : Nat
  scale : Nat
  coefficient_lt : coefficient < Amount.coefficientLimit
  scale_le : scale ≤ Amount.maxScale
  deriving DecidableEq

namespace Amount

/-- The amount with these parts, if there is room for them. -/
def ofParts? (negative : Bool) (coefficient scale : Nat) : Option Amount :=
  if h : coefficient < coefficientLimit ∧ scale ≤ maxScale then
    some ⟨negative, coefficient, scale, h.1, h.2⟩
  else none

/-! ## Reading -/

/-- The value of a digit. -/
def digitValue (c : Char) : Nat := c.toNat - '0'.toNat

/-- Whether a character may stand among decimals that are dropped. -/
def isDropped (c : Char) : Bool := c.isDigit || c == '_'

/-- The coefficient and the scale of a decimal of which `digit` is the first digit that is dropped
and `rest` stands behind it. From five on the digit rounds up, for which a decimal may have to
go. -/
def roundUp? (coefficient scale digit : Nat) (rest : List Char) : Option (Nat × Nat) :=
  if !rest.all isDropped then none
  else if digit < 5 then some (coefficient, scale)
  else if coefficient + 1 < coefficientLimit then some (coefficient + 1, scale)
  else if scale = 0 then none
  else some ((coefficient + 5) / 10, scale - 1)

/-- The least coefficient that is wide: a digit more takes it to the end of what 64 bits hold. -/
def wideCoefficient : Nat := 0x199999999999989A

/-- The coefficient and the scale of a decimal that has as many decimals as an amount may have, by
what stands behind them. Underscores in front of the first digit are skipped if the coefficient was
wide before its last digit; otherwise the first of them counts as a zero. -/
def close? (coefficient scale : Nat) : List Char → Option (Nat × Nat)
  | [] => some (coefficient, scale)
  | c :: cs =>
      if c = '_' && coefficient / 10 < wideCoefficient then roundUp? coefficient scale 0 cs
      else
        match (c :: cs).dropWhile (· == '_') with
        | [] => some (coefficient, scale)
        | d :: rest => if d.isDigit then roundUp? coefficient scale (digitValue d) rest else none

/-- The coefficient and the scale of an unsigned decimal. `coefficient` and `scale` are those of
what has been read, `pointed` says whether the dot has been read and `started` whether a digit. -/
def readDigits? (coefficient scale : Nat) (pointed started : Bool) :
    List Char → Option (Nat × Nat)
  | [] => if started then some (coefficient, scale) else none
  | c :: cs =>
      if pointed && scale == maxScale then close? coefficient scale (c :: cs)
      else if c.isDigit then
        let next := 10 * coefficient + digitValue c
        if next < coefficientLimit then
          readDigits? next (if pointed then scale + 1 else scale) pointed true cs
        else if pointed then roundUp? coefficient scale (digitValue c) cs
        else none
      else if c = '.' && !pointed then readDigits? coefficient scale true started cs
      else if c = '_' && started then readDigits? coefficient scale pointed started cs
      else none

/-- The amount that a decimal without a power of ten writes. The sign of a zero is dropped. -/
def readDecimal? (cs : List Char) : Option Amount := do
  let (negative, unsigned) := Binary64.splitSign cs
  let (coefficient, scale) ← readDigits? 0 0 false false unsigned
  ofParts? (negative && coefficient != 0) coefficient scale

/-- An unsigned number of 32 bits, for which a plus sign may stand. -/
def readPower? (cs : List Char) : Option Nat :=
  let digits :=
    match cs with
    | '+' :: rest => rest
    | rest => rest
  if digits.isEmpty || !digits.all Char.isDigit then none
  else
    let n := Nat.ofDigitChars 10 digits 0
    if n < 0x100000000 then some n else none

/-- An amount times `10 ^ power`. What is whole loses its decimals. -/
def raise? (a : Amount) (power : Nat) : Option Amount :=
  if power ≤ a.scale then ofParts? a.negative a.coefficient (a.scale - power)
  else if maxScale < power then none
  else ofParts? a.negative (a.coefficient * Nat.pow 10 (power - a.scale)) 0

/-- A coefficient without its last `dropped` digits; the first of them rounds what is kept. -/
def dropDigits (coefficient dropped : Nat) : Nat :=
  let kept := coefficient / Nat.pow 10 dropped
  if dropped ≠ 0 ∧ 5 ≤ coefficient / Nat.pow 10 (dropped - 1) % 10 then kept + 1 else kept

/-- An amount times `10 ^ (-power)`; decimals for which there is no room are dropped. -/
def lower? (a : Amount) (power : Nat) : Option Amount :=
  if maxScale < power then none
  else
    let dropped := a.scale + power - maxScale
    ofParts? a.negative (dropDigits a.coefficient dropped) (a.scale + power - dropped)

/-- The amount that a decimal with a power of ten writes. -/
def readScientific? (cs : List Char) : Option Amount := do
  let isMark := fun (c : Char) => c != 'e' && c != 'E'
  let a ← readDecimal? (cs.takeWhile isMark)
  match cs.dropWhile isMark with
  | _ :: '-' :: power => a.lower? (← readPower? power)
  | _ :: power => a.raise? (← readPower? power)
  | [] => none

/-- The amount that a text writes. -/
def read? (cs : List Char) : Option Amount :=
  (readDecimal? cs).or (readScientific? cs)

/-- The amount that a number or a text in a document stands for. -/
def ofDocument? : Document → Option Amount
  | .integer i => ofParts? (decide (i < 0)) i.natAbs 0
  | .float (.finite x) => readDecimal? x.display
  | .text (some s) => read? s.toList
  | _ => none

/-! ## Writing -/

/-- An amount with all its decimals. -/
def render (a : Amount) : List Char :=
  let digits := Nat.toDigits 10 a.coefficient
  let padded := List.replicate (a.scale + 1 - digits.length) '0' ++ digits
  let whole := padded.take (padded.length - a.scale)
  let decimals := padded.drop (padded.length - a.scale)
  Binary64.signed a.negative (if decimals.isEmpty then whole else whole ++ '.' :: decimals)

/-- The integer that a whole amount is. -/
def integer? (a : Amount) : Option Int :=
  if a.coefficient % Nat.pow 10 a.scale = 0 then
    let n : Int := (a.coefficient / Nat.pow 10 a.scale : Nat)
    some (if a.negative then -n else n)
  else none

/-- The rank of an amount's magnitude. The whole part and the fraction are rounded and added, and
the sum is rounded to as many decimals as the amount has; every step rounds to the format. -/
def magnitudeRank (a : Amount) : Nat :=
  let power := Nat.pow 10 a.scale
  let unit := Binary64.wholeRank power
  let whole := Binary64.wholeRank (a.coefficient / power)
  let fraction := Binary64.quotientRank (Binary64.wholeRank (a.coefficient % power)) unit
  if fraction = 0 then whole
  else
    let scaled := Binary64.productRank (Binary64.sumRank whole fraction) unit
    Binary64.quotientRank (Binary64.wholeRank (Binary64.nearestWhole scaled)) unit

/-- An amount as a floating-point number. -/
def toFloat (a : Amount) : Binary64 := Binary64.ofRank a.negative a.magnitudeRank

/-- An amount as the value of an attribute. -/
def toValue (a : Amount) : Value :=
  match a.integer? with
  | some i => Value.ofInt i
  | none => .float a.toFloat

end Amount

end Screening
