/-!
# Binary floating-point numbers of 64 bits

The numbers of the rule language and of the records it is applied to. `Binary64` keeps a number
as its sign and its `rank`: the magnitudes of the format stand in a row, zero first, and a finite
magnitude is known by its place in that row. Magnitudes are whole multiples of 2^-1074, and
`units` says which multiple stands at a rank, so every question about exact values is one about
natural numbers.

Order and equality are those of the ranks with their sign (`Binary64.key`): both zeros have the
same key, and a value that is no number has none, so that it neither equals nor precedes anything.

`nearestRank` rounds a quotient to the row, and a quotient in the middle of two magnitudes goes to
the even rank. The row goes on behind the last finite magnitude with 2^1024, so the same rule says
when a quotient overflows.
-/

namespace Screening

/-- How many magnitudes lie from one power of two up to below the next: 2^52. -/
def Binary64.binade : Nat := 0x10000000000000

/-- The place of 2^1024 in the row of magnitudes, one behind the largest finite magnitude. -/
def Binary64.overflowRank : Nat := 0x7FF * binade

/-- A finite number: its sign, and the place of its magnitude in the row of all magnitudes. -/
structure Binary64.Finite where
  negative : Bool
  rank : Nat
  rank_lt : rank < Binary64.overflowRank
  deriving DecidableEq

/-- A floating-point number, an infinity, or a value that is no number. -/
inductive Binary64 where
  | nan
  | infinite (negative : Bool)
  | finite (x : Binary64.Finite)
  deriving DecidableEq

namespace Binary64

/-! ## Magnitudes -/

/-- The magnitude at a rank, as a multiple of 2^-1074. -/
def units (rank : Nat) : Nat :=
  let exponent := rank / binade
  let fraction := rank % binade
  if exponent = 0 then fraction else (binade + fraction) <<< (exponent - 1)

/-- The rank whose magnitude is nearest to `num / den` units; in the middle of two the even one. -/
def nearestRank (num den : Nat) : Nat :=
  let shift := Nat.log2 (num / den) - 52
  let step := den <<< shift
  let below := shift * binade + num / step
  let excess := 2 * (num % step)
  if excess < step || (excess == step && below % 2 == 0) then below else below + 1

/-! ## Building numbers -/

/-- Zero with the given sign. -/
def zero (negative : Bool) : Finite := ⟨negative, 0, by decide⟩

/-- The number with the given sign at a rank; from 2^1024 on it is infinite. -/
def ofRank (negative : Bool) (rank : Nat) : Binary64 :=
  if h : rank < overflowRank then .finite ⟨negative, rank, h⟩ else .infinite negative

/-- The number nearest to the quotient `num / den` with the given sign. -/
def ofRatio (negative : Bool) (num den : Nat) : Binary64 :=
  ofRank negative (nearestRank (num <<< 1074) den)

/-- The number nearest to an integer. -/
def ofInt (i : Int) : Binary64 := ofRatio (decide (i < 0)) i.natAbs 1

/-- The number nearest to `digits * 10 ^ exponent` with the given sign. Exponents far outside the
row of magnitudes are answered without computing the power of ten. -/
def ofDecimal (negative : Bool) (digits : Nat) (exponent : Int) : Binary64 :=
  if digits = 0 then .finite (zero negative)
  else if 2000 < exponent then .infinite negative
  else if exponent < -(Nat.log2 digits + 2000 : Int) then .finite (zero negative)
  else if 0 ≤ exponent then ofRatio negative (digits * Nat.pow 10 exponent.toNat) 1
  else ofRatio negative digits (Nat.pow 10 (-exponent).toNat)

/-! ## Order -/

/-- The place of a finite number in the order; the two zeros share one. -/
def Finite.key (x : Finite) : Int := if x.negative then -(x.rank : Int) else x.rank

/-- The place of a number in the order. A value that is no number has none. -/
def key : Binary64 → Option Int
  | .nan => none
  | .infinite negative => some (if negative then -(overflowRank : Int) else overflowRank)
  | .finite x => some x.key

/-- Whether two numbers are equal; nothing equals a value that is no number. -/
def equal (x y : Binary64) : Bool :=
  match x.key, y.key with
  | some a, some b => a == b
  | _, _ => false

/-- Whether the first number precedes the second. -/
def less (x y : Binary64) : Bool :=
  match x.key, y.key with
  | some a, some b => decide (a < b)
  | _, _ => false

/-- Whether the first number precedes or equals the second. -/
def atMost (x y : Binary64) : Bool :=
  match x.key, y.key with
  | some a, some b => decide (a ≤ b)
  | _, _ => false

/-- The number, if it is finite. -/
def finite? : Binary64 → Option Finite
  | .finite x => some x
  | .nan | .infinite _ => none

end Binary64

end Screening
