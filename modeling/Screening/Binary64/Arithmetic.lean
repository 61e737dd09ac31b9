import Screening.Binary64

/-!
# Arithmetic of magnitudes

Sums, products and quotients of magnitudes, which are given by their ranks. Each is the exact
result rounded to the row of magnitudes as `nearestRank` rounds; a result from 2^1024 on has a
rank from `overflowRank` on.

A magnitude is scaled by a power of ten in as few steps as the format allows: up to 10^308 in one
step, and a power below that is divided out 10^308 at a time. Every step rounds, so the result need
not be the magnitude nearest to the exact value.
-/

namespace Screening.Binary64

/-- The rank of the magnitude nearest to a whole number. -/
def wholeRank (n : Nat) : Nat := nearestRank (n <<< 1074) 1

/-- The rank of a sum. -/
def sumRank (a b : Nat) : Nat := nearestRank (units a + units b) 1

/-- The rank of a product. -/
def productRank (a b : Nat) : Nat := nearestRank (units a * units b) (1 <<< 1074)

/-- The rank of a quotient by a magnitude other than zero. -/
def quotientRank (a b : Nat) : Nat := nearestRank (units a <<< 1074) (units b)

/-- The whole number nearest to a magnitude; a half goes up. -/
def nearestWhole (rank : Nat) : Nat := (units rank + 1 <<< 1073) >>> 1074

/-! ## Powers of ten -/

/-- The greatest power of ten that the format holds. -/
def maxPower : Nat := 308

/-- The rank of a power of ten. -/
def powerRank (power : Nat) : Nat := wholeRank (Nat.pow 10 power)

/-- The rank of a magnitude times `10 ^ power`. -/
def raisedRank (rank power : Nat) : Nat :=
  if power ≤ maxPower then productRank rank (powerRank power)
  else if rank = 0 then 0
  else overflowRank

/-- The rank of a magnitude divided by `10 ^ power`. -/
def loweredRank (rank power : Nat) : Nat :=
  if power ≤ maxPower then quotientRank rank (powerRank power)
  else if rank = 0 then 0
  else loweredRank (quotientRank rank (powerRank maxPower)) (power - maxPower)
termination_by power
decreasing_by
  have : maxPower = 308 := rfl
  omega

/-- The rank of a magnitude scaled by a power of ten. -/
def scaledRank (rank : Nat) (power : Int) : Nat :=
  if 0 ≤ power then raisedRank rank power.toNat else loweredRank rank (-power).toNat

end Screening.Binary64
