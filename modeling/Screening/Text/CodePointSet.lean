/-!
# Sets of code points

The character properties of this library are sets of code points that fall into long runs.
`CodePointSet` keeps such a set as the ascending list of the code points at which membership
changes: the first begins a run, the second is the first code point behind it, and so on. A
list of odd length ends in a run that has no end.

`CodePointSet.contains` walks the list and stops at the first boundary above the character, so
that a question about a small code point looks at few entries of a large table.
-/

namespace Screening.Text

/-- A set of code points, given by the code points at which membership changes. -/
structure CodePointSet where
  /-- The boundaries in ascending order; the first one begins the first run. -/
  boundaries : List Nat

namespace CodePointSet

/-- Whether `n` lies in one of the runs that an ascending list of boundaries delimits. -/
def within (n : Nat) : List Nat → Bool
  | [] => false
  | [first] => decide (first ≤ n)
  | first :: next :: rest =>
      if n < first then false else if n < next then true else within n rest

/-- Whether the character's code point is in the set. -/
def contains (set : CodePointSet) (c : Char) : Bool :=
  within c.toNat set.boundaries

end CodePointSet

end Screening.Text
