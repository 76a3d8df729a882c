/-
Sets of code points.

A property of characters is given by the ranges of the code points that have
it.
-/
namespace Criteria.Text

/-- A set of code points, as closed ranges. -/
structure CodePoints where
  ranges : List (Nat × Nat)

namespace CodePoints

/-- The character lies in one of the ranges. -/
def contains (set : CodePoints) (c : Char) : Bool :=
  set.ranges.any fun (first, last) => first ≤ c.toNat && c.toNat ≤ last

/-- The number of code points in ranges that have none in common. -/
def size (set : CodePoints) : Nat :=
  set.ranges.foldl (fun count (first, last) => count + (last + 1 - first)) 0

end CodePoints

end Criteria.Text
