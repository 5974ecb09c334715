/-!
# Sets of code points

A property of characters is a set of code points, kept as the ascending list of the places where
membership changes: outside up to the first of them, inside up to the second, and so on.
-/
namespace Phrasebook.Unicode

structure CodePointSet where
  boundaries : List Nat

namespace CodePointSet

/-- A character is inside when an odd number of boundaries lies at or before it. -/
def contains (set : CodePointSet) (c : Char) : Bool :=
  (set.boundaries.takeWhile (· ≤ c.toNat)).length % 2 = 1

end CodePointSet

end Phrasebook.Unicode
