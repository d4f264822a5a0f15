/-!
# Sets of code points as ranges

A property of characters is a list of closed ranges of code points in ascending order.
-/
namespace TrustFederation.Text

/-- The code point lies in one of the ranges. The ranges ascend, so the search ends at
the first one that begins above it. -/
def inRanges : List (Nat × Nat) → Nat → Bool
  | [], _ => false
  | (first, last) :: later, point =>
    if point < first then false else if point ≤ last then true else inRanges later point

end TrustFederation.Text
