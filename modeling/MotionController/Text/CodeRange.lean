/-!
# Ranges of code points

A character property is given as a list of closed ranges of code points, ascending and apart.
-/

namespace MotionController
namespace Text

/-- Closed ranges of code points, first and last, in ascending order. -/
abbrev CodeRanges := List (Nat × Nat)

/-- The character lies in one of the ranges. Ranges ascend, so the search ends at the first range
that does not lie wholly below the character. -/
def CodeRanges.holds (ranges : CodeRanges) (c : Char) : Bool :=
  match ranges with
  | [] => false
  | (first, last) :: rest =>
      if last < c.toNat then CodeRanges.holds rest c else decide (first ≤ c.toNat)

end Text
end MotionController
