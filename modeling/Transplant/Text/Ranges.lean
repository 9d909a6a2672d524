/-!
# Ranges of numbers

Sets of characters as ranges of their numbers, both ends included.
-/

namespace Transplant.Text

/-- Whether a number is in one of some ranges. -/
def inRanges (ranges : List (Nat × Nat)) (n : Nat) : Bool :=
  ranges.any fun (first, last) => first ≤ n && n ≤ last

end Transplant.Text
