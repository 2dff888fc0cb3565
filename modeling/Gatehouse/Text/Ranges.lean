/-!
# Ranges of code points
-/

namespace Gatehouse.Text

/-- Whether a code point is in one of some ranges, with both ends included. -/
def inRanges (ranges : List (Nat × Nat)) (n : Nat) : Bool :=
  ranges.any fun (first, last) => first ≤ n && n ≤ last

end Gatehouse.Text
