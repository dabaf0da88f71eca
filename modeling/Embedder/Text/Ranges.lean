/-!
# Sets of characters as ranges

A property of characters is written down as a list of ranges of code points, both ends included, in
increasing order.
-/

namespace Embedder.Text

/-- Is a code point in one of the ranges? -/
def inRanges (ranges : List (Nat × Nat)) (n : Nat) : Bool :=
  ranges.any fun r => r.1 ≤ n && n ≤ r.2

end Embedder.Text
