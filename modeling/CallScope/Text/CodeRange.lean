/-!
# Sets of characters

A property of characters that has no formula is a table: the ranges of code
points that have it.
-/

namespace CallScope.Text

/-- Whether a character lies in one of some ranges, each given by its first
and its last code point. -/
def inRanges (ranges : List (Nat × Nat)) (c : Char) : Bool :=
  ranges.any fun range => decide (range.1 ≤ c.toNat) && decide (c.toNat ≤ range.2)

end CallScope.Text
