/-!
# Sets of code points

A character class is a list of inclusive ranges of code points, and membership is
decided range by range.
-/

namespace MediaTransport.Text

/-- A set of code points as a list of inclusive ranges. -/
abbrev CodeRanges := List (Nat × Nat)

namespace CodeRanges

/-- Whether the code point of `c` lies in one of the ranges. -/
def contains (ranges : CodeRanges) (c : Char) : Bool :=
  ranges.any fun (low, high) => low ≤ c.toNat && c.toNat ≤ high

end CodeRanges

end MediaTransport.Text
