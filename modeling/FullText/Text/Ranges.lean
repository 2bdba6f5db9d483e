/-!
# Ranges of characters

A character property is kept as its ascending ranges of code points.
-/

namespace FullText

/-- Whether the code point of `c` lies in one of the given inclusive ranges. -/
def inRanges (ranges : List (Nat × Nat)) (c : Char) : Bool :=
  ranges.any fun (low, high) => low ≤ c.toNat && c.toNat ≤ high

end FullText
