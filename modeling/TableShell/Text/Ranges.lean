/-!
# Ranges of code points

A property of characters is given as the list of the ranges of code points that have it.
-/

namespace TableShell
namespace Text

/-- The code point lies in one of the ranges. -/
def inRanges (ranges : List (Nat × Nat)) (c : Char) : Bool :=
  ranges.any fun range => range.1 ≤ c.toNat && c.toNat ≤ range.2

end Text
end TableShell
