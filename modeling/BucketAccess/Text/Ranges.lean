/-!
# Code point ranges

A class of characters is carried as an ascending list of closed ranges of code
points, the way character property data is published.  Only membership is
asked of such a list.
-/

namespace BucketAccess.Text

/-- Membership of a code point in a list of closed ranges. -/
def inRanges (ranges : List (Nat × Nat)) (code : Nat) : Bool :=
  ranges.any fun range => range.1 ≤ code && code ≤ range.2

/-- The ranges ascend and do not touch, so each code point is listed once. -/
def rangesAscend : List (Nat × Nat) → Bool
  | [] => true
  | [range] => range.1 ≤ range.2
  | range :: next :: ranges =>
      range.1 ≤ range.2 && range.2 + 1 < next.1 && rangesAscend (next :: ranges)

/-- How many code points the ranges cover. -/
def rangesCount (ranges : List (Nat × Nat)) : Nat :=
  ranges.foldr (fun range count => range.2 + 1 - range.1 + count) 0

end BucketAccess.Text
