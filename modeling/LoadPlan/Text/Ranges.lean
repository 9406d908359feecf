/-!
# Sets of characters as sorted ranges
-/

namespace LoadPlan.Text

/-- Does one of the ranges, given by first and last member, hold the number? The ranges are
searched by halves, `fuel` times at most. -/
def inRanges (ranges : Array (Nat × Nat)) (n : Nat) : Bool :=
  go 0 ranges.size ranges.size
where
  /-- Search the ranges with an index from `lo` up to `hi`. -/
  go (lo hi : Nat) : Nat → Bool
    | 0 => false
    | fuel + 1 =>
      let mid := (lo + hi) / 2
      match ranges[mid]? with
      | none => false
      | some (first, last) =>
        if hi ≤ lo then false
        else if n < first then go lo mid fuel
        else if last < n then go (mid + 1) hi fuel
        else true

end LoadPlan.Text
