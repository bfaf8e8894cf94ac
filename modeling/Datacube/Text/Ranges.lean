namespace Datacube.Text

-- Ranges of code points, both ends included, in ascending order. The only one that can hold `n` is
-- found by halving; `fuel` bounds the number of halvings.
private def holds (ranges : Array (Nat × Nat)) (n : Nat) : Nat → Nat → Nat → Bool
  | 0, _, _ => false
  | fuel + 1, lo, hi =>
    if lo < hi then
      let mid := (lo + hi) / 2
      match ranges[mid]? with
      | none => false
      | some (first, last) =>
        if n < first then holds ranges n fuel lo mid
        else if last < n then holds ranges n fuel (mid + 1) hi
        else true
    else false

-- Whether a character is in one of the ranges.
def inRanges (ranges : Array (Nat × Nat)) (c : Char) : Bool :=
  holds ranges c.toNat (ranges.size + 1) 0 ranges.size

end Datacube.Text
