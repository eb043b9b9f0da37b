/-!
# TypedRecord.Text.Ranges

Classes of characters, as tables.

A class is listed as closed ranges of code points in ascending order, so that a binary search
decides whether a character belongs to it.
-/

namespace TypedRecord.Text

/-- Binary search for a range that holds `n` among the ranges from `low` up to, but not including,
`high`; the width halves at each step, so `width` steps are plenty. -/
def searchRanges (ranges : Array (Nat × Nat)) (n : Nat) : Nat → Nat → Nat → Bool
  | 0, _, _ => false
  | width + 1, low, high =>
    if high ≤ low then false
    else
      let middle := (low + high) / 2
      match ranges[middle]? with
      | none => false
      | some (first, last) =>
        if n < first then searchRanges ranges n width low middle
        else if last < n then searchRanges ranges n width (middle + 1) high
        else true

/-- Whether one of the ranges holds a character. -/
def inRanges (ranges : Array (Nat × Nat)) (c : Char) : Bool :=
  searchRanges ranges c.toNat ranges.size 0 ranges.size

end TypedRecord.Text
