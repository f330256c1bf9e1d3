/-
**Tables of ranges.**

A table is an array of ranges of numbers in order, none of which overlap.

* `inRanges` decides whether a number lies in one of them, by halving the table.
-/

namespace TagAudit

/-- Whether a number lies in one of some ordered ranges between two places; the fuel bounds the
number of halvings. -/
def searchRanges (ranges : Array (Nat × Nat)) (number : Nat) : Nat → Nat → Nat → Bool
  | 0, _, _ => false
  | fuel + 1, low, high =>
    if low < high then
      let middle := (low + high) / 2
      match ranges[middle]? with
      | none => false
      | some (first, last) =>
        if number < first then searchRanges ranges number fuel low middle
        else if last < number then searchRanges ranges number fuel (middle + 1) high
        else true
    else false

/-- Whether a number lies in one of some ordered ranges. -/
def inRanges (ranges : Array (Nat × Nat)) (number : Nat) : Bool :=
  searchRanges ranges number (ranges.size + 1) 0 ranges.size

end TagAudit
