/-!
# Ranges of code points

Properties of characters are given as increasing arrays of closed ranges, searched by halving.
-/
namespace BuildingModel.Text

/-- Whether a range at a position from `low` up to `high` holds `n`; `steps` bounds the halvings. -/
def inRangesBetween (ranges : Array (Nat × Nat)) (n : Nat) : Nat → Nat → Nat → Bool
  | 0, _, _ => false
  | steps + 1, low, high =>
    if low < high then
      let mid := (low + high) / 2
      match ranges[mid]? with
      | none => false
      | some (first, last) =>
        if n < first then inRangesBetween ranges n steps low mid
        else if last < n then inRangesBetween ranges n steps (mid + 1) high
        else true
    else false

def inRanges (ranges : Array (Nat × Nat)) (n : Nat) : Bool :=
  inRangesBetween ranges n (ranges.size + 1) 0 ranges.size

end BuildingModel.Text
