/-
  LineShell/Text/Ranges.lean
  ==========================
  **Tables of code points.**

  A class of characters is given by the ranges of its code points, each as its
  first and last one, in ascending order.  A code point is looked up by halving
  the table.
-/

namespace LineShell

/-- Look for a code point among the ranges with index from `low` up to `high`,
    halving the interval in each of at most `steps` steps. -/
def inRangesBetween (ranges : Array (Nat × Nat)) (code : Nat) : Nat → Nat → Nat → Bool
  | 0, _, _ => false
  | steps + 1, low, high =>
    if high ≤ low then false
    else
      let middle := (low + high) / 2
      match ranges[middle]? with
      | none => false
      | some (first, last) =>
        if code < first then inRangesBetween ranges code steps low middle
        else if last < code then inRangesBetween ranges code steps (middle + 1) high
        else true

/-- Does a code point lie in one of the ranges? -/
def inRanges (ranges : Array (Nat × Nat)) (code : Nat) : Bool :=
  inRangesBetween ranges code ranges.size 0 ranges.size

end LineShell
