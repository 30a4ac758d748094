/-! # Tables of character ranges

A Unicode property is given as the list of the ranges of code points that have it, and one with
several values as the list of ranges with their values. -/

namespace Dialogue.Text

/-- Whether code point `n` lies in one of the ranges, whose ends are included. -/
def inRanges (ranges : Array (Nat × Nat)) (n : Nat) : Bool :=
  ranges.any fun (low, high) => low ≤ n && n ≤ high

/-- The value at code point `n`, if it lies in one of the ranges. -/
def rangeValue? {α : Type} (ranges : Array (Nat × Nat × α)) (n : Nat) : Option α :=
  (ranges.find? fun (low, high, _) => low ≤ n && n ≤ high).map fun (_, _, value) => value

end Dialogue.Text
