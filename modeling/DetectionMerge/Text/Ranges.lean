/-! Classes of characters, given as lists of inclusive ranges of code points. -/

namespace DetectionMerge.Text

/-- The first and the last code point of a run. -/
abbrev CodeRange := Nat × Nat

/-- Whether the code point of `c` lies in one of the ranges. -/
def inRanges (ranges : List CodeRange) (c : Char) : Bool :=
  ranges.any fun r => decide (r.1 ≤ c.toNat ∧ c.toNat ≤ r.2)

end DetectionMerge.Text
