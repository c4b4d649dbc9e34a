/-!
# Ranges of code points

Character classes beyond ASCII are given as sorted lists of closed intervals of code points.
`inRanges` is membership in such a list.
-/

namespace Blueprint.Text

/-- Whether code point `n` lies in one of the closed intervals. -/
def inRanges (ranges : List (Nat × Nat)) (n : Nat) : Bool :=
  ranges.any fun r => r.1 ≤ n && n ≤ r.2

theorem inRanges_eq_true_iff {ranges : List (Nat × Nat)} {n : Nat} :
    inRanges ranges n = true ↔ ∃ r ∈ ranges, r.1 ≤ n ∧ n ≤ r.2 := by
  simp [inRanges]

end Blueprint.Text
