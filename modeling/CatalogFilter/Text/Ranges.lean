/-!
# Ranges of code points

A character property that has no short rule is a list of inclusive ranges of code points. The main
statement says when a range list holds a code point.
-/

namespace CatalogFilter.Text

/-- Whether one of the inclusive ranges holds `code`. -/
def inRanges (ranges : List (Nat × Nat)) (code : Nat) : Bool :=
  ranges.any fun range => range.1 ≤ code && code ≤ range.2

theorem inRanges_eq_true_iff
    {ranges : List (Nat × Nat)} {code : Nat} :
    inRanges ranges code = true ↔
      ∃ range ∈ ranges, range.1 ≤ code ∧ code ≤ range.2 := by
  simp [inRanges]

end CatalogFilter.Text
