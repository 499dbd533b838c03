/-
Module: SqlLineage.Text.CodeRange
Purpose: Membership of a character in a list of closed ranges of code points.
Main exports: CodeRanges, CodeRanges.holds
-/

namespace SqlLineage.Text

/-- Closed ranges of code points, smallest first, that do not touch. -/
abbrev CodeRanges := List (Nat × Nat)

/-- Whether a range of the list holds the code point. -/
def CodeRanges.holds (ranges : CodeRanges) (code : Nat) : Bool :=
  ranges.any fun range => range.1 ≤ code && code ≤ range.2

theorem CodeRanges.holds_iff (ranges : CodeRanges) (code : Nat) :
    ranges.holds code = true ↔ ∃ range ∈ ranges, range.1 ≤ code ∧ code ≤ range.2 := by
  simp [CodeRanges.holds]

end SqlLineage.Text
