/-! # Sets of code points given by ranges -/

namespace MailScript.Text

/-- A code point lies in a list of ranges, both ends of a range included. -/
def inRanges (ranges : List (Nat × Nat)) (code : Nat) : Bool :=
  ranges.any fun range => range.1 ≤ code && code ≤ range.2

/-- Membership in a list of ranges is membership in one of them. -/
theorem inRanges_iff (ranges : List (Nat × Nat)) (code : Nat) :
    inRanges ranges code = true ↔ ∃ range ∈ ranges, range.1 ≤ code ∧ code ≤ range.2 := by
  simp [inRanges]

end MailScript.Text
