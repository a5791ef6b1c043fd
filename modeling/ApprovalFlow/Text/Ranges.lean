/-!
# Ranges of code points

Classes of characters are given by tables of closed ranges of code points.
-/

namespace ApprovalFlow.Text

/-- Whether a code point lies in one of the ranges. -/
def inRanges (ranges : List (Nat × Nat)) (n : Nat) : Bool :=
  ranges.any fun r => r.1 ≤ n && n ≤ r.2

end ApprovalFlow.Text
