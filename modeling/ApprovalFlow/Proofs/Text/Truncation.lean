import ApprovalFlow.Report.Replay

/-!
# Texts that are cut

A text that is too long for its place is cut, and ends in a mark then. The mark is written in full
however small the place is, so the limit is kept only where the mark has room.

* `Text.length_truncated`: how long a text is that is cut.
* `Text.truncated_within_iff`: when the limit is kept, when a text is left alone, and what is left
  of one that is cut.
* `Report.length_remarkCell_le`: the remarks in a report keep theirs.
-/

namespace ApprovalFlow

namespace Text

variable {most : Nat} {s : String}

theorem toList_truncated (long : most < s.toList.length) :
    (truncated most s).toList = s.toList.take (most - cutMark.length) ++ cutMark := by
  rw [truncated, if_neg (Nat.not_le_of_lt long), String.toList_ofList]

/-- Where the mark has no room nothing but the mark is left. -/
theorem toList_truncated_of_narrow (long : most < s.toList.length)
    (narrow : most < cutMark.length) : (truncated most s).toList = cutMark := by
  rw [toList_truncated long, Nat.sub_eq_zero_of_le (Nat.le_of_lt narrow), List.take_zero,
    List.nil_append]

/-- What is cut fills its place, or is as long as the mark. -/
theorem length_truncated (long : most < s.toList.length) :
    (truncated most s).toList.length = max most cutMark.length := by
  rw [toList_truncated long, List.length_append, List.length_take]
  omega

theorem truncated_eq_self_iff :
    truncated most s = s ↔ s.toList.length ≤ most ∨ most < cutMark.length ∧ s.toList = cutMark := by
  rcases Nat.lt_or_ge most s.toList.length with long | short
  · rw [← String.toList_inj]
    constructor
    · intro same
      have length := length_truncated long
      rw [same] at length
      have narrow : most < cutMark.length := by omega
      exact Or.inr ⟨narrow, same.symm.trans (toList_truncated_of_narrow long narrow)⟩
    · rintro (short | ⟨narrow, same⟩)
      · omega
      · exact (toList_truncated_of_narrow long narrow).trans same.symm
  · exact iff_of_true (truncated_of_length_le short) (Or.inl short)

/-- Cutting again changes nothing: what has been cut is short enough, or is the bare mark. -/
theorem truncated_truncated (most : Nat) (s : String) :
    truncated most (truncated most s) = truncated most s := by
  rw [truncated_eq_self_iff]
  rcases Nat.lt_or_ge most s.toList.length with long | short
  · have length := length_truncated long
    rcases Nat.lt_or_ge most cutMark.length with narrow | wide
    · exact Or.inr ⟨narrow, toList_truncated_of_narrow long narrow⟩
    · left
      omega
  · rw [truncated_of_length_le short]
    exact Or.inl short

/-- The limit is kept by a text that is short enough and wherever the mark has room. A text is left
alone if it is short enough, or if it is the mark itself and the mark has no room. What is cut is
the beginning of the text with the mark behind it, and does not change any more. -/
theorem truncated_within_iff (most : Nat) (s : String) :
    ((truncated most s).toList.length ≤ most ↔
        s.toList.length ≤ most ∨ cutMark.length ≤ most) ∧
      (truncated most s = s ↔
        s.toList.length ≤ most ∨ most < cutMark.length ∧ s.toList = cutMark) ∧
      (most < s.toList.length → ∃ kept, kept <+: s.toList ∧
        kept.length = most - cutMark.length ∧ (truncated most s).toList = kept ++ cutMark) ∧
      truncated most (truncated most s) = truncated most s := by
  refine ⟨?_, truncated_eq_self_iff, fun long => ?_, truncated_truncated most s⟩
  · rcases Nat.lt_or_ge most s.toList.length with long | short
    · rw [length_truncated long]
      omega
    · rw [truncated_of_length_le short]
      exact iff_of_true short (Or.inl short)
  · refine ⟨_, List.take_prefix _ _, ?_, toList_truncated long⟩
    rw [List.length_take]
    omega

/-- A text that is cut to ten characters: seven are kept. -/
theorem truncated_quota : truncated 10 "quota exceeded for group" = "quota e..." ∧
    ∃ kept, kept <+: "quota exceeded for group".toList ∧ kept.length = 7 ∧
      (truncated 10 "quota exceeded for group").toList = kept ++ cutMark :=
  ⟨by decide, (truncated_within_iff 10 "quota exceeded for group").2.2.1 (by decide)⟩

/-- Two characters are too few for the mark. -/
theorem truncated_short_exceeds : 2 < (truncated 2 "short").toList.length := by
  decide

end Text

/-- The mark has room in a remark. -/
theorem Report.length_remarkCell_le (remark : Option String) :
    (remarkCell remark).toList.length ≤ remarkLimit := by
  unfold remarkCell
  rcases Nat.lt_or_ge remarkLimit (remark.getD absent).toList.length with long | short
  · exact Nat.le_of_eq (Text.length_truncated long)
  · rw [Text.truncated_of_length_le short]
    exact short

end ApprovalFlow
