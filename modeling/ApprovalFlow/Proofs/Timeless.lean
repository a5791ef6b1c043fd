import ApprovalFlow.Context
import ApprovalFlow.Proofs.TaskTable
import Mathlib.Data.List.Forall2

/-!
# Rows without their times

Two rows are alike if they differ at most in when they were opened and closed; whether they have
been closed is no matter of time. A table is searched, counted and changed without a look at the
clock: `TaskTable.Alike.insert` and `TaskTable.Alike.update` keep two tables alike.
-/

namespace ApprovalFlow

/-- Two rows that differ at most in their times. -/
structure ProcessRow.Alike (row row' : ProcessRow) : Prop where
  same : row' = { row with startTime := row'.startTime, endTime := row'.endTime }
  ended : row'.endTime.isSome = row.endTime.isSome

namespace ProcessRow.Alike

variable {row row' : ProcessRow}

theorem id_eq (alike : row.Alike row') : row'.id = row.id := by
  rw [alike.same]

theorem name_eq (alike : row.Alike row') : row'.name = row.name := by
  rw [alike.same]

theorem displayName_eq (alike : row.Alike row') : row'.displayName = row.displayName := by
  rw [alike.same]

theorem applicant_eq (alike : row.Alike row') : row'.applicant = row.applicant := by
  rw [alike.same]

theorem status_eq (alike : row.Alike row') : row'.status = row.status := by
  rw [alike.same]

theorem groupId_eq (alike : row.Alike row') : row'.groupId = row.groupId := by
  rw [alike.same]

/-- Closing two rows, each at its own time. -/
theorem close (alike : row.Alike row') (status : ProcessStatus) (now now' : Instant) :
    Alike { row with status := status, endTime := some now }
      { row' with status := status, endTime := some now' } := by
  refine ⟨?_, rfl⟩
  rw [alike.same]

end ProcessRow.Alike

/-- Two rows that differ at most in their times. -/
structure TaskRow.Alike (row row' : TaskRow) : Prop where
  same : row' = { row with startTime := row'.startTime, endTime := row'.endTime }
  ended : row'.endTime.isSome = row.endTime.isSome

namespace TaskRow.Alike

variable {row row' : TaskRow}

theorem refl (row : TaskRow) : row.Alike row :=
  ⟨rfl, rfl⟩

theorem id_eq (alike : row.Alike row') : row'.id = row.id := by
  rw [alike.same]

theorem processId_eq (alike : row.Alike row') : row'.processId = row.processId := by
  rw [alike.same]

theorem name_eq (alike : row.Alike row') : row'.name = row.name := by
  rw [alike.same]

theorem approvers_eq (alike : row.Alike row') : row'.approvers = row.approvers := by
  rw [alike.same]

theorem status_eq (alike : row.Alike row') : row'.status = row.status := by
  rw [alike.same]

theorem formData_eq (alike : row.Alike row') : row'.formData = row.formData := by
  rw [alike.same]

theorem extParams_eq (alike : row.Alike row') : row'.extParams = row.extParams := by
  rw [alike.same]

theorem version_eq (alike : row.Alike row') : row'.version = row.version := by
  rw [alike.same]

theorem isApprover_eq (alike : row.Alike row') (user : String) :
    row'.isApprover user = row.isApprover user := by
  unfold isApprover approverList
  rw [alike.approvers_eq]

/-- Two rows that wait, each since its own time. -/
theorem waiting {process process' : ProcessRow} (same : process.Alike process')
    (taskType name displayName approvers : String) (now now' : Instant) :
    (TaskRow.waiting taskType process name displayName approvers now).Alike
      (TaskRow.waiting taskType process' name displayName approvers now') := by
  refine ⟨?_, rfl⟩
  unfold TaskRow.waiting
  rw [same.id_eq, same.name_eq, same.displayName_eq, same.applicant_eq]

/-- Rewriting two rows in one way, each at its own time. -/
theorem rewrite (alike : row.Alike row') (status : TaskStatus) (operator remark : Option String)
    (formData extParams : Option String) (now now' : Instant) :
    Alike { row with
        status := status, operator := operator, remark := remark, formData := formData
        endTime := some now, extParams := extParams }
      { row' with
        status := status, operator := operator, remark := remark, formData := formData
        endTime := some now', extParams := extParams } := by
  refine ⟨?_, rfl⟩
  rw [alike.same]

theorem renumber (alike : row.Alike row') (id version : Int) :
    Alike { row with id := id, version := version } { row' with id := id, version := version } := by
  refine ⟨?_, alike.ended⟩
  rw [alike.same]

theorem bumped (alike : row.Alike row') :
    (TaskTable.bumped row).Alike (TaskTable.bumped row') := by
  refine ⟨?_, alike.ended⟩
  rw [alike.same]
  rfl

end TaskRow.Alike

/-- Two actions on rows that are alike. -/
structure ActionRequest.Alike (a a' : ActionRequest) : Prop where
  same : a' = { a with row := a'.row }
  row : a.row.Alike a'.row

theorem ActionRequest.Alike.refl (a : ActionRequest) : a.Alike a :=
  ⟨rfl, TaskRow.Alike.refl a.row⟩

/-! ## Tables -/

/-- Two tables whose rows are alike, one by one. -/
def TaskTable.Alike (t t' : TaskTable) : Prop :=
  List.Forall₂ TaskRow.Alike t.rows t'.rows

namespace TaskTable.Alike

variable {t t' : TaskTable}

theorem fresh (alike : t.Alike t') {row row' : TaskRow} (new : row.Alike row') :
    (t.fresh row).Alike (t'.fresh row') := by
  have next : t'.nextId = t.nextId := by
    unfold nextId
    rw [List.Forall₂.length_eq alike]
  unfold TaskTable.fresh
  rw [next]
  exact new.renumber _ _

theorem insert (alike : t.Alike t') {row row' : TaskRow} (new : row.Alike row') :
    (t.insert row).Alike (t'.insert row') :=
  List.rel_append alike (.cons (alike.fresh new) .nil)

theorem replace (alike : t.Alike t') {row row' : TaskRow} (new : row.Alike row') :
    (t.replace row).Alike (t'.replace row') := by
  unfold TaskTable.Alike TaskTable.replace
  rw [List.forall₂_map_left_iff, List.forall₂_map_right_iff]
  refine List.Forall₂.imp ?_ alike
  intro old old' same
  rw [same.id_eq, new.id_eq]
  split
  · exact new
  · exact same

/-- Looking a row up finds rows that are alike. -/
theorem find? (alike : t.Alike t') {p : TaskRow → Bool} (blind : ∀ row row' : TaskRow,
    row.Alike row' → p row' = p row) :
    Option.Rel TaskRow.Alike (t.rows.find? p) (t'.rows.find? p) := by
  unfold TaskTable.Alike at alike
  generalize t.rows = rows at alike
  generalize t'.rows = rows' at alike
  induction alike with
  | nil => exact .none
  | @cons row row' _ _ first _ ih =>
      rw [List.find?_cons, List.find?_cons, blind row row' first]
      cases p row with
      | true => exact .some first
      | false => exact ih

/-- An update of rows that are alike fails in both tables or in none. -/
theorem update (alike : t.Alike t') {row row' : TaskRow} (new : row.Alike row') :
    (∃ err, t.update row = (.error err, t) ∧ t'.update row' = (.error err, t')) ∨
      (t.update row = (.ok (bumped row), t.replace (bumped row)) ∧
        t'.update row' = (.ok (bumped row'), t'.replace (bumped row'))) := by
  have found : Option.Rel TaskRow.Alike (t.get? row.id) (t'.get? row.id) := by
    refine alike.find? ?_
    intro old old' same
    rw [same.id_eq]
  unfold TaskTable.update
  rw [new.id_eq, new.version_eq]
  generalize t.get? row.id = stored at found
  generalize t'.get? row.id = stored' at found
  cases found with
  | none => exact Or.inl ⟨_, rfl, rfl⟩
  | some same =>
      dsimp only
      rw [same.version_eq]
      split
      · exact Or.inl ⟨_, rfl, rfl⟩
      · exact Or.inr ⟨rfl, rfl⟩

theorem count_eq (alike : t.Alike t') (processId : Int) (name : String) (status : TaskStatus) :
    t'.count processId name status = t.count processId name status := by
  unfold TaskTable.Alike at alike
  unfold TaskTable.count
  generalize t.rows = rows at alike
  generalize t'.rows = rows' at alike
  induction alike with
  | nil => rfl
  | cons first _ ih =>
      rw [List.countP_cons, List.countP_cons, ih, first.processId_eq, first.name_eq,
        first.status_eq]

theorem ofProcess (alike : t.Alike t') (processId : Int) :
    List.Forall₂ TaskRow.Alike (t.ofProcess processId) (t'.ofProcess processId) := by
  refine List.rel_filter ?_ alike
  intro row row' same
  dsimp only
  rw [same.processId_eq]

end TaskTable.Alike

end ApprovalFlow
