import ApprovalFlow.Proofs.Calls.Closing

/-!
# Only approvers decide

The operator is checked against the caller's copy of a row, however old. The check counts for the
stored row all the same: closing a row leaves its approvers alone, so every copy names the same.

* `World.decided_by_approvers`: the statement for every world that can be reached, whatever the
  tasks are.
-/

namespace ApprovalFlow

/-- The states that only an approver's action gives a row. -/
def TaskStatus.decided : List TaskStatus :=
  [.approved, .rejected, .transferred]

/-- An action that gives a row one of the states of a decision is open to approvers only. -/
theorem Action.approverOnly_of_decided {action : Action} {status : TaskStatus}
    (closes : action.taskStatus = some status) (decided : status ∈ TaskStatus.decided) :
    action ∈ UserTask.approverOnly := by
  cases action <;> cases closes <;> revert decided <;> decide

variable {σ : Type}

namespace TaskRow

/-- The approvers of a row, one by one, are settled by its text. -/
theorem SameTask.approverList_eq {row later : TaskRow} (same : row.SameTask later) :
    later.approverList = row.approverList := by
  rw [approverList, approverList, same.approvers_eq]

/-- A row that is decided, if it is, by one of its approvers. -/
def DecidedByApprover (row : TaskRow) : Prop :=
  row.status ∈ TaskStatus.decided → ∃ u, row.operator = some u ∧ u ∈ row.approverList

end TaskRow

namespace Call

theorem decidedByApprover_of_planned {t : Task} {a : ActionRequest} {c : Context}
    {event : TaskEvent} {row : TaskRow} (planned : UserTask.Planned t a c event row) :
    (TaskTable.bumped row).DecidedByApprover := by
  intro decided
  have only := Action.approverOnly_of_decided planned.status decided
  have same := TaskTable.sameTask_bumped planned.closes.same
  refine ⟨a.operator, planned.operator, ?_⟩
  rw [same.approverList_eq]
  exact planned.approver only

/-- What a lawful completion has stored is decided by an approver, if it is decided. -/
theorem Lawful.decidedByApprover {known : Task → Prop} {table : TaskTable} {call : Call σ}
    (lawful : call.Lawful known table) (completes : call.acted.isSome) {row : TaskRow}
    (member : row ∈ call.stored) : row.DecidedByApprover := by
  rcases (lawful.of_stored completes member).2 with ⟨t, a, c, event, closed, planned, rfl⟩ | served
  · exact decidedByApprover_of_planned planned
  · intro decided
    rcases served with status | status
    · rw [status] at decided
      exact absurd decided (by decide)
    · rw [status] at decided
      exact absurd decided (by decide)

/-- An action that is open to approvers only, by somebody who is none of the stored row's. -/
def Intrudes (call : Call σ) (row : TaskRow) : Prop :=
  ∃ c a, call.entry = .completing .user c ∧ c.action = some a ∧
    a.action ∈ UserTask.approverOnly ∧ a.row.id = row.id ∧ a.operator ∉ row.approverList

/-- An intruder's call makes no difference. -/
theorem Lawful.lost_of_intrudes {known : Task → Prop} {table : TaskTable} {call : Call σ}
    (lawful : call.Lawful known table) (sound : table.Sound) {row : TaskRow}
    (member : row ∈ table.rows) (intrudes : call.Intrudes row) : call.Lost := by
  obtain ⟨c, a, entry, action, only, same, outside⟩ := intrudes
  rcases lawful.lost_or_planned entry with lost | ⟨t, b, event, closed, planned, copied⟩
  · exact lost
  · -- A plan has found the operator among the copy's approvers, which are the row's.
    have one := planned.action.symm.trans action
    cases one
    obtain ⟨stored, there, before⟩ := copied
    have here : stored = row :=
      sound.numbered.eq_of_id_eq there member (before.sameTask.id_eq.trans same)
    refine (outside ?_).elim
    rw [← here, before.sameTask.approverList_eq]
    exact planned.approver only

end Call

namespace World

variable [EventStore σ]

/-- In every world that can be reached, whatever tasks there are: a row that is approved, rejected
or transferred is so by one of its approvers; every copy that was ever handed out of a row names the
approvers that the row has now and will have; and a call for one of the three actions by somebody
who is none of the row's approvers makes no difference and can only fail. -/
theorem decided_by_approvers {w : World σ} (reached : w.Reachable fun _ => True) :
    (∀ row ∈ w.rows, row.status ∈ TaskStatus.decided →
      ∃ u, row.operator = some u ∧ u ∈ row.approverList) ∧
    (∀ later, Later (fun _ => True) w later → ∀ row ∈ later.rows, ∀ copy ∈ w.copies ++ w.rows,
      copy.id = row.id → copy.approvers = row.approvers) ∧
    ∀ row ∈ w.rows, ∀ call ∈ w.calls, call.Intrudes row → call.Lost := by
  have sound := reached.sound
  refine ⟨?_, ?_, ?_⟩
  · intro row member decided
    rcases sound.table.shaped row member with opened | closed
    · rw [opened.status] at decided
      exact absurd decided (by decide)
    · obtain ⟨i, call, found, completes, stored, wrote, same⟩ := sound.wrote row member closed
      have lawful := sound.calls call (List.mem_of_getElem? found)
      have final := (lawful.of_stored completes wrote).1
      have one := sound.table.numbered.eq_of_id_eq final.1 member same
      rw [one] at wrote
      exact lawful.decidedByApprover completes wrote decided
  · intro later run row member copy obtained same
    obtain ⟨soundLater, grows⟩ := Later.sound run sound
    have copied : w.engine.tasks.Copied copy := by
      rcases List.mem_append.1 obtained with old | now
      · exact sound.copies copy old
      · exact ⟨copy, now, TaskRow.Precedes.refl copy⟩
    obtain ⟨stored, there, before⟩ := copied.mono grows
    have one : stored = row :=
      soundLater.table.numbered.eq_of_id_eq there member (before.sameTask.id_eq.trans same)
    rw [← one]
    exact before.sameTask.approvers_eq.symm
  · intro row member call made intrudes
    exact (sound.calls call made).lost_of_intrudes sound.table member intrudes

end World

namespace Race

/-- Somebody approves who is no approver, beside one who is. -/
def intrusion : World EventLog :=
  { entered with calls := entered.calls ++ [Call.begun (approval "mallory")] ++
    [Call.begun (approval "alice")] }.schedule [1, 2, 2, 2, 1]

theorem intrusion_reachable : intrusion.Reachable fun _ => True := by
  have start : opening.Reachable definition.Has :=
    ⟨opening.engine, rfl, Relation.ReflTransGen.single (.begin (.enter has_review))⟩
  have first := (start.schedules [0, 0, 0, 0]).begins (asked_approval "mallory")
  have second := first.begins (asked_approval "alice")
  exact (second.schedules [1, 2, 2, 2, 1]).mono fun _ _ => trivial

theorem entry_intrusion : intrusion.calls[1]?.map Call.entry = some (approval "mallory") := by
  have one : entered.calls.length = 1 := by decide +kernel
  rw [intrusion, World.entry_schedule]
  dsimp only
  rw [List.append_assoc, List.getElem?_append_right (Nat.le_of_eq one), one]
  rfl

/-- The approver has closed the row, the other makes no difference. -/
theorem intrusion_lost :
    ∃ row call, intrusion.rows = [row] ∧ row.operator = some "alice" ∧
      "alice" ∈ row.approverList ∧ intrusion.calls[1]? = some call ∧ call.Lost := by
  obtain ⟨decided, -, lost⟩ := World.decided_by_approvers intrusion_reachable
  have shape : intrusion.rows.map (fun row => (row.id, row.status, row.operator, row.approvers)) =
      [(1, .approved, some "alice", "alice,bob")] := by decide +kernel
  obtain ⟨row, rows_eq, shown⟩ := List.map_eq_singleton_iff.1 shape
  simp only [Prod.mk.injEq] at shown
  obtain ⟨id, status, operator, approvers⟩ := shown
  have here : row ∈ intrusion.rows := by simp [rows_eq]
  obtain ⟨u, by_, among⟩ := decided row here (by rw [status]; decide)
  rw [operator] at by_
  cases by_
  obtain ⟨call, found, entry⟩ := Option.map_eq_some_iff.1 entry_intrusion
  have copyId : (entered.copies.headD default).id = 1 := by decide +kernel
  have outside : "mallory" ∉ row.approverList := by
    rw [TaskRow.approverList, approvers]
    decide +kernel
  refine ⟨row, call, rows_eq, operator, among, found, ?_⟩
  refine lost row here call (List.mem_of_getElem? found) ⟨_, _, entry, rfl, ?_, ?_, outside⟩
  · decide
  · exact copyId.trans id.symm

end Race

end ApprovalFlow
