import ApprovalFlow.Proofs.Calls.Invariant
import ApprovalFlow.Proofs.Definition
import ApprovalFlow.Store.EventLog

/-!
# A row is closed once

For the tasks of one definition, whatever calls are made and however their steps fall between one
another, a row of a user task is closed by one call, which alone notifies of it, and every other
call on the row is refused and does nothing. The name of a task settles whether people or the engine
do it, so a service task's completion never gets past its checks with a user task's row.

* `World.rows_closed_once`: the statement for every world that can be reached.
-/

namespace ApprovalFlow

variable {σ : Type}

namespace Call

/-- The call that has closed a row: it has stored that row and no other, and once it is done, one
pass of the event that goes with the row has been made. -/
def Won (call : Call σ) (row : TaskRow) : Prop :=
  call.stored = [row] ∧
    ((∃ c, call.stage = .telling row.status.event c) ∧ call.observed = [] ∨
      (∃ result c, call.stage = .done result c) ∧ row.Passed call.observed)

/-- A call that makes no difference: none of its steps changes anything, and it can only end with an
error of its checks or a conflict. -/
def Lost (call : Call σ) : Prop :=
  call.Quiet ∧ ∀ result c, call.stage = .done result c →
    ∃ p c₀ err, call.entry = .completing p c₀ ∧ Refused p c₀ err ∧ result = .error err

theorem Lost.silent {call : Call σ} (lost : call.Lost) :
    call.stored = [] ∧ call.observed = [] :=
  ⟨lost.1.stored_eq_nil, lost.1.observed_eq_nil⟩

/-- A user task's completion makes no difference as long as its action has not passed the checks. -/
theorem Lawful.lost_or_planned {known : Task → Prop} {table : TaskTable} {call : Call σ}
    (lawful : call.Lawful known table) {c : Context} (entry : call.entry = .completing .user c) :
    call.Lost ∨ ∃ t a event closed,
      UserTask.Planned t a c event closed ∧ table.Copied a.row := by
  cases lawful with
  | asked asked =>
      refine Or.inl ⟨Turn.quiet_nil, ?_⟩
      intro result c' done
      cases entry
      cases done
  | storing => cases entry
  | announcing => cases entry
  | entered => cases entry
  | refused why quiet =>
      refine Or.inl ⟨quiet, ?_⟩
      intro result c' done
      cases done
      exact ⟨_, _, _, rfl, why, rfl⟩
  | closing isKnown planned copied =>
      cases entry
      exact Or.inr ⟨_, _, _, _, planned, copied⟩
  | telling isKnown planned copied =>
      cases entry
      exact Or.inr ⟨_, _, _, _, planned, copied⟩
  | told isKnown planned copied =>
      cases entry
      exact Or.inr ⟨_, _, _, _, planned, copied⟩
  | serving => cases entry

/-- A completion on a row of a user task has closed the row or makes no difference. -/
theorem Lawful.won_or_lost {d : ProcessDefinition} {table : TaskTable} {call : Call σ}
    (lawful : call.Lawful d.Has table) (sound : table.Sound) {row copy : TaskRow}
    (member : row ∈ table.rows) (known : row.Known d.Has) (user : row.taskType = Task.userType)
    (acts : call.acted = some copy) (same : copy.id = row.id) : call.Won row ∨ call.Lost := by
  -- The copy is one of this very row.
  have copied : ∀ {copy : TaskRow}, table.Copied copy → copy.id = row.id → copy.SameTask row := by
    rintro copy ⟨stored, there, before⟩ same
    have one : stored = row :=
      sound.numbered.eq_of_id_eq there member (before.sameTask.id_eq.trans same)
    exact one ▸ before.sameTask
  have closes : ∀ {t : Task} {a : ActionRequest} {c₀ : Context} {event : TaskEvent}
      {closed : TaskRow}, UserTask.Planned t a c₀ event closed → c₀.acted .user = some copy →
      table.Final (TaskTable.bumped closed) → TaskTable.bumped closed = row := by
    intro t a c₀ event closed planned acts final
    rw [planned.acted] at acts
    cases acts
    exact sound.numbered.eq_of_id_eq final.1 member (planned.closes.same.id_eq.trans same)
  cases lawful with
  | asked asked =>
      refine Or.inr ⟨Turn.quiet_nil, ?_⟩
      rintro result c done
      cases asked with
      | enter => cases done
      | complete => cases done
  | storing => cases acts
  | announcing => cases acts
  | entered => cases acts
  | refused why quiet =>
      refine Or.inr ⟨quiet, ?_⟩
      rintro result c done
      cases done
      exact ⟨_, _, _, rfl, why, rfl⟩
  | closing isKnown planned isCopied quiet =>
      refine Or.inr ⟨quiet, ?_⟩
      rintro result c done
      cases done
  | @telling t a c₀ event closed turns isKnown planned isCopied final wrote silent =>
      have one := closes planned acts final
      rw [one] at wrote
      have follows : event = (TaskTable.bumped closed).status.event :=
        Action.event_of_taskStatus planned.status planned.event
      rw [one] at follows
      rw [follows]
      exact Or.inl ⟨wrote, Or.inl ⟨⟨_, rfl⟩, silent⟩⟩
  | told isKnown planned isCopied final wrote passed =>
      have one := closes planned acts final
      rw [one] at wrote passed
      exact Or.inl ⟨wrote, Or.inr ⟨⟨_, _, rfl⟩, passed⟩⟩
  | @serving t a c₀ ready stage turns isKnown prepared isCopied serves served =>
      have acted : some a.row = some copy := prepared.acted.symm.trans acts
      cases acted
      obtain ⟨t', isKnown', name, taskType⟩ := known
      have named : t'.name = t.name := by
        rw [name, (copied isCopied same).name_eq, prepared.name]
      rw [isKnown'.eq_of_name_eq isKnown named, prepared.isService, user] at taskType
      simp [Task.serviceType, Task.userType] at taskType

end Call

namespace World

variable [EventStore σ]

/-- In every world that can be reached, a stored row is open or closed, and an id finds for ever
what it found, as it was or closed; a closed row stays as it is. A row is closed by one completion,
and by none before it is closed. Of the completions that act on a user task's row, by whatever
copy, the one that closes it has stored just that row and makes one pass of the event that goes
with it, and every other makes no difference and can only fail. -/
theorem rows_closed_once (d : ProcessDefinition) {w : World σ} (reached : w.Reachable d.Has) :
    (∀ row ∈ w.rows, row.IsOpen ∨ row.IsClosed) ∧
    (∀ later, Later d.Has w later → ∀ row ∈ w.rows,
      ∃ now, later.engine.tasks.get? row.id = some now ∧ row.Precedes now ∧
        (row.IsClosed → now = row)) ∧
    (∀ i j id, w.Wrote i id → w.Wrote j id → i = j) ∧
    (∀ row ∈ w.rows, row.IsClosed ↔ ∃ i, w.Wrote i row.id) ∧
    ∀ row ∈ w.rows, row.taskType = Task.userType →
      ∀ (i : Nat) (call : Call σ) (copy : TaskRow), w.calls[i]? = some call →
        call.acted = some copy → copy.id = row.id →
        w.Wrote i row.id ∧ call.Won row ∨ ¬ w.Wrote i row.id ∧ call.Lost := by
  have sound := reached.sound
  refine ⟨sound.table.shaped, ?_, sound.once, ?_, ?_⟩
  · intro later run row member
    obtain ⟨soundLater, grows⟩ := Later.sound run sound
    obtain ⟨now, there, before⟩ := grows row member
    have found := soundLater.table.numbered.get?_eq_some_iff.2 ⟨there, before.sameTask.id_eq⟩
    exact ⟨now, found, before, before.eq_of_isClosed⟩
  · intro row member
    constructor
    · exact sound.wrote row member
    · rintro ⟨i, wrote⟩
      obtain ⟨closed, final, same⟩ := sound.final_of_wrote wrote
      rw [← sound.table.numbered.eq_of_id_eq final.1 member same]
      exact final.2
  · intro row member user i call copy found acts same
    have lawful := sound.calls call (List.mem_of_getElem? found)
    rcases lawful.won_or_lost sound.table member (sound.named row member) user acts same with
      won | lost
    · have completes : call.acted.isSome := Option.isSome_of_eq_some acts
      refine Or.inl ⟨⟨call, found, completes, row, ?_, rfl⟩, won⟩
      rw [won.1]
      exact List.mem_singleton_self row
    · refine Or.inr ⟨?_, lost⟩
      rintro ⟨other, place, -, stored, wrote, -⟩
      rw [found] at place
      cases place
      rw [lost.silent.1] at wrote
      cases wrote

end World

/-! ## Two approvers at once -/

namespace Race

/-- A task that one of two people has to approve. -/
def review : Task where
  name := "review"
  displayName := "Review"
  kind := .user ⟨fun _ => ["alice", "bob"], false, none⟩
  listeners := .empty
  next := [ProcessDefinition.endName]

/-- A process of that task alone. -/
def definition : ProcessDefinition :=
  { ProcessDefinition.named "P" "P" with tasks := [review], start := ["review"] }

/-- A context of the process. -/
def context : Context :=
  .base definition (.opened 1 "P" "carol" default) none

/-- The world before any step of the call that enters the task. -/
def opening : World EventLog where
  engine := .new ⟨.empty, .empty, "system"⟩ 1 none .empty .empty .empty default
  copies := []
  calls := [.begun (.entering .user review context)]

/-- The task is entered. -/
def entered : World EventLog :=
  opening.schedule [0, 0, 0, 0]

/-- The approval of somebody who has a copy of the row. -/
def approval (who : String) : Stage :=
  .completing .user { context with
    current := some review
    action := some ⟨.approve, who, none, none, [], entered.copies.headD default⟩ }

/-- Both approvers have asked, with copies of the same row. -/
def asked : World EventLog :=
  { entered with calls := entered.calls ++ [Call.begun (approval "alice")] ++
    [Call.begun (approval "bob")] }

/-- Both pass the checks before either writes; then the second is faster. -/
def race : World EventLog :=
  asked.schedule [1, 2, 2, 1, 2]

theorem has_review : definition.Has review := by
  rfl

theorem asked_approval (who : String) :
    (approval who).Asked definition.Has (· ∈ entered.copies) := by
  refine .complete ?_ ?_
  · rintro t ⟨⟩
    exact has_review
  · rintro row ⟨⟩
    change entered.copies.headD default ∈ entered.copies
    decide +kernel

theorem race_reachable : race.Reachable definition.Has := by
  have start : opening.Reachable definition.Has :=
    ⟨opening.engine, rfl, Relation.ReflTransGen.single (.begin (.enter has_review))⟩
  have first := (start.schedules [0, 0, 0, 0]).begins (asked_approval "alice")
  exact (first.begins (asked_approval "bob")).schedules [1, 2, 2, 1, 2]

/-- The faster of the two approvers has closed the row, the other makes no difference. -/
theorem race_closed_once :
    ∃ row bob alice, race.rows = [row] ∧ row.status = .approved ∧ row.operator = some "bob" ∧
      race.calls[2]? = some bob ∧ bob.Won row ∧ race.calls[1]? = some alice ∧ alice.Lost := by
  obtain ⟨-, -, -, -, settled⟩ := World.rows_closed_once definition race_reachable
  have shape : race.rows.map (fun row => (row.id, row.taskType, row.status, row.operator)) =
      [(1, Task.userType, .approved, some "bob")] := by decide +kernel
  have acted : ∀ i ∈ [1, 2], (race.calls[i]?.bind Call.acted).map (·.id) = some 1 := by
    decide +kernel
  have wrote : ∀ i ∈ [1, 2], race.calls[i]?.map (·.stored.length) = some (i - 1) := by
    decide +kernel
  obtain ⟨row, rows_eq, shown⟩ := List.map_eq_singleton_iff.1 shape
  simp only [Prod.mk.injEq] at shown
  obtain ⟨id, user, status, operator⟩ := shown
  have outcome : ∀ i ∈ [1, 2], ∃ call, race.calls[i]? = some call ∧ call.stored.length = i - 1 ∧
      (call.Won row ∨ call.Lost) := by
    intro i member
    have one := acted i member
    have count := wrote i member
    cases found : race.calls[i]? with
    | none => simp [found] at count
    | some call =>
        simp only [found, Option.bind_some, Option.map_eq_some_iff, Option.map_some,
          Option.some.injEq] at one count
        obtain ⟨copy, acts, same⟩ := one
        have here : row ∈ race.rows := by simp [rows_eq]
        refine ⟨call, rfl, count, ?_⟩
        rcases settled row here user i call copy found acts (same.trans id.symm) with won | lost
        · exact Or.inl won.2
        · exact Or.inr lost.2
  obtain ⟨alice, aliceFound, aliceCount, aliceEnd⟩ := outcome 1 (by simp)
  obtain ⟨bob, bobFound, bobCount, bobEnd⟩ := outcome 2 (by simp)
  refine ⟨row, bob, alice, rows_eq, status, operator, bobFound, ?_, aliceFound, ?_⟩
  · rcases bobEnd with won | lost
    · exact won
    · simp [lost.silent.1] at bobCount
  · rcases aliceEnd with won | lost
    · simp [won.1] at aliceCount
    · exact lost

end Race

end ApprovalFlow
