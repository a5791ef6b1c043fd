import ApprovalFlow.Proofs.Checks
import ApprovalFlow.Proofs.Notify
import ApprovalFlow.Proofs.Store.Copies

/-!
# How a service task ends

The engine completes service tasks itself. It notifies of the completion first, since the listeners
are what does the work, and writes the row when they are through: as completed, or as failed with
what went wrong. So there are two things that can fail, the work and the writing. The caller is told
of the work if it fails, and of the writing only if the work does not. What comes of notifying of a
failure he is not told at all.

* `ServiceTask.Poised`, `ServiceTask.Unready`: the contexts that are at a row that the engine may
  close, and what is wrong with all others.
* `ServiceTask.Ended`: the four ways in which a completion can end then.
* `ServiceTask.complete_ended`: a completion ends so, or has done nothing.
-/

namespace ApprovalFlow

namespace ServiceTask

/-! ## The row of a completion -/

/-- The copy of its row that a task is completed by: the one that comes with the context's action,
or without an action the one that the step has created last for the task. -/
inductive Copy (t : Task) (c : Context) : TaskRow → Prop
  | supplied {a : ActionRequest} : c.action = some a → Copy t c a.row
  | created {before after : List TaskRow} {row : TaskRow} : c.action = none →
    c.newTasks = before ++ row :: after → row.name = t.name →
    (∀ later ∈ after, later.name ≠ t.name) → Copy t c row

/-- A context at a service task, with a copy of a row of the task that waits. -/
structure Poised (c : Context) (t : Task) (row : TaskRow) : Prop where
  current : c.current = some t
  service : ∃ part, t.kind = .service part
  copy : Copy t c row
  pending : row.status = .pending
  named : row.name = t.name

/-- Why a context is not at such a row, and what the caller is told. -/
inductive Unready (c : Context) : WorkflowError → Prop
  /-- It is at no task. -/
  | nowhere : c.current = none →
    Unready c (.configuration ("no current element in process " ++ c.definition.name))
  /-- It is at a task that people approve. -/
  | people {t : Task} {p : UserPart} : c.current = some t → t.kind = .user p →
    Unready c (.configuration ("task " ++ t.name ++ " is not a service task"))
  /-- There is no row. -/
  | rowless {t : Task} {part : ServicePart} : c.current = some t → t.kind = .service part →
    c.action = none → (∀ row ∈ c.newTasks, row.name ≠ t.name) →
    Unready c (.invalidState ("no task row created for " ++ t.name))
  /-- The row does not wait. -/
  | settled {t : Task} {part : ServicePart} {row : TaskRow} : c.current = some t →
    t.kind = .service part → Copy t c row → row.status ≠ .pending →
    Unready c (.invalidState ("task " ++ toString row.id ++ " is " ++ row.status.name ++
      ", expected " ++ TaskStatus.pending.name))
  /-- The row waits, but is one of another task. -/
  | foreign {t : Task} {part : ServicePart} {row : TaskRow} : c.current = some t →
    t.kind = .service part → Copy t c row → row.status = .pending → row.name ≠ t.name →
    Unready c (.configuration
      ("task row " ++ toString row.id ++ " belongs to " ++ row.name ++ ", not " ++ t.name))

/-- The context with an action on a row: its own action, or one of the engine. -/
def onRow (c : Context) (operator : String) (row : TaskRow) : Context :=
  { c with action := some { c.action.getD ⟨.complete, operator, none, none, [], row⟩ with
    row := row } }

variable {t : Task} {c : Context} {row : TaskRow} {operator : String}

theorem withRow_onRow (stored : TaskRow) :
    (onRow c operator row).withRow stored = onRow c operator stored := by
  unfold onRow Context.withRow
  cases c.action <;> rfl

theorem lastRow_eq_some_iff :
    lastRow t c = some row ↔ row.name = t.name ∧ ∃ before after,
      c.newTasks = before ++ row :: after ∧ ∀ later ∈ after, later.name ≠ t.name := by
  unfold lastRow
  rw [List.find?_eq_some_iff_append]
  constructor
  · rintro ⟨named, after, before, reversed, others⟩
    refine ⟨by simpa using named, before.reverse, after.reverse, ?_, ?_⟩
    · rw [← List.reverse_reverse c.newTasks, reversed]
      simp
    · intro later member
      simpa using others later (List.mem_reverse.1 member)
  · rintro ⟨named, before, after, rows, others⟩
    refine ⟨by simpa using named, after.reverse, before.reverse, ?_, ?_⟩
    · rw [rows]
      simp
    · intro later member
      simpa using others later (List.mem_reverse.1 member)

theorem ensureAction_of_copy (copy : Copy t c row) (operator : String) :
    ensureAction t c operator = .ok (onRow c operator row) := by
  unfold ensureAction onRow
  cases copy with
  | supplied action =>
      rw [action, Option.getD_some]
      exact congrArg Except.ok (by rw [← action])
  | created none rows named others =>
      have last := lastRow_eq_some_iff.2 ⟨named, _, _, rows, others⟩
      rw [none, last]
      rfl

/-- Without a copy there is no action, and no row that could stand in. -/
theorem copy_or_rowless (t : Task) (c : Context) :
    (∃ row, Copy t c row) ∨ c.action = none ∧ lastRow t c = none := by
  cases action : c.action with
  | some a => exact Or.inl ⟨a.row, .supplied action⟩
  | none =>
      cases last : lastRow t c with
      | none => exact Or.inr ⟨rfl, rfl⟩
      | some row =>
          obtain ⟨named, before, after, rows, others⟩ := lastRow_eq_some_iff.1 last
          exact Or.inl ⟨row, .created action rows named others⟩

/-! ## The checks -/

theorem prepare_of_poised (poised : Poised c t row) (operator : String) :
    prepare c operator = (.ok (), onRow c operator row) := by
  obtain ⟨part, kind⟩ := poised.service
  have checked : check t = .ok () := check_of_kind kind
  have request : (onRow c operator row).request = .ok _ := rfl
  unfold prepare
  simp only [Context.task_eq_ok_iff.2 poised.current, checked,
    ensureAction_of_copy poised.copy operator, request, Bind.bind, Except.bind,
    UserTask.checkPending_eq_ok_iff.2 poised.pending,
    UserTask.checkTask_eq_ok_iff.2 poised.named]

/-- The checks fail with what is wrong. At most they leave an action behind. -/
theorem prepare_of_not_poised (unready : ¬ ∃ t row, Poised c t row) (operator : String) :
    ∃ err c', Unready c err ∧ prepare c operator = (.error err, c') ∧
      (c' = c ∨ ∃ row, c' = onRow c operator row) := by
  unfold prepare
  cases current : c.current with
  | none =>
      refine ⟨_, c, .nowhere current, ?_, Or.inl rfl⟩
      simp only [Context.task, current]
  | some t =>
      rw [Context.task_eq_ok_iff.2 current]
      cases kind : t.kind with
      | user p =>
          refine ⟨_, c, .people current kind, ?_, Or.inl rfl⟩
          simp only [check, Task.service?, kind]
      | service part =>
          dsimp only
          rw [check_of_kind kind]
          rcases copy_or_rowless t c with ⟨row, copy⟩ | ⟨none, last⟩
          · have request : (onRow c operator row).request = .ok _ := rfl
            simp only [ensureAction_of_copy copy operator, request, Bind.bind, Except.bind]
            by_cases pending : row.status = .pending
            · have foreign : row.name ≠ t.name := fun named =>
                unready ⟨t, row, current, ⟨part, kind⟩, copy, pending, named⟩
              refine ⟨_, _, .foreign current kind copy pending foreign, ?_, Or.inr ⟨row, rfl⟩⟩
              rw [UserTask.checkPending_eq_ok_iff.2 pending, UserTask.checkTask, if_pos foreign]
            · refine ⟨_, _, .settled current kind copy pending, ?_, Or.inr ⟨row, rfl⟩⟩
              rw [UserTask.checkPending, if_pos pending]
          · refine ⟨_, c, .rowless current kind none ?_, ?_, Or.inl rfl⟩
            · simpa [lastRow] using last
            · simp only [ensureAction, none, last]

/-- The checks look for a row that the engine may close. At most they leave an action behind. -/
theorem prepare_cases (c : Context) (operator : String) :
    (∃ t row, Poised c t row ∧ prepare c operator = (.ok (), onRow c operator row)) ∨
      ∃ err c', Unready c err ∧ prepare c operator = (.error err, c') ∧
        (c' = c ∨ ∃ row, c' = onRow c operator row) := by
  by_cases poised : ∃ t row, Poised c t row
  · obtain ⟨t, row, poised⟩ := poised
    exact Or.inl ⟨t, row, poised, prepare_of_poised poised operator⟩
  · exact Or.inr (prepare_of_not_poised poised operator)

theorem poised_of_prepare {ready : Context} (prepared : prepare c operator = (.ok (), ready)) :
    ∃ t row, Poised c t row ∧ ready = onRow c operator row := by
  rcases prepare_cases c operator with ⟨t, row, poised, answer⟩ | ⟨err, c', -, answer, -⟩
  · rw [prepared] at answer
    exact ⟨t, row, poised, (Prod.mk.inj answer).2⟩
  · rw [prepared] at answer
    cases answer

/-! ## Writing the row -/

/-- The row as the engine has closed it. -/
def endedRow (e : Engine τ σ) (row : TaskRow) (status : TaskStatus) (remark : Option String) :
    TaskRow :=
  { row with
    status := status
    operator := some e.settings.systemOperator
    remark := remark
    endTime := some e.now
    version := row.version + 1 }

variable {σ : Type} {e : Engine TaskTable σ}

/-- A current copy is closed in the table and in the context. -/
theorem finish_of_current (c : Context) (operator : String) (current : e.tasks.Current row)
    (status : TaskStatus) (remark : Option String) :
    ∃ table, e.tasks.Puts table (endedRow e row status remark) ∧
      finish status remark (onRow c operator row) e =
        ⟨.ok (endedRow e row status remark), onRow c operator (endedRow e row status remark),
          { e with tasks := table }⟩ := by
  have closed : e.tasks.Current (closedRow row status e.settings.systemOperator remark e.now) :=
    (TaskTable.Current.congr rfl rfl).2 current
  obtain ⟨table, updated, puts⟩ := Engine.updateTask_of_current closed
  refine ⟨table, puts, ?_⟩
  have request : (onRow c operator row).request = .ok _ := rfl
  simp only [finish, request, updated, withRow_onRow]
  rfl

/-- With any other copy all stays as it is. -/
theorem finish_of_not_current (c : Context) (operator : String)
    (other : ¬ e.tasks.Current row) (status : TaskStatus) (remark : Option String) :
    ∃ err, e.tasks.Stale row err ∧ finish status remark (onRow c operator row) e =
      ⟨.error (.store err), onRow c operator row, e⟩ := by
  have refused : ¬ e.tasks.Current
      (closedRow row status e.settings.systemOperator remark e.now) := by
    intro current
    exact other ((TaskTable.Current.congr rfl rfl).1 current)
  obtain ⟨err, stale, kept⟩ := Engine.updateTask_of_not_current refused
  refine ⟨err, stale.congr rfl rfl, ?_⟩
  have request : (onRow c operator row).request = .ok _ := rfl
  simp only [finish, request, kept]

/-! ## The end of a completion -/

variable [EventStore σ]

/-- An event that is notified of once, in a context, while nothing is stored. -/
structure Told (event : TaskEvent) (c : Context) (e e' : Engine TaskTable σ) : Prop where
  notified : (e.notify event c).2 = e'
  tasks : e'.tasks = e.tasks
  dispatched : dispatches e'.trace = dispatches e.trace ++ [⟨.task, event.name, c.snapshot⟩]

/-- How the completion of a task by a copy of its row ends, given what comes of notifying of it.
`on` is the context with an action on a row. -/
structure Ended (c : Context) (e : Engine TaskTable σ) (row : TaskRow) (on : TaskRow → Context) :
    Prop where
  /-- The listeners are notified of the completion, before anything is stored. -/
  works : Told .complete (on row) e (e.notify TaskEvent.complete (on row)).2
  /-- The work succeeds and the row is closed: nothing else is notified of. -/
  completed : ∀ e₁, e.notify TaskEvent.complete (on row) = (.ok (), e₁) → e.tasks.Current row →
    ∃ table, e.tasks.Puts table (endedRow e row .completed none) ∧
      complete c e = ⟨.ok true, on (endedRow e row .completed none), { e₁ with tasks := table }⟩
  /-- The work succeeds and the row cannot be closed: the caller is told so. -/
  overtaken : ∀ e₁, e.notify TaskEvent.complete (on row) = (.ok (), e₁) → ¬ e.tasks.Current row →
    ∃ err, e.tasks.Stale row err ∧ complete c e = ⟨.error (.store err), on row, e₁⟩
  /-- The work fails and the row is closed: the failure is notified of with that row. The caller is
  told what failed, whatever comes of that. -/
  failed : ∀ err e₁, e.notify TaskEvent.complete (on row) = (.error err, e₁) →
    e.tasks.Current row →
    ∃ table e₂, e.tasks.Puts table (endedRow e row .failed (some err.message)) ∧
      Told .fail (on (endedRow e row .failed (some err.message))) { e₁ with tasks := table } e₂ ∧
      complete c e = ⟨.error err, on (endedRow e row .failed (some err.message)), e₂⟩
  /-- The work fails and the row cannot be closed: the failure is notified of all the same, and the
  caller is told what failed. -/
  lost : ∀ err e₁, e.notify TaskEvent.complete (on row) = (.error err, e₁) →
    ¬ e.tasks.Current row →
    ∃ e₂, Told .fail (on row) e₁ e₂ ∧ complete c e = ⟨.error err, on row, e₂⟩

theorem Poised.told (poised : Poised c t row) (event : TaskEvent) (e : Engine TaskTable σ)
    (operator : String) (stored : TaskRow) :
    Told event (onRow c operator stored) e (e.notify event (onRow c operator stored)).2 :=
  ⟨rfl, (Engine.heard_notify e event _).tasks,
    Engine.dispatches_notify (c := onRow c operator stored) poised.current e event⟩

/-- The listeners of a completion leave everything as it was that closing the row depends on. -/
theorem endedRow_of_notify {event : TaskEvent} {e₁ : Engine TaskTable σ}
    {outcome : Except WorkflowError Unit} (notified : e.notify event c = (outcome, e₁))
    (row : TaskRow) (status : TaskStatus) (remark : Option String) :
    e₁.tasks = e.tasks ∧ endedRow e₁ row status remark = endedRow e row status remark := by
  have heard := Engine.heard_notify e event c
  rw [notified] at heard
  refine ⟨heard.tasks, ?_⟩
  rw [endedRow, heard.settings, heard.now, endedRow]

theorem ended_of_poised (poised : Poised c t row) (e : Engine TaskTable σ) :
    Ended c e row (onRow c e.settings.systemOperator) := by
  have prepared := prepare_of_poised poised e.settings.systemOperator
  constructor
  case works => exact poised.told .complete e _ row
  case completed =>
    intro e₁ notified current
    obtain ⟨tasks, same⟩ := endedRow_of_notify notified row .completed none
    obtain ⟨table, puts, finished⟩ := finish_of_current (e := e₁) c e.settings.systemOperator
      (tasks ▸ current) .completed none
    rw [same] at puts finished
    refine ⟨table, tasks ▸ puts, ?_⟩
    simp only [complete, prepared, notified, finished]
  case overtaken =>
    intro e₁ notified other
    obtain ⟨tasks, -⟩ := endedRow_of_notify notified row .completed none
    obtain ⟨err, stale, finished⟩ := finish_of_not_current (e := e₁) c e.settings.systemOperator
      (tasks ▸ other) .completed none
    refine ⟨err, tasks ▸ stale, ?_⟩
    simp only [complete, prepared, notified, finished]
  case failed =>
    intro err e₁ notified current
    obtain ⟨tasks, same⟩ := endedRow_of_notify notified row .failed (some err.message)
    obtain ⟨table, puts, finished⟩ := finish_of_current (e := e₁) c e.settings.systemOperator
      (tasks ▸ current) .failed (some err.message)
    rw [same] at puts finished
    refine ⟨table, _, tasks ▸ puts, poised.told .fail _ _ _, ?_⟩
    simp only [complete, prepared, notified, finished]
  case lost =>
    intro err e₁ notified other
    obtain ⟨tasks, -⟩ := endedRow_of_notify notified row .failed (some err.message)
    obtain ⟨_, -, finished⟩ := finish_of_not_current (e := e₁) c e.settings.systemOperator
      (tasks ▸ other) .failed (some err.message)
    refine ⟨_, poised.told .fail e₁ _ row, ?_⟩
    simp only [complete, prepared, notified, finished]

/-- Whatever its context, and whatever is stored and whoever listens, a completion by the engine
ends in one of four ways if it is at a row that it may close. Otherwise it fails at once, and
nothing is stored, dispatched, run or left to a pool. -/
theorem complete_ended (c : Context) (e : Engine TaskTable σ) :
    (∀ t row, Poised c t row → Ended c e row (onRow c e.settings.systemOperator)) ∧
      ((¬ ∃ t row, Poised c t row) → ∃ err c', Unready c err ∧ complete c e = ⟨.error err, c', e⟩ ∧
        (c' = c ∨ ∃ row, c' = onRow c e.settings.systemOperator row)) := by
  refine ⟨fun t row poised => ended_of_poised poised e, ?_⟩
  intro unready
  obtain ⟨err, c', reason, prepared, left⟩ :=
    prepare_of_not_poised unready e.settings.systemOperator
  refine ⟨err, c', reason, ?_, left⟩
  simp only [complete, prepared]

end ServiceTask

end ApprovalFlow
