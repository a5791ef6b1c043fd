import ApprovalFlow.Proofs.Audit.Provenance
import ApprovalFlow.Proofs.Registering
import ApprovalFlow.Proofs.Scenario.Calls
import ApprovalFlow.Proofs.Tasks.Completion
import ApprovalFlow.Proofs.Tasks.Decision
import ApprovalFlow.Proofs.Tasks.Entering

/-!
# What listeners get to see

A processor goes on with its own context while listeners are at work, and those left to a pool may
run long after the call has returned. What a listener sees is nevertheless the context as it was
when its event was notified of.

* `ProcessorCall`: entering a task or completing one, and `Deed`: one thing that is done for it.
* `ProcessorCall.Shows`: the contexts in which a call notifies of its events.
* `ProcessorCall.exists_course`: a call does its deeds, whatever is in the log and in the pools.
* `Deed.Makes`, `ProcessorCall.Sees`: the runs that are made for an event, and what the listeners of
  an event of a call see.
* `ProcessorCall.listeners_see`: that is what they see, whoever goes first while the call is made
  and after it.
-/

namespace ApprovalFlow

/-- A call of a processor. -/
inductive ProcessorCall where
  /-- A task is entered. -/
  | enter (p : Processor) (t : Task)
  /-- The task that the context is at is completed. -/
  | complete (p : Processor)

/-- What comes of a call. -/
def ProcessorCall.reply {τ σ : Type} [TaskStore τ] [EventStore σ] (k : ProcessorCall)
    (c : Context) (e : Engine τ σ) : Reply τ σ Unit :=
  match k with
  | enter p t => p.create t c e
  | complete p =>
    ⟨(p.complete c e).result.map fun _ => (), (p.complete c e).context, (p.complete c e).engine⟩

/-- One thing that a processor does to the engine. -/
inductive Deed where
  | stores (tasks : TaskTable)
  | tells (event : TaskEvent) (c : Context)

namespace Deed

/-- What is done for a deed. -/
def effects (settings : Settings) (catalogue : Catalogue) : Deed → List Effect
  | stores tasks => [.stored tasks]
  | tells event c => (Script.ofEvent settings catalogue event c).effects

/-- What is done for some deeds, in order. -/
def course (settings : Settings) (catalogue : Catalogue) (deeds : List Deed) : List Effect :=
  deeds.flatMap (effects settings catalogue)

/-- Rows are stored one after another. -/
def inserts (t : TaskTable) : List TaskRow → List Deed
  | [] => []
  | row :: rest => .stores (t.insert row) :: inserts (t.insert row) rest

variable {settings : Settings} {catalogue : Catalogue}

theorem course_append (first last : List Deed) :
    course settings catalogue (first ++ last) =
      course settings catalogue first ++ course settings catalogue last :=
  List.flatMap_append

theorem course_cons (first : Deed) (rest : List Deed) :
    course settings catalogue (first :: rest) =
      course settings catalogue [first] ++ course settings catalogue rest :=
  course_append [first] rest

theorem not_tells_of_inserts {t : TaskTable} {rows : List TaskRow} {event : TaskEvent}
    {c : Context} : .tells event c ∉ inserts t rows := by
  induction rows generalizing t with
  | nil => exact List.not_mem_nil
  | cons row rest ih => simp [inserts, ih]

end Deed

/-- The contexts in which a call notifies of its events. -/
inductive ProcessorCall.Shows {σ : Type} [EventStore σ] (c : Context) (e : Engine TaskTable σ) :
    ProcessorCall → TaskEvent → Context → Prop
  /-- The creation of a task is shown with the task and all rows that were stored for it. -/
  | created {p : Processor} {t : Task} {rows : List TaskRow} :
    ((enter p t).reply c e).engine.tasks.rows = e.tasks.rows ++ rows →
    Shows c e (.enter p t) .create { c with current := some t, newTasks := c.newTasks ++ rows }
  /-- A decision is shown with the row as it is stored, decided and counted up. -/
  | decided {a : ActionRequest} {event : TaskEvent} {row : TaskRow} : c.action = some a →
    a.action.taskEvent = some event → a.action.taskStatus = some row.status →
    row.id = a.row.id → row.version = a.row.version + 1 → e.tasks.Current a.row →
    ((complete .user).reply c e).engine.tasks.get? row.id = some row →
    Shows c e (.complete .user) event { c with action := some { a with row := row } }
  /-- A completion by the engine is shown with the row that waits, even if the row that is stored
  then does not wait any more. -/
  | works {t : Task} {row : TaskRow} : ServiceTask.Poised c t row →
    (e.tasks.Current row → ∃ stored,
      ((complete .service).reply c e).engine.tasks.get? row.id = some stored ∧
        stored.status ≠ .pending ∧ stored.version = row.version + 1) →
    Shows c e (.complete .service) .complete
      (ServiceTask.onRow c e.settings.systemOperator row)
  /-- A failure is shown with the row as it is stored, failed and counted up; if somebody else has
  written the row, with the copy that could not be stored. -/
  | fails {t : Task} {row shown : TaskRow} : ServiceTask.Poised c t row →
    (e.tasks.Current row → shown.status = .failed ∧ shown.version = row.version + 1 ∧
      ((complete .service).reply c e).engine.tasks.get? row.id = some shown) →
    (¬ e.tasks.Current row → shown = row) →
    Shows c e (.complete .service) .fail (ServiceTask.onRow c e.settings.systemOperator shown)

/-! ## What is done for a call -/

variable {σ : Type} [EventStore σ] {e : Engine TaskTable σ} {c : Context} {t : Task}

namespace Engine

/-- Notifying of an event, after something else has been done. -/
theorem does_tells (e : Engine TaskTable σ) (fx : List Effect) (event : TaskEvent) (c : Context) :
    (e.performAll fx).Does (Deed.course e.settings e.catalogue [.tells event c])
      (·.notify event c) ((Script.ofEvent e.settings e.catalogue event c).answer, ·) := by
  intro x
  dsimp only
  rw [notify_eq_play, show ((e.performAll fx).against x).settings = e.settings from
      settings_performAll e fx,
    show ((e.performAll fx).against x).catalogue = e.catalogue from catalogue_performAll e fx]
  simp only [Deed.course, Deed.effects, List.flatMap_cons, List.flatMap_nil, List.append_nil]
  rfl

/-- What has come of notifying comes of it with anything in the log and in the pools. -/
theorem does_of_notify (e : Engine TaskTable σ) {event : TaskEvent} {d : Context}
    {outcome : Except WorkflowError Unit} {e₁ : Engine TaskTable σ}
    (notified : e.notify event d = (outcome, e₁)) :
    e₁ = e.performAll (Deed.course e.settings e.catalogue [.tells event d]) ∧
      e.Does (Deed.course e.settings e.catalogue [.tells event d]) (·.notify event d)
        (outcome, ·) := by
  have does := e.does_tells [] event d
  have whole := (does e).symm.trans notified
  obtain rfl : (Script.ofEvent e.settings e.catalogue event d).answer = outcome :=
    congrArg Prod.fst whole
  exact ⟨(congrArg Prod.snd whole).symm, does⟩

end Engine

/-! ## Entering -/

namespace UserTask

theorem does_insertRows (c : Context) (e : Engine TaskTable σ) (rows : List TaskRow) :
    e.Does (Deed.course e.settings e.catalogue (Deed.inserts e.tasks rows)) (insertRows c · rows)
      (Reply.mk (.ok ()) { c with newTasks := c.newTasks ++ e.tasks.stored rows }) := by
  induction rows generalizing c e with
  | nil =>
      intro x
      simp only [TaskTable.stored, List.zipIdx_nil, List.map_nil, List.append_nil]
      rfl
  | cons row rest ih =>
      intro x
      have later := (ih (c.withNewTask (e.tasks.fresh row))
        (e.performAll [.stored (e.tasks.insert row)])).after _ x
      rw [TaskTable.stored_cons, List.append_cons]
      exact later

/-- Entering a task with some rows to store. -/
theorem does_create {p : UserPart} (kind : t.kind = .user p) (c : Context)
    (e : Engine TaskTable σ) {names : List String}
    (left : usableNames (p.assign { c with current := some t : Context }.snapshot) = names)
    (somebody : names ≠ []) {rows : List TaskRow}
    (waiting : (rowApprovers p.needAll names).map (fun approvers =>
      TaskRow.waiting Task.userType c.process t.name t.displayName approvers e.now) = rows) :
    let shown : Context :=
      { c with current := some t, newTasks := c.newTasks ++ e.tasks.stored rows }
    e.Does
      (Deed.course e.settings e.catalogue (Deed.inserts e.tasks rows ++ [.tells .create shown]))
      (create t c)
      (Reply.mk (Script.ofEvent e.settings e.catalogue TaskEvent.create shown).answer shown) := by
  subst left
  intro shown x
  have stores := does_insertRows { c with current := some t } e rows x
  have tells := (e.does_tells (Deed.course e.settings e.catalogue (Deed.inserts e.tasks rows))
    .create shown).after _ x
  rw [← waiting] at stores
  have created := create_of_rows (e := e.against x) (part_of_kind kind) (by simpa using somebody)
    stores
  rw [waiting] at created
  rw [Deed.course_append]
  exact created.trans (by rw [tells])

end UserTask

/-- Entering a task with its row to store. -/
theorem ServiceTask.does_create (isService : check t = .ok ()) (c : Context)
    (e : Engine TaskTable σ) {row : TaskRow}
    (waiting : TaskRow.waiting Task.serviceType c.process t.name t.displayName
      e.settings.systemOperator e.now = row) :
    let shown : Context := ({ c with current := some t } : Context).withNewTask (e.tasks.fresh row)
    e.Does
      (Deed.course e.settings e.catalogue [.stores (e.tasks.insert row), .tells .create shown])
      (create t c)
      (Reply.mk (Script.ofEvent e.settings e.catalogue TaskEvent.create shown).answer shown) := by
  subst waiting
  intro shown x
  exact create_of_check (e := e.against x) isService (Engine.insertTask_against e x _)
    ((e.does_tells [.stored _] .create shown).after _ x)

/-! ## Completing -/

namespace UserTask

variable {event : TaskEvent} {row : TaskRow}

/-- Storing a row that has been planned. -/
theorem does_complete (planned : plan c e.now = .ok (event, row))
    (updated : e.tasks.update row =
      (.ok (TaskTable.bumped row), e.tasks.replace (TaskTable.bumped row))) :
    let shown := c.withRow (TaskTable.bumped row)
    e.Does
      (Deed.course e.settings e.catalogue
        [.stores (e.tasks.replace (TaskTable.bumped row)), .tells event shown])
      (complete c)
      (Reply.mk ((Script.ofEvent e.settings e.catalogue event shown).answer.map fun _ => true)
        shown) := by
  intro shown x
  have stored := complete_of_stored (e := e.against x) planned
    (Engine.updateTask_against e x updated)
  have tells := (e.does_tells [.stored (e.tasks.replace (TaskTable.bumped row))] event shown).after
    _ x
  rw [stored, tells]
  rfl

end UserTask

namespace ServiceTask

variable {row : TaskRow} {operator : String}

/-- Closing the row of a context with an action on it, which notifies of nothing. -/
theorem does_finish (e : Engine TaskTable σ) (settings : Settings) (catalogue : Catalogue)
    (c : Context) (operator : String) (row : TaskRow) (status : TaskStatus)
    (remark : Option String) :
    ∃ deeds result after, (∀ event d, .tells event d ∉ deeds) ∧
      e.Does (Deed.course settings catalogue deeds) (finish status remark (onRow c operator row))
        (Reply.mk result (onRow c operator after)) ∧
      (e.tasks.Current row → after = endedRow e row status remark) ∧
      (¬ e.tasks.Current row → after = row) := by
  have request : (onRow c operator row).request = .ok _ := rfl
  let closed := closedRow row status e.settings.systemOperator remark e.now
  have same : e.tasks.Current closed ↔ e.tasks.Current row := TaskTable.Current.congr rfl rfl
  rcases e.tasks.update_cases closed with ⟨current, updated⟩ | ⟨err, stale, refused⟩
  · refine ⟨[.stores (e.tasks.replace (TaskTable.bumped closed))],
      .ok (endedRow e row status remark), endedRow e row status remark, by simp, fun x => ?_,
      fun _ => rfl, fun other => (other (same.1 current)).elim⟩
    have finished := finish_of_updated (e := e.against x) request
      (Engine.updateTask_against e x updated)
    rw [withRow_onRow] at finished
    exact finished
  · have other : ¬ e.tasks.Current row := fun current => stale.not_current (same.2 current)
    refine ⟨[], .error (.store err), row, by simp, fun x => ?_,
      fun current => (other current).elim, fun _ => rfl⟩
    exact finish_of_conflict (e := e.against x) request
      (Engine.updateTask_against_of_error e x refused)

/-- A completion whose work succeeds. -/
theorem does_complete_of_success (poised : Poised c t row) {e₁ : Engine TaskTable σ}
    (notified : e.notify TaskEvent.complete (onRow c e.settings.systemOperator row) =
      (.ok (), e₁)) :
    ∃ deeds result after, (∀ event d, .tells event d ∉ deeds) ∧
      e.Does (Deed.course e.settings e.catalogue
          (.tells .complete (onRow c e.settings.systemOperator row) :: deeds))
        (complete c) (Reply.mk result (onRow c e.settings.systemOperator after)) := by
  obtain ⟨deeds, result, after, silent, closes, -⟩ := does_finish e₁ e.settings e.catalogue c
    e.settings.systemOperator row .completed none
  obtain ⟨rfl, tells⟩ := e.does_of_notify notified
  refine ⟨deeds, result.map fun _ => true, after, silent, fun x => ?_⟩
  rw [Deed.course_cons]
  exact complete_of_success (e := e.against x) (prepare_of_poised poised e.settings.systemOperator)
    (tells x) (closes.after _ x)

/-- A completion whose work fails. -/
theorem does_complete_of_failure (poised : Poised c t row) {err : WorkflowError}
    {e₁ : Engine TaskTable σ}
    (notified : e.notify TaskEvent.complete (onRow c e.settings.systemOperator row) =
      (.error err, e₁)) :
    ∃ deeds after, (∀ event d, .tells event d ∉ deeds) ∧
      e.Does (Deed.course e.settings e.catalogue
          (.tells .complete (onRow c e.settings.systemOperator row) :: deeds ++
            [.tells .fail (onRow c e.settings.systemOperator after)]))
        (complete c) (Reply.mk (.error err) (onRow c e.settings.systemOperator after)) ∧
      (e.tasks.Current row → after = endedRow e row .failed (some err.message)) ∧
      (¬ e.tasks.Current row → after = row) := by
  obtain ⟨tasks, same⟩ := endedRow_of_notify notified row .failed (some err.message)
  obtain ⟨deeds, result, after, silent, closes, stored, refused⟩ := does_finish e₁ e.settings
    e.catalogue c e.settings.systemOperator row .failed (some err.message)
  obtain ⟨rfl, tells⟩ := e.does_of_notify notified
  rw [tasks, same] at stored
  rw [tasks] at refused
  refine ⟨deeds, after, silent, fun x => ?_, stored, refused⟩
  have fails := (e.does_tells (Deed.course e.settings e.catalogue
    (.tells .complete (onRow c e.settings.systemOperator row) :: deeds)) .fail
    (onRow c e.settings.systemOperator after)).after _ x
  rw [Deed.course_append]
  rw [Deed.course_cons] at fails ⊢
  exact complete_of_failure (e := e.against x) (prepare_of_poised poised e.settings.systemOperator)
    (tells x) (closes.after _ x) fails

theorem stored_of_failure (poised : Poised c t row) (current : e.tasks.Current row)
    {err : WorkflowError} {e₁ : Engine TaskTable σ}
    (notified : e.notify TaskEvent.complete (onRow c e.settings.systemOperator row) =
      (.error err, e₁)) :
    (complete c e).engine.tasks.get? row.id =
      some (endedRow e row .failed (some err.message)) := by
  obtain ⟨table, e₂, puts, told, whole⟩ := (ended_of_poised poised e).failed err e₁ notified current
  rw [whole, told.tasks]
  exact puts.there

/-- What is stored of a row that has been closed. -/
theorem stored_of_current (poised : Poised c t row) (current : e.tasks.Current row) :
    ∃ stored, (complete c e).engine.tasks.get? row.id = some stored ∧
      stored.status ≠ .pending ∧ stored.version = row.version + 1 := by
  rcases notified : e.notify TaskEvent.complete (onRow c e.settings.systemOperator row) with
    ⟨err | ⟨⟩, e₁⟩
  · exact ⟨_, stored_of_failure poised current notified, nofun, rfl⟩
  · obtain ⟨table, puts, whole⟩ := (ended_of_poised poised e).completed e₁ notified current
    refine ⟨endedRow e row .completed none, ?_, nofun, rfl⟩
    rw [whole]
    exact puts.there

/-- The context of a completion is left as it was for its listeners, but for the row. -/
theorem context_complete (poised : Poised c t row) (e : Engine TaskTable σ) :
    let shown := onRow c e.settings.systemOperator row
    (complete c e).context = shown ∨ ∃ stored, (complete c e).context = shown.withRow stored ∧
      (complete c e).engine.tasks.get? stored.id = some stored := by
  intro shown
  have ended := ended_of_poised poised e
  by_cases current : e.tasks.Current row
  · rcases notified : e.notify TaskEvent.complete shown with ⟨err | ⟨⟩, e₁⟩
    · obtain ⟨table, e₂, puts, told, whole⟩ := ended.failed err e₁ notified current
      refine Or.inr ⟨endedRow e row .failed (some err.message), ?_, ?_⟩
      · rw [whole, withRow_onRow]
      · rw [whole, told.tasks]
        exact puts.there
    · obtain ⟨table, puts, whole⟩ := ended.completed e₁ notified current
      refine Or.inr ⟨endedRow e row .completed none, ?_, ?_⟩
      · rw [whole, withRow_onRow]
      · rw [whole]
        exact puts.there
  · rcases notified : e.notify TaskEvent.complete shown with ⟨err | ⟨⟩, e₁⟩
    · obtain ⟨e₂, -, whole⟩ := ended.lost err e₁ notified current
      exact Or.inl (by rw [whole])
    · obtain ⟨err, -, whole⟩ := ended.overtaken e₁ notified current
      exact Or.inl (by rw [whole])

end ServiceTask

/-! ## What a call shows -/

/-- What a call does, and what it shows on the way. -/
structure ProcessorCall.Course (k : ProcessorCall) (c : Context) (e : Engine TaskTable σ)
    (deeds : List Deed) : Prop where
  /-- Whatever is in the log, in the pools and in the trace, the call does these deeds, and what it
  answers is the same, and so is the context that it leaves. -/
  does : e.Does (Deed.course e.settings e.catalogue deeds) (k.reply c)
    (Reply.mk (k.reply c e).result (k.reply c e).context)
  /-- It notifies of its events in the contexts that it shows. -/
  shows_ : ∀ event shown, .tells event shown ∈ deeds → k.Shows c e event shown
  /-- The context that it leaves is the one that was shown, but for a row that the call itself has
  stored since. -/
  leaves : ∀ event shown, .tells event shown ∈ deeds →
    (k.reply c e).context = shown ∨ ∃ stored, (k.reply c e).context = shown.withRow stored ∧
      (k.reply c e).engine.tasks.get? stored.id = some stored

namespace ProcessorCall

variable {k : ProcessorCall} {deeds : List Deed} {answer : Except WorkflowError Unit}
  {c' : Context}

theorem context_of_does {fx : List Effect} (does : e.Does fx (k.reply c) (Reply.mk answer c')) :
    (k.reply c e).context = c' :=
  congrArg Reply.context (does e)

theorem course_of_does
    (does : e.Does (Deed.course e.settings e.catalogue deeds) (k.reply c) (Reply.mk answer c'))
    (shows_ : ∀ event shown, .tells event shown ∈ deeds → k.Shows c e event shown)
    (leaves : ∀ event shown, .tells event shown ∈ deeds →
      (k.reply c e).context = shown ∨ ∃ stored, (k.reply c e).context = shown.withRow stored ∧
        (k.reply c e).engine.tasks.get? stored.id = some stored) : k.Course c e deeds := by
  refine ⟨?_, shows_, leaves⟩
  rw [context_of_does does, show (k.reply c e).result = answer from congrArg Reply.result (does e)]
  exact does

theorem does_completion {p : Processor} {fx : List Effect} {result : Except WorkflowError Bool}
    (does : e.Does fx (p.complete c) (Reply.mk result c')) :
    e.Does fx ((complete p).reply c) (Reply.mk (result.map fun _ => ()) c') := by
  intro x
  have whole := does x
  unfold reply
  dsimp only
  rw [whole]

/-- A call that does nothing. -/
theorem course_nil (silent : e.Does [] (k.reply c) (Reply.mk answer c')) : k.Course c e [] :=
  course_of_does silent (fun _ _ member => nomatch member) fun _ _ member => nomatch member

/-- A call that notifies of one event, and leaves the context that it shows. -/
theorem course_of_one {event : TaskEvent}
    (does : e.Does (Deed.course e.settings e.catalogue deeds) (k.reply c) (Reply.mk answer c'))
    (only : ∀ told shown, .tells told shown ∈ deeds → told = event ∧ shown = c')
    (shows_ : k.Shows c e event c') : k.Course c e deeds := by
  refine course_of_does does ?_ ?_
  · intro told shown member
    obtain ⟨rfl, rfl⟩ := only told shown member
    exact shows_
  · intro told shown member
    rw [(only told shown member).2]
    exact Or.inl (context_of_does does)

theorem course_enter_user (t : Task) (c : Context) (e : Engine TaskTable σ) :
    ∃ deeds, (enter .user t).Course c e deeds := by
  cases kind : t.kind with
  | service part =>
      have silent : e.Does [] ((enter .user t).reply c)
          (Reply.mk (.error (.configuration ("task " ++ t.name ++ " is not a user task"))) c) := by
        intro x
        simp only [reply, Processor.create, UserTask.create, UserTask.part, Task.user?, kind]
        rfl
      exact ⟨[], course_nil silent⟩
  | user p =>
      generalize left : UserTask.usableNames
        (p.assign { c with current := some t : Context }.snapshot) = names
      by_cases nobody : names = []
      · have silent : e.Does [] ((enter .user t).reply c)
            (Reply.mk (.error (.emptyApprovers t.displayName)) { c with current := some t }) := by
          intro x
          simp only [reply, Processor.create, UserTask.create, UserTask.part_of_kind kind, left,
            nobody]
          rfl
        exact ⟨[], course_nil silent⟩
      · generalize waiting : ((UserTask.rowApprovers p.needAll names).map fun approvers =>
          TaskRow.waiting Task.userType c.process t.name t.displayName approvers e.now) = rows
        obtain ⟨outcome, e', -, whole, tasks, -⟩ :=
          UserTask.create_of_somebody kind c e left nobody (congrArg _ waiting)
        have does : e.Does _ ((enter .user t).reply c) _ :=
          UserTask.does_create kind c e left nobody waiting
        refine ⟨_, course_of_one does ?_ (.created ?_)⟩
        · intro event shown member
          rcases List.mem_append.1 member with stores | tells
          · exact (Deed.not_tells_of_inserts stores).elim
          · cases List.mem_singleton.1 tells
            exact ⟨rfl, rfl⟩
        · change (UserTask.create t c e).engine.tasks.rows = _
          rw [whole, tasks]

theorem course_enter_service (t : Task) (c : Context) (e : Engine TaskTable σ) :
    ∃ deeds, (enter .service t).Course c e deeds := by
  cases isService : ServiceTask.check t with
  | error err =>
      have silent : e.Does [] ((enter .service t).reply c) (Reply.mk (.error err) c) := by
        intro x
        simp only [reply, Processor.create, ServiceTask.create, isService]
        rfl
      exact ⟨[], course_nil silent⟩
  | ok =>
      generalize waiting : TaskRow.waiting Task.serviceType c.process t.name t.displayName
        e.settings.systemOperator e.now = row
      have does : e.Does _ ((enter .service t).reply c) _ :=
        ServiceTask.does_create isService c e waiting
      have stored : (ServiceTask.create t c e).engine.tasks.rows =
          e.tasks.rows ++ [e.tasks.fresh row] := by
        let filled : Engine TaskTable σ := { e with tasks := e.tasks.insert row }
        let shown : Context :=
          ({ c with current := some t } : Context).withNewTask (e.tasks.fresh row)
        rw [ServiceTask.create_of_check isService (by rw [waiting]; exact e.insertTask_eq row)
          (show filled.notify TaskEvent.create shown = (_, _) from rfl)]
        exact congrArg TaskTable.rows (Engine.heard_notify filled TaskEvent.create shown).tasks
      exact ⟨_, course_of_one does (fun event shown member => by simpa using member)
        (.created stored)⟩

theorem course_complete_user (c : Context) (e : Engine TaskTable σ) :
    ∃ deeds, (complete .user).Course c e deeds := by
  rcases planned : UserTask.plan c e.now with err | ⟨event, row⟩
  · have silent : e.Does [] (UserTask.complete c) (Reply.mk (.error err) c) :=
      fun x => UserTask.complete_of_refused (e := e.against x) planned
    exact ⟨[], course_nil (does_completion (p := .user) silent)⟩
  rcases e.tasks.update_cases row with ⟨current, updated⟩ | ⟨err, -, conflict⟩
  · obtain ⟨t, a, checked⟩ := UserTask.planned_of_plan planned
    have does := does_completion (p := .user) (UserTask.does_complete planned updated)
    have stored : (UserTask.complete c e).engine.tasks.get? row.id =
        some (TaskTable.bumped row) := by
      obtain ⟨old, found, -⟩ := current
      rw [UserTask.complete_of_stored planned (Engine.updateTask_against e e updated),
        (Engine.heard_notify _ event _).tasks]
      have puts : e.tasks.Puts _ (TaskTable.bumped row) := TaskTable.puts_replace found
      exact puts.there
    have copy : e.tasks.Current a.row :=
      (TaskTable.Current.congr checked.closes.same.id_eq checked.closes.version).1 current
    refine ⟨_, course_of_one does (fun told shown member => by simpa using member) ?_⟩
    rw [UserTask.withRow_of_action checked.action]
    exact .decided checked.action checked.event checked.status checked.closes.same.id_eq
      (congrArg (· + 1) checked.closes.version) copy stored
  · have silent : e.Does [] (UserTask.complete c) (Reply.mk (.error (.store err)) c) :=
      fun x => UserTask.complete_of_conflict (e := e.against x) planned
        (Engine.updateTask_against_of_error e x conflict)
    exact ⟨[], course_nil (does_completion (p := .user) silent)⟩

theorem course_complete_service (c : Context) (e : Engine TaskTable σ) :
    ∃ deeds, (complete .service).Course c e deeds := by
  rcases ServiceTask.prepare_cases c e.settings.systemOperator with
    ⟨t, row, poised, prepared⟩ | ⟨err, c', -, refused, -⟩
  · rcases notified : e.notify TaskEvent.complete
      (ServiceTask.onRow c e.settings.systemOperator row) with ⟨err | ⟨⟩, e₁⟩
    · obtain ⟨deeds, after, silent, does, stored, refused⟩ :=
        ServiceTask.does_complete_of_failure poised notified
      have does := does_completion (p := .service) does
      have only : ∀ event shown, .tells event shown ∈ .tells .complete
          (ServiceTask.onRow c e.settings.systemOperator row) :: deeds ++
            [.tells .fail (ServiceTask.onRow c e.settings.systemOperator after)] →
          event = .complete ∧ shown = ServiceTask.onRow c e.settings.systemOperator row ∨
            event = .fail ∧ shown = ServiceTask.onRow c e.settings.systemOperator after := by
        intro event shown member
        simpa [silent] using member
      refine ⟨_, course_of_does does ?_ ?_⟩
      · intro event shown member
        rcases only event shown member with ⟨rfl, rfl⟩ | ⟨rfl, rfl⟩
        · exact .works poised (ServiceTask.stored_of_current poised)
        · refine .fails poised (fun current => ?_) refused
          rw [stored current]
          exact ⟨rfl, rfl, ServiceTask.stored_of_failure poised current notified⟩
      · intro event shown member
        rcases only event shown member with ⟨rfl, rfl⟩ | ⟨rfl, rfl⟩
        · exact ServiceTask.context_complete poised e
        · exact Or.inl (context_of_does does)
    · obtain ⟨deeds, result, after, silent, does⟩ :=
        ServiceTask.does_complete_of_success poised notified
      have only : ∀ event shown, .tells event shown ∈ .tells .complete
          (ServiceTask.onRow c e.settings.systemOperator row) :: deeds →
          event = .complete ∧ shown = ServiceTask.onRow c e.settings.systemOperator row := by
        intro event shown member
        simpa [silent] using member
      refine ⟨_, course_of_does (does_completion (p := .service) does) ?_ ?_⟩
      · intro event shown member
        obtain ⟨rfl, rfl⟩ := only event shown member
        exact .works poised (ServiceTask.stored_of_current poised)
      · intro event shown member
        obtain ⟨rfl, rfl⟩ := only event shown member
        exact ServiceTask.context_complete poised e
  · have silent : e.Does [] (ServiceTask.complete c) (Reply.mk (.error err) c') :=
      fun x => ServiceTask.complete_of_refused (e := e.against x) refused
    exact ⟨[], course_nil (does_completion (p := .service) silent)⟩

theorem exists_course (k : ProcessorCall) (c : Context) (e : Engine TaskTable σ) :
    ∃ deeds, k.Course c e deeds := by
  cases k with
  | enter p t =>
      cases p with
      | user => exact course_enter_user t c e
      | service => exact course_enter_service t c e
  | complete p =>
      cases p with
      | user => exact course_complete_user c e
      | service => exact course_complete_service c e

end ProcessorCall

/-! ## What a snapshot shows -/

/-- What the listeners of a call's events see. -/
inductive ProcessorCall.Sees (c : Context) (e : Engine TaskTable σ) :
    ProcessorCall → TaskEvent → Snapshot → Prop
  /-- A listener to the creation of a task sees that the context is at the task, and at the end of
  the new rows all those that were stored for it. -/
  | created {p : Processor} {t : Task} {rows : List TaskRow} {s : Snapshot} :
    ((enter p t).reply c e).engine.tasks.rows = e.tasks.rows ++ rows →
    s.current = some t.name → s.newTasks = c.newTasks ++ rows → Sees c e (.enter p t) .create s
  /-- A listener to a decision sees the row as it is stored, decided and counted up. -/
  | decided {a seen : ActionRequest} {event : TaskEvent} {s : Snapshot} : c.action = some a →
    a.action.taskEvent = some event → s.action = some seen →
    a.action.taskStatus = some seen.row.status → seen.row.version = a.row.version + 1 →
    ((complete .user).reply c e).engine.tasks.get? a.row.id = some seen.row →
    Sees c e (.complete .user) event s
  /-- A listener to a completion by the engine sees the row that waits, even if the row that is
  stored has been finished and counted up. -/
  | works {t : Task} {row : TaskRow} {seen : ActionRequest} {s : Snapshot} :
    ServiceTask.Poised c t row → s.current = some t.name → s.action = some seen →
    seen.row.status = .pending → seen.row = row →
    (e.tasks.Current row → ∃ stored,
      ((complete .service).reply c e).engine.tasks.get? row.id = some stored ∧
        stored.status ≠ .pending ∧ stored.version = seen.row.version + 1) →
    Sees c e (.complete .service) .complete s
  /-- A listener to a failure sees the row as it is stored, failed and counted up, unless somebody
  else has written the row. -/
  | fails {t : Task} {row : TaskRow} {seen : ActionRequest} {s : Snapshot} :
    ServiceTask.Poised c t row → s.current = some t.name → s.action = some seen →
    (e.tasks.Current row → seen.row.status = .failed ∧ seen.row.version = row.version + 1 ∧
      ((complete .service).reply c e).engine.tasks.get? row.id = some seen.row) →
    (¬ e.tasks.Current row → seen.row = row) → Sees c e (.complete .service) .fail s

/-- In the contexts in which a call notifies of its events there is that to be seen. -/
theorem ProcessorCall.Shows.sees {k : ProcessorCall} {event : TaskEvent} {shown : Context}
    (shows_ : k.Shows c e event shown) : k.Sees c e event shown.snapshot := by
  cases shows_ with
  | created stored => exact .created stored (by simp) (by simp)
  | @decided a _ row action told status same version _ stored =>
      have view : (Context.snapshot { c with action := some { a with row := row } }).action =
          some { a with row := row } := rfl
      exact .decided action told view status version (same ▸ stored)
  | works poised stored =>
      exact .works poised (by simp [ServiceTask.onRow, poised.current])
        (Context.snapshot_action _) poised.pending rfl stored
  | fails poised stored refused =>
      exact .fails poised (by simp [ServiceTask.onRow, poised.current])
        (Context.snapshot_action _) stored refused

/-! ## Whoever goes first -/

/-- A run that is made when an event is notified of in a context. -/
structure Deed.Makes (settings : Settings) (catalogue : Catalogue) (event : TaskEvent)
    (shown : Context) (i : Invocation) : Prop where
  /-- It is among what is done then. -/
  done : ∃ x ∈ (Script.ofEvent settings catalogue event shown).effects, x.run? = some i
  /-- Its listener sees what the context shows. -/
  snapshot : i.snapshot = shown.snapshot
  /-- Its listener is bound to the event, if the registries have their listeners in their places. -/
  event : (∃ ls, settings.taskManager.Sorts ls) →
    (∀ t, shown.current = some t → ∃ ls, t.listeners.Sorts ls) →
    i.event = EventFamily.name event

section

variable {settings : Settings} {catalogue : Catalogue} {event : TaskEvent} {shown : Context}
  {i : Invocation}

theorem Registry.Sorts.event_of_offers {r : Registry TaskEvent} {ls : List (Listener TaskEvent)}
    (sorts : r.Sorts ls) {l : Listener TaskEvent} {isAsync : Bool}
    (offers : (r.groups event).Offers l isAsync) : l.event = event := by
  rw [sorts.groups event] at offers
  exact (Groups.offers_bound_iff.1 offers).2.1

/-- What an event finds is bound to it, if the registries have their listeners in their places. -/
theorem event_of_finds {l : Listener TaskEvent} {isAsync : Bool}
    (finds : EventScope.Finds settings catalogue shown event l isAsync)
    (managed : ∃ ls, settings.taskManager.Sorts ls)
    (own : ∀ t, shown.current = some t → ∃ ls, t.listeners.Sorts ls) : l.event = event := by
  rcases finds with offered | ⟨g, found, offered⟩
  · obtain ⟨ls, sorts⟩ := managed
    exact sorts.event_of_offers offered
  · cases current : shown.current with
    | none =>
        simp only [EventScope.groups, Context.task, current] at found
        cases found
    | some t =>
        obtain ⟨ls, sorts⟩ := own t current
        simp only [EventScope.groups, Context.task, current, Task.lookupGroups] at found
        cases supplied : (t.supply catalogue shown.snapshot).listeners with
        | error err =>
            rw [supplied] at found
            cases found
        | ok more =>
            rw [supplied] at found
            cases found
            rcases Task.offers_groups offered with registered | ⟨-, bound, -⟩
            · exact sorts.event_of_offers registered
            · exact bound

theorem Deed.makes_of_run? {x : Effect}
    (member : x ∈ (Script.ofEvent settings catalogue event shown).effects)
    (run : x.run? = some i) : Deed.Makes settings catalogue event shown i := by
  obtain ⟨os, rfl, -⟩ | ⟨element, l, isAsync, -, finds, rfl⟩ := Script.mem_ofEvent member
  · cases run
  · rw [Invocation.run?_effect] at run
    cases run
    exact ⟨⟨_, member, Invocation.run?_effect _⟩, rfl, fun managed own =>
      congrArg EventFamily.name (event_of_finds finds managed own)⟩

end

/-- Where a run comes from that is made at a desk while a call is made, or later: it was underway
before, it is made for an event of the call and its listener sees what there is to be seen of the
call, or it is made for an event that the caller notifies of next. -/
inductive ProcessorCall.Origin (k : ProcessorCall) (c : Context) (e : Engine TaskTable σ)
    (deeds more : List Deed) (underway : List Invocation) (i : Invocation) : Prop
  | before : i ∈ underway → k.Origin c e deeds more underway i
  | call {event : TaskEvent} {shown : Context} : .tells event shown ∈ deeds →
    Deed.Makes e.settings e.catalogue event shown i → k.Sees c e event i.snapshot →
    k.Origin c e deeds more underway i
  | next {event : TaskEvent} {shown : Context} : .tells event shown ∈ more →
    Deed.Makes e.settings e.catalogue event shown i → k.Origin c e deeds more underway i

omit [EventStore σ] in
/-- What the pools have not finished at a desk, and what is being run. -/
def Desk.underway (d : Desk σ) : List Invocation :=
  (d.engine.pool .process).unfinished ++ (d.engine.pool .task).unfinished ++ d.begun.map (·.call)

omit [EventStore σ] in
/-- A caller that has some deeds to do has nothing else to run than listeners of its events. -/
theorem Desk.admits_course (settings : Settings) (catalogue : Catalogue) (deeds : List Deed)
    (e : Engine TaskTable σ) (begun : List Hearing) :
    let start : Desk σ := ⟨e, Deed.course settings catalogue deeds, begun⟩
    start.Admits (fun i => i ∈ start.underway ∨
      ∃ event shown, .tells event shown ∈ deeds ∧
        Deed.Makes settings catalogue event shown i) e.trace := by
  intro start
  have made : ∀ x ∈ start.todo, (∃ tasks, x = .stored tasks) ∨
      ∃ event shown, .tells event shown ∈ deeds ∧
        x ∈ (Script.ofEvent settings catalogue event shown).effects := by
    intro x member
    obtain ⟨deed, asked, does⟩ := List.mem_flatMap.1 member
    cases deed with
    | stores tasks => exact Or.inl ⟨tasks, List.mem_singleton.1 does⟩
    | tells event shown => exact Or.inr ⟨event, shown, asked, does⟩
  constructor
  case todo =>
    intro x member i run
    rcases made x member with ⟨tasks, rfl⟩ | ⟨event, shown, asked, does⟩
    · cases run
    · exact Or.inr ⟨event, shown, asked, Deed.makes_of_run? does run⟩
  case notes =>
    intro os member
    rcases made _ member with ⟨tasks, same⟩ | ⟨event, shown, asked, does⟩
    · cases same
    · cases Effect.for_ofEvent does with
      | noted none => exact none
  case pools =>
    intro family i member
    refine Or.inl (List.mem_append_left _ ?_)
    cases family with
    | process => exact List.mem_append_left _ member
    | task => exact List.mem_append_right _ member
  case begun =>
    intro u member
    exact Or.inl (List.mem_append_right _ (List.mem_map_of_mem member))
  case trace => exact ⟨[], (List.append_nil _).symm, fun _ member => nomatch member⟩

/-- Whatever a processor is called for, whoever listens and whatever is in the log, in the pools and
in the trace: the call does some deeds, and the context that it leaves is the one that it has shown
to its listeners, but for a row that the call itself has stored since. However long these take,
whoever goes first and whatever the caller does next, every run that is made for an event of the
call is made for a listener that the event finds, and the listener sees what the context has shown:
the task with all the rows that were stored for it, the decision with the row as it is stored, the
work with the row that waits, or the failure with the row that has failed. -/
theorem ProcessorCall.listeners_see (k : ProcessorCall) (c : Context) (e : Engine TaskTable σ) :
    ∃ deeds, k.Course c e deeds ∧
      ∀ (x : Engine TaskTable σ) (more : List Deed) (begun : List Hearing) (d : Desk σ),
        let start : Desk σ :=
          ⟨e.against x, Deed.course e.settings e.catalogue (deeds ++ more), begun⟩
        Desk.Steps start d →
          (∀ u ∈ d.begun, k.Origin c e deeds more start.underway u.call) ∧
          ∃ later, d.engine.trace = x.trace ++ later ∧ ∀ o ∈ runs later, ∃ i,
            o = i.observation ∧ k.Origin c e deeds more start.underway i := by
  obtain ⟨deeds, course⟩ := k.exists_course c e
  refine ⟨deeds, course, ?_⟩
  intro x more begun d start steps
  have admits := steps.admits
    (Desk.admits_course e.settings e.catalogue (deeds ++ more) (e.against x) begun)
  have origin : ∀ i, (i ∈ start.underway ∨ ∃ event shown, .tells event shown ∈ deeds ++ more ∧
      Deed.Makes e.settings e.catalogue event shown i) →
      k.Origin c e deeds more start.underway i := by
    rintro i (before | ⟨event, shown, asked, makes⟩)
    · exact .before before
    · rcases List.mem_append.1 asked with own | next
      · have sees := (course.shows_ event shown own).sees
        rw [← makes.snapshot] at sees
        exact .call own makes sees
      · exact .next next makes
  obtain ⟨later, trace, known⟩ := admits.trace
  refine ⟨fun u member => origin u.call (admits.begun u member), later, trace, fun o member => ?_⟩
  obtain ⟨i, made, same⟩ := known o member
  exact ⟨i, same, origin i made⟩

/-! ## A completion that fails -/

namespace Outage

def process : ProcessRow :=
  .opened 1 "P" "carol" default

/-- A task whose work is refused, and whose failure is told by a worker. -/
def deploy : Task where
  name := "deploy"
  displayName := "Deploy"
  kind := .service ⟨[.initMq], []⟩
  listeners := (Registry.empty.add ⟨"install", .complete, false, fun _ => .refusal "no space"⟩).add
    ⟨"page", .fail, true, fun _ => .success⟩
  next := ["end"]

def waiting : TaskRow :=
  .waiting Task.serviceType process "deploy" "Deploy" "admin" default

/-- The engine, with one worker for each family and with the task's row. -/
def engine : Engine TaskTable EventLog :=
  .new ⟨.empty, .empty, "admin"⟩ 1 none .empty (TaskTable.empty.insert waiting) .empty default

/-- The context of the step that has created the row. -/
def context : Context :=
  { Context.base (.named "P" "P") process none with
    current := some deploy
    newTasks := [TaskTable.empty.fresh waiting] }

/-- The state and the version of the row that a listener has seen. -/
def seen : Observation → Option (String × String × TaskStatus × Int)
  | .ran _ event listener _ s =>
    s.action.map fun a => (event, listener, a.row.status, a.row.version)
  | _ => none

theorem opening : Floor.Opening engine :=
  ⟨rfl, fun family => by cases family <;> exact ⟨_, rfl⟩⟩

/-- The refusal is given to the row that waits; the worker has the failure told with the row that
has failed, when the call has returned. -/
theorem refused_then_paged :
    ∃ deeds d, (ProcessorCall.complete .service).Course context engine deeds ∧
      Desk.Steps ⟨engine, Deed.course engine.settings engine.catalogue deeds, []⟩ d ∧ d.Done ∧
      (runs ((ProcessorCall.complete .service).reply context engine).engine.trace).length = 1 ∧
      (runs d.engine.trace).map seen =
        [some ("COMPLETE", "install", .pending, 0), some ("FAIL", "page", .failed, 1)] ∧
      ∀ o ∈ runs d.engine.trace, ∃ i, o = i.observation ∧
        (ProcessorCall.complete .service).Origin context engine deeds [] [] i := by
  obtain ⟨deeds, course, sees⟩ :=
    ProcessorCall.listeners_see (.complete .service) context engine
  have left : engine.performAll (Deed.course engine.settings engine.catalogue deeds) =
      ((ProcessorCall.complete .service).reply context engine).engine :=
    (congrArg Reply.engine (course.does engine)).symm
  obtain ⟨steps, done⟩ := Desk.steps_sequential opening
    (Deed.course engine.settings engine.catalogue deeds)
  rw [left] at steps done
  refine ⟨deeds, _, course, steps, done, by decide +kernel, by decide +kernel, ?_⟩
  rw [← List.append_nil deeds] at steps
  obtain ⟨-, later, trace, known⟩ := sees engine [] [] _ steps
  have silent : engine.trace = [] := rfl
  rw [silent, List.nil_append] at trace
  rw [trace]
  exact known

end Outage

end ApprovalFlow
