import ApprovalFlow.Proofs.Checks
import ApprovalFlow.Proofs.Notify

/-!
# What the tasks' operations do to the engine

`Engine.Worked` is what entering and completing tasks have in common: the table makes moves, the
rows that are new have a property, and no event is dispatched that ends a process.

* `Engine.worked_create`, `Engine.worked_service`: new rows are no vetoes.
* `UserTask.worked_complete`: the one new row that completing a user task makes is the planned one.
* `UserTask.complete_of_plan`: with the stored row itself at hand, completing a user task stores the
  planned row and then depends on the listeners alone.
-/

namespace ApprovalFlow

/-- The states that stand for a veto. -/
def TaskStatus.vetoes : List TaskStatus :=
  [.rejected, .canceled, .terminated]

/-- The actions that stand for a veto. -/
def Action.vetoes : List Action :=
  [.reject, .cancel, .terminate]

theorem Action.mem_vetoes_iff {action : Action} {status : TaskStatus}
    (closes : action.taskStatus = some status) :
    status ∈ TaskStatus.vetoes ↔ action ∈ Action.vetoes := by
  cases action <;> cases closes <;> decide

namespace ProcessEvent

/-- The events that end a process. -/
def terminal : List ProcessEvent :=
  [complete, reject, cancel, terminate]

end ProcessEvent

/-- The dispatch of an event that ends a process. -/
def Dispatch.ends (d : Dispatch) : Bool :=
  d.family == .process && (ProcessEvent.terminal.map ProcessEvent.name).contains d.event

theorem Dispatch.ends_process (event : ProcessEvent) (s : Snapshot) :
    (Dispatch.mk .process event.name s).ends = decide (event ∈ ProcessEvent.terminal) := by
  unfold Dispatch.ends
  dsimp only
  cases event <;> decide

/-- The dispatches that ended a process, in order. -/
def endings (trace : List Observation) : List Dispatch :=
  (dispatches trace).filter Dispatch.ends

variable {σ : Type}

namespace Engine

/-- What the operations on tasks do to the engine. Every row that is new has a property. -/
structure Worked (made : TaskRow → Prop) (e e' : Engine TaskTable σ) : Prop where
  moves : TaskTable.Moves e.tasks e'.tasks
  made : ∀ row ∈ e'.tasks.rows, row ∈ e.tasks.rows ∨ made row
  endings : endings e'.trace = endings e.trace

variable {made : TaskRow → Prop} {e e' e'' : Engine TaskTable σ}

theorem Worked.refl (e : Engine TaskTable σ) : Worked made e e :=
  ⟨Relation.ReflTransGen.refl, fun _ => Or.inl, rfl⟩

theorem Worked.trans (left : Worked made e e') (right : Worked made e' e'') :
    Worked made e e'' := by
  refine ⟨left.moves.trans right.moves, ?_, right.endings.trans left.endings⟩
  intro row member
  rcases right.made row member with old | new
  · exact left.made row old
  · exact Or.inr new

/-- The endings after some events have been dispatched. -/
theorem Heard.endings_eq {about : Observation → Prop} {events : List Dispatch}
    (heard : Heard about events e e') :
    endings e'.trace = endings e.trace ++ events.filter Dispatch.ends := by
  obtain ⟨more, trace, dispatched, -⟩ := heard.trace
  rw [endings, trace, dispatches_append, dispatched, List.filter_append, endings]

/-- Dispatching events that end nothing. -/
theorem Heard.worked {about : Observation → Prop} {events : List Dispatch}
    (heard : Heard about events e e') (goesOn : ∀ d ∈ events, d.ends = false) :
    Worked made e e' := by
  refine ⟨?_, ?_, ?_⟩
  · rw [heard.tasks]
  · rw [heard.tasks]
    exact fun row => Or.inl
  · rw [heard.endings_eq, List.filter_eq_nil_iff.2 (by simpa using goesOn), List.append_nil]

/-- Storing a row never fails. -/
theorem insertTask_eq (e : Engine TaskTable σ) (row : TaskRow) :
    e.insertTask row = (.ok (e.tasks.fresh row), { e with tasks := e.tasks.insert row }) :=
  rfl

theorem worked_insertTask {row : TaskRow} (opened : (e.tasks.fresh row).IsOpen)
    (new : made (e.tasks.fresh row)) : Worked made e (e.insertTask row).2 := by
  refine ⟨Relation.ReflTransGen.single (.insert opened), ?_, rfl⟩
  intro other member
  rcases TaskTable.mem_insert.1 member with old | rfl
  · exact Or.inl old
  · exact Or.inr new

theorem worked_closedBy {copy closed : TaskRow} (by_ : e.tasks.ClosedBy e'.tasks copy closed)
    (new : made closed) (trace : e'.trace = e.trace) : Worked made e e' := by
  refine ⟨Relation.ReflTransGen.single by_.move, ?_, by rw [trace]⟩
  intro row member
  rcases TaskTable.mem_of_mem_later (t := e.tasks) member with old | added
  · exact Or.inl old
  · rw [by_.added] at added
    rw [List.mem_singleton.1 added]
    exact Or.inr new

variable [EventStore σ]

/-- Notifying of a task event ends nothing. -/
theorem worked_notifyTask (e : Engine TaskTable σ) (event : TaskEvent) (c : Context) :
    Worked made e (e.notify event c).2 := by
  refine (heard_notify e event c).worked ?_
  intro d member
  unfold announced at member
  split at member
  · cases member
  · rw [List.mem_singleton.1 member]
    rfl

end Engine

/-- A row that is no veto. -/
def TaskRow.NoVeto (row : TaskRow) : Prop :=
  row.status ∉ TaskStatus.vetoes

theorem TaskRow.IsOpen.noVeto {row : TaskRow} (opened : row.IsOpen) : row.NoVeto := by
  rw [NoVeto, opened.status]
  decide

/-! ## Entering a task -/

section Entering

variable [EventStore σ]

omit [EventStore σ] in
theorem UserTask.worked_insertRows {t : Task} {rows : List TaskRow}
    (fresh : ∀ row ∈ rows, row.FreshFor t) (c : Context) (e : Engine TaskTable σ) :
    Engine.Worked TaskRow.NoVeto e (insertRows c e rows).engine := by
  induction rows generalizing c e with
  | nil => exact Engine.Worked.refl e
  | cons row rest ih =>
      have opened := (fresh row (List.mem_cons_self ..)).isOpen e.tasks
      have first := Engine.worked_insertTask opened opened.noVeto
      exact first.trans (ih (fun r member => fresh r (List.mem_cons_of_mem _ member))
        (c.withNewTask _) _)

theorem UserTask.worked_create (t : Task) (c : Context) (e : Engine TaskTable σ) :
    Engine.Worked TaskRow.NoVeto e (create t c e).engine := by
  unfold create
  cases isUser : part t with
  | error err => exact Engine.Worked.refl e
  | ok p =>
      dsimp only
      split
      · exact Engine.Worked.refl e
      · have fresh : ∀ names : List String, ∀ row ∈ names.map fun approvers =>
            TaskRow.waiting Task.userType c.process t.name t.displayName approvers e.now,
            row.FreshFor t := by
          intro names row member
          obtain ⟨approvers, -, rfl⟩ := List.mem_map.1 member
          rw [← typeName_of_part isUser]
          exact TaskRow.freshFor_waiting ..
        have stored := worked_insertRows
          (fresh (rowApprovers p.needAll (usableNames (p.assign
            { c with current := some t : Context }.snapshot)))) { c with current := some t } e
        rcases inserted : insertRows { c with current := some t } e _ with ⟨err | ⟨⟩, c', e'⟩
        · rw [inserted] at stored
          exact stored
        · rw [inserted] at stored
          exact stored.trans (Engine.worked_notifyTask e' TaskEvent.create c')

theorem ServiceTask.worked_create (t : Task) (c : Context) (e : Engine TaskTable σ) :
    Engine.Worked TaskRow.NoVeto e (create t c e).engine := by
  unfold create
  cases isService : check t with
  | error err => exact Engine.Worked.refl e
  | ok =>
      have fresh : (TaskRow.waiting Task.serviceType c.process t.name t.displayName
          e.settings.systemOperator e.now).FreshFor t := by
        rw [← typeName_of_check isService]
        exact TaskRow.freshFor_waiting ..
      have opened := fresh.isOpen e.tasks
      have stored := Engine.worked_insertTask opened opened.noVeto
      dsimp only
      exact stored.trans (Engine.worked_notifyTask _ TaskEvent.create _)

/-- A service task that has been entered is at hand in the context with its row. -/
theorem ServiceTask.context_of_create {t : Task} {c c' : Context} {e e' : Engine TaskTable σ}
    (h : create t c e = ⟨.ok (), c', e'⟩) :
    c'.action = c.action ∧ ∀ row ∈ c'.newTasks, row ∈ c.newTasks ∨ row ∈ e'.tasks.rows := by
  unfold create at h
  cases isService : check t with
  | error err =>
      rw [isService] at h
      cases h
  | ok =>
      rw [isService] at h
      simp only [Engine.insertTask_eq] at h
      injection h with result context engine
      subst context
      subst engine
      refine ⟨rfl, ?_⟩
      intro row member
      rcases List.mem_append.1 member with old | new
      · exact Or.inl old
      · refine Or.inr ?_
        rw [(Engine.heard_notify _ TaskEvent.create _).tasks, List.mem_singleton.1 new]
        exact TaskTable.mem_insert.2 (Or.inr rfl)

theorem Engine.worked_create (p : Processor) (t : Task) (c : Context) (e : Engine TaskTable σ) :
    Worked TaskRow.NoVeto e (p.create t c e).engine := by
  cases p with
  | user => exact UserTask.worked_create t c e
  | service => exact ServiceTask.worked_create t c e

omit [EventStore σ] in
/-- Rows are stored one after another, and the context keeps them in the same order. -/
theorem UserTask.insertRows_eq (c : Context) (e : Engine TaskTable σ) (rows : List TaskRow) :
    insertRows c e rows =
      ⟨.ok (), { c with newTasks := c.newTasks ++ e.tasks.stored rows },
        { e with tasks := ⟨e.tasks.rows ++ e.tasks.stored rows⟩ }⟩ := by
  induction rows generalizing c e with
  | nil => simp [insertRows, TaskTable.stored]
  | cons row rest ih =>
      have more := ih (c.withNewTask (e.tasks.fresh row)) { e with tasks := e.tasks.insert row }
      rw [TaskTable.stored_cons]
      refine more.trans ?_
      simp [Context.withNewTask, TaskTable.insert]

omit [EventStore σ] in
theorem UserTask.size_insertRows (c : Context) (e : Engine TaskTable σ) (rows : List TaskRow) :
    (insertRows c e rows).engine.tasks.size = e.tasks.size + rows.length := by
  rw [insertRows_eq, TaskTable.size, List.length_append, TaskTable.length_stored]
  rfl

/-- Entering a user task stores a row unless nobody can act on it. -/
theorem UserTask.size_create {t : Task} {p : UserPart} {c : Context} (isUser : part t = .ok p)
    (somebody : usableNames (p.assign { c with current := some t : Context }.snapshot) ≠ [])
    (e : Engine TaskTable σ) : e.tasks.size < (create t c e).engine.tasks.size := by
  unfold create
  rw [isUser]
  dsimp only
  rw [if_neg (by simpa using somebody)]
  have count := size_insertRows { c with current := some t } e
    ((rowApprovers p.needAll (usableNames
      (p.assign { c with current := some t : Context }.snapshot))).map fun approvers =>
        TaskRow.waiting Task.userType c.process t.name t.displayName approvers e.now)
  have more : 0 < (rowApprovers p.needAll (usableNames
      (p.assign { c with current := some t : Context }.snapshot))).length := by
    unfold rowApprovers
    split
    · exact List.length_pos_iff.2 somebody
    · exact Nat.one_pos
  rw [List.length_map] at count
  rcases inserted : insertRows { c with current := some t } e _ with ⟨err | ⟨⟩, c', e'⟩
  · rw [inserted] at count
    dsimp only at count ⊢
    omega
  · rw [inserted] at count
    dsimp only at count ⊢
    rw [(Engine.heard_notify e' TaskEvent.create c').tasks]
    omega

/-- Entering a service task stores a row. -/
theorem ServiceTask.size_create {t : Task} (isService : check t = .ok ()) (c : Context)
    (e : Engine TaskTable σ) : e.tasks.size < (create t c e).engine.tasks.size := by
  unfold create
  rw [isService]
  dsimp only [Engine.insertTask_eq]
  rw [(Engine.heard_notify _ TaskEvent.create _).tasks, TaskTable.size_insert]
  exact Nat.lt_succ_self _

end Entering

/-! ## Completing a task -/

section Completing

variable [EventStore σ]

omit [EventStore σ] in
theorem ServiceTask.worked_finish {status : TaskStatus} {remark : Option String} {a : ActionRequest}
    {c : Context} {e : Engine TaskTable σ} (sound : e.tasks.Sound) (copied : e.tasks.Copied a.row)
    (pending : a.row.status = .pending) (action : c.action = some a)
    (terminal : status.isTerminal = true) (noVeto : status ∉ TaskStatus.vetoes) :
    Engine.Worked TaskRow.NoVeto e (finish status remark c e).engine := by
  have closes := closes_closedRow pending terminal e.settings.systemOperator remark e.now
  unfold finish
  rw [Context.request_eq_ok_iff.2 action]
  rcases updated : e.updateTask (closedRow a.row status e.settings.systemOperator remark e.now) with
    ⟨err | saved, e'⟩
  · simp only [updated]
    rw [(Engine.conflict_of_updateTask sound copied closes updated).1]
    exact Engine.Worked.refl e
  · simp only [updated]
    obtain ⟨-, by_, trace⟩ := Engine.closedBy_of_updateTask sound copied closes updated
    exact Engine.worked_closedBy by_ noVeto trace

/-- Completing a service task makes no veto. -/
theorem Engine.worked_service {c : Context} {e : Engine TaskTable σ} (sound : e.tasks.Sound)
    (copied : ∀ row, c.acted .service = some row → e.tasks.Copied row) :
    Worked TaskRow.NoVeto e (ServiceTask.complete c e).engine := by
  unfold ServiceTask.complete
  rcases prepared : ServiceTask.prepare c e.settings.systemOperator with ⟨err | ⟨⟩, ready⟩
  · exact Worked.refl e
  · obtain ⟨t, a, checked⟩ := ServiceTask.prepared_of_prepare prepared
    have action : ready.action = some a := by rw [checked.ready]
    have tasks := (heard_notify e TaskEvent.complete ready).tasks
    have told : Worked TaskRow.NoVeto e (e.notify TaskEvent.complete ready).2 :=
      worked_notifyTask e TaskEvent.complete ready
    rcases worked : e.notify TaskEvent.complete ready with ⟨outcome, e'⟩
    rw [worked] at tasks told
    have sound' : e'.tasks.Sound := tasks ▸ sound
    have copied' : e'.tasks.Copied a.row := tasks ▸ copied a.row checked.acted
    cases outcome with
    | ok =>
        have closed : Worked TaskRow.NoVeto e'
            (ServiceTask.finish .completed none ready e').engine :=
          ServiceTask.worked_finish sound' copied' checked.pending action rfl (by decide)
        simp only [worked]
        rcases finished : ServiceTask.finish .completed none ready e' with ⟨err | saved, c', e''⟩
        · rw [finished] at closed
          exact told.trans closed
        · rw [finished] at closed
          exact told.trans closed
    | error err =>
        have closed : Worked TaskRow.NoVeto e'
            (ServiceTask.finish .failed (some err.message) ready e').engine :=
          ServiceTask.worked_finish sound' copied' checked.pending action rfl (by decide)
        simp only [worked]
        exact (told.trans closed).trans (worked_notifyTask _ TaskEvent.fail _)

/-- With the stored row itself at hand an action that has passed its checks closes the row; what is
left depends on the listeners. -/
theorem UserTask.complete_of_plan {c : Context} {e : Engine TaskTable σ} {a : ActionRequest}
    {event : TaskEvent} {closed : TaskRow} (sound : e.tasks.Sound) (action : c.action = some a)
    (here : a.row ∈ e.tasks.rows) (planned : plan c e.now = .ok (event, closed)) :
    ∃ e' : Engine TaskTable σ,
      e.tasks.ClosedBy e'.tasks a.row (TaskTable.bumped closed) ∧ e'.trace = e.trace ∧
      e'.settings = e.settings ∧
      complete c e = ⟨(e'.notify event (c.withRow (TaskTable.bumped closed))).1.map fun _ => true,
        c.withRow (TaskTable.bumped closed),
        (e'.notify event (c.withRow (TaskTable.bumped closed))).2⟩ := by
  obtain ⟨t, b, checked⟩ := planned_of_plan planned
  have one : b = a := Option.some.inj (checked.action.symm.trans action)
  rw [one] at checked
  have closes := checked.closes
  have written : e.tasks.update closed =
      (.ok (TaskTable.bumped closed), e.tasks.replace (TaskTable.bumped closed)) :=
    sound.numbered.update_eq_ok_iff.2
      ⟨⟨a.row, here, closes.same.id_eq.symm, closes.version.symm⟩, rfl, rfl⟩
  have updated : e.updateTask closed = (.ok (TaskTable.bumped closed),
      { e with tasks := e.tasks.replace (TaskTable.bumped closed) }) := by
    simp only [Engine.updateTask, TaskStore.update, written]
    rfl
  obtain ⟨-, by_, trace⟩ := Engine.closedBy_of_updateTask sound
    ⟨a.row, here, TaskRow.Precedes.refl a.row⟩ closes updated
  refine ⟨_, by_, trace, rfl, ?_⟩
  simp only [complete, planned, updated]
  rcases Engine.notify _ event (c.withRow (TaskTable.bumped closed)) with ⟨err | ⟨⟩, e''⟩
  · rfl
  · rfl

/-- Completing a user task makes at most the planned row. -/
theorem UserTask.worked_complete {c : Context} {e : Engine TaskTable σ} {a : ActionRequest}
    (sound : e.tasks.Sound) (action : c.action = some a) (here : a.row ∈ e.tasks.rows) :
    Engine.Worked (fun row => ∃ event closed, plan c e.now = .ok (event, closed) ∧
      row = TaskTable.bumped closed) e (complete c e).engine := by
  cases planned : plan c e.now with
  | error err =>
      simp only [complete, planned]
      exact Engine.Worked.refl e
  | ok answer =>
      obtain ⟨event, closed⟩ := answer
      obtain ⟨e', by_, trace, -, same⟩ := complete_of_plan sound action here planned
      rw [same]
      have stored : Engine.Worked (fun row => ∃ event' closed',
          (.ok (event, closed) : Except WorkflowError _) = .ok (event', closed') ∧
            row = TaskTable.bumped closed') e e' :=
        Engine.worked_closedBy by_ ⟨event, closed, rfl, rfl⟩ trace
      exact stored.trans (Engine.worked_notifyTask e' event _)

/-- The listeners that are run in line when an event of a user task is notified. -/
def Task.inLine (t : Task) (settings : Settings) (event : TaskEvent) : List (Listener TaskEvent) :=
  settings.taskManager.sync event ++ t.listeners.sync event

/-- A user task has no listeners but its own and those for all processes, so notifying of an event
of it succeeds exactly when those in line do. -/
theorem Engine.notify_user_eq_ok_iff {t : Task} {c : Context} (e : Engine TaskTable σ)
    (event : TaskEvent) (current : c.current = some t) (isUser : t.typeName = Task.userType) :
    (e.notify event c).1 = .ok () ↔
      ∀ l ∈ t.inLine e.settings event, l.respond c.snapshot = .success := by
  have task : c.task = .ok t := Context.task_eq_ok_iff.2 current
  have own : (EventScope.groups e.catalogue c event).found = .ok (t.listeners.groups event) := by
    have nothing : t.supply e.catalogue c.snapshot = Supply.nothing := by
      obtain ⟨part, kind⟩ := Task.typeName_eq_userType_iff.1 isUser
      rw [Task.supply, kind]
    simp only [EventScope.groups, task, Task.lookupGroups, nothing]
    rfl
  rw [notify_eq_ok_iff]
  constructor
  · rintro ⟨element, groups, -, found, all⟩
    rw [own] at found
    cases found
    exact all
  · intro all
    exact ⟨⟨t.name, t.displayName⟩, t.listeners.groups event, Context.element_of_current current,
      own, all⟩

end Completing

end ApprovalFlow
