import ApprovalFlow.Engine.ServiceTask
import ApprovalFlow.Proofs.TaskTable

/-!
# What a call has checked

Completing a task checks the caller's copy of the row before anything is stored.
`UserTask.Planned` and `ServiceTask.Prepared` say what is known once the checks have passed, and
`UserTask.planned_of_plan` and `ServiceTask.prepared_of_prepare` derive it, so that nothing else has
to open the checks. Entering a task checks little; `TaskRow.FreshFor` says what it stores.
-/

namespace ApprovalFlow

theorem Except.bind_eq_ok {ε α β : Type} {x : Except ε α} {f : α → Except ε β} {b : β} :
    x >>= f = .ok b ↔ ∃ a, x = .ok a ∧ f a = .ok b := by
  cases x <;> simp [Bind.bind, Except.bind]

namespace Context

theorem task_eq_ok_iff {c : Context} {t : Task} : c.task = .ok t ↔ c.current = some t := by
  unfold task
  cases c.current <;> simp

theorem request_eq_ok_iff {c : Context} {a : ActionRequest} :
    c.request = .ok a ↔ c.action = some a := by
  unfold request
  cases c.action <;> simp

/-- The row copy that a completion acts on: the action's, or for the engine's own tasks the one the
step created last. -/
def acted (p : Processor) (c : Context) : Option TaskRow :=
  match c.action, p with
  | some a, _ => some a.row
  | none, .user => none
  | none, .service => c.current.bind fun t => ServiceTask.lastRow t c

end Context

theorem Task.typeName_eq_userType_iff {t : Task} :
    t.typeName = Task.userType ↔ ∃ part, t.kind = .user part := by
  unfold typeName
  cases t.kind <;> simp [serviceType, userType]

theorem Task.typeName_eq_serviceType_iff {t : Task} :
    t.typeName = Task.serviceType ↔ ∃ part, t.kind = .service part := by
  unfold typeName
  cases t.kind <;> simp [serviceType, userType]

/-- A row that entering a task stores. -/
structure TaskRow.FreshFor (t : Task) (row : TaskRow) : Prop where
  name : row.name = t.name
  taskType : row.taskType = t.typeName
  status : row.status = .pending
  operator : row.operator = none
  formData : row.formData = none
  endTime : row.endTime = none

theorem TaskRow.FreshFor.isOpen {t : Task} {row : TaskRow} (fresh : row.FreshFor t)
    (table : TaskTable) : (table.fresh row).IsOpen :=
  ⟨fresh.status, rfl, fresh.operator, fresh.endTime⟩

theorem TaskRow.freshFor_waiting (t : Task) (process : ProcessRow) (displayName approvers : String)
    (now : Instant) :
    (TaskRow.waiting t.typeName process t.name displayName approvers now).FreshFor t :=
  ⟨rfl, rfl, rfl, rfl, rfl, rfl⟩

namespace UserTask

theorem typeName_of_part {t : Task} {p : UserPart} (h : part t = .ok p) :
    t.typeName = Task.userType := by
  unfold part Task.user? at h
  unfold Task.typeName
  cases kind : t.kind with
  | user => rfl
  | service =>
      rw [kind] at h
      cases h

theorem part_of_kind {t : Task} {p : UserPart} (kind : t.kind = .user p) : part t = .ok p := by
  unfold part Task.user?
  rw [kind]

theorem ofTask_of_typeName {t : Task} (h : t.typeName = Task.userType) :
    Processor.ofTask t = .user := by
  obtain ⟨part, kind⟩ := Task.typeName_eq_userType_iff.1 h
  rw [Processor.ofTask, kind]

theorem checkPending_eq_ok_iff {row : TaskRow} :
    checkPending row = .ok () ↔ row.status = .pending := by
  unfold checkPending
  split <;> simp_all

theorem checkTask_eq_ok_iff {t : Task} {row : TaskRow} :
    checkTask t row = .ok () ↔ row.name = t.name := by
  unfold checkTask
  split <;> simp_all

/-- The operator check passes an approver, and everybody for the actions that are open to all. -/
theorem checkOperator_eq_ok_iff {a : ActionRequest} :
    checkOperator a = .ok () ↔ (a.action ∈ approverOnly → a.operator ∈ a.row.approverList) := by
  unfold checkOperator TaskRow.isApprover
  by_cases only : a.action ∈ approverOnly <;>
    by_cases named : a.operator ∈ a.row.approverList <;> simp [only, named]

/-- The row as it will be stored closes the copy it is made from, with the action's form data. -/
theorem closes_of_closedRow {p : UserPart} {a : ActionRequest} {now : Instant} {row : TaskRow}
    (pending : a.row.status = .pending) (h : closedRow p a now = .ok row) :
    a.row.Closes row ∧ a.action.taskStatus = some row.status ∧ row.operator = some a.operator ∧
      formData p a = .ok row.formData := by
  unfold closedRow at h
  cases status : a.action.taskStatus with
  | none =>
      rw [status] at h
      cases h
  | some final =>
      rw [status] at h
      obtain ⟨_, final', h⟩ := Except.bind_eq_ok.1 h
      obtain ⟨form, submitted, h⟩ := Except.bind_eq_ok.1 h
      obtain ⟨ext, -, h⟩ := Except.bind_eq_ok.1 h
      cases final'
      cases h
      exact ⟨⟨pending, rfl, Action.isTerminal_of_taskStatus status, rfl, rfl, rfl⟩, rfl, rfl,
        submitted⟩

/-- What is known of an action that has passed its checks, of the event that is to follow and of the
row to store. -/
structure Planned (t : Task) (a : ActionRequest) (c : Context) (event : TaskEvent)
    (row : TaskRow) : Prop where
  current : c.current = some t
  isUser : t.typeName = Task.userType
  action : c.action = some a
  supported : a.action ∈ supported
  name : a.row.name = t.name
  approver : a.action ∈ approverOnly → a.operator ∈ a.row.approverList
  event : a.action.taskEvent = some event
  closes : a.row.Closes row
  status : a.action.taskStatus = some row.status
  operator : row.operator = some a.operator
  formData : ∃ p, part t = .ok p ∧ formData p a = .ok row.formData

theorem planned_of_plan {c : Context} {now : Instant} {event : TaskEvent} {row : TaskRow}
    (h : plan c now = .ok (event, row)) : ∃ t a, Planned t a c event row := by
  unfold plan at h
  obtain ⟨t, task, h⟩ := Except.bind_eq_ok.1 h
  obtain ⟨p, isUser, h⟩ := Except.bind_eq_ok.1 h
  obtain ⟨a, request, h⟩ := Except.bind_eq_ok.1 h
  by_cases able : supported.contains a.action = true
  · rw [able] at h
    simp only [Bool.not_true, Bool.false_eq_true, if_false] at h
    obtain ⟨_, pending, h⟩ := Except.bind_eq_ok.1 h
    obtain ⟨_, name, h⟩ := Except.bind_eq_ok.1 h
    obtain ⟨_, approver, h⟩ := Except.bind_eq_ok.1 h
    cases follows : a.action.taskEvent with
    | none =>
        rw [follows] at h
        cases h
    | some event' =>
        rw [follows] at h
        obtain ⟨_, same, h⟩ := Except.bind_eq_ok.1 h
        obtain ⟨row', closed, h⟩ := Except.bind_eq_ok.1 h
        cases same
        cases h
        obtain ⟨closes, status, operator, submitted⟩ :=
          closes_of_closedRow (checkPending_eq_ok_iff.1 pending) closed
        exact ⟨t, a, Context.task_eq_ok_iff.1 task, typeName_of_part isUser,
          Context.request_eq_ok_iff.1 request, by simpa using able, checkTask_eq_ok_iff.1 name,
          checkOperator_eq_ok_iff.1 approver, follows, closes, status, operator, p, isUser,
          submitted⟩
  · rw [Bool.not_eq_true] at able
    rw [able] at h
    cases h

theorem Planned.acted {t : Task} {a : ActionRequest} {c : Context} {event : TaskEvent}
    {row : TaskRow} (planned : Planned t a c event row) : c.acted .user = some a.row := by
  unfold Context.acted
  rw [planned.action]

end UserTask

namespace ServiceTask

theorem typeName_of_check {t : Task} (h : check t = .ok ()) : t.typeName = Task.serviceType := by
  unfold check Task.service? at h
  unfold Task.typeName
  cases kind : t.kind with
  | service => rfl
  | user =>
      rw [kind] at h
      cases h

theorem check_of_kind {t : Task} {part : ServicePart} (kind : t.kind = .service part) :
    check t = .ok () := by
  unfold check Task.service?
  rw [kind]

/-- What is known of a context that is ready for a service task to be done: the action on it, and
that its row copy is one of the task's and pending. -/
structure Prepared (t : Task) (a : ActionRequest) (c ready : Context) : Prop where
  current : c.current = some t
  isService : t.typeName = Task.serviceType
  ready : ready = { c with action := some a }
  acted : c.acted .service = some a.row
  name : a.row.name = t.name
  pending : a.row.status = .pending

theorem acted_of_ensureAction {t : Task} {c ready : Context} {operator : String}
    {a : ActionRequest} (current : c.current = some t)
    (ensured : ensureAction t c operator = .ok ready) (action : ready.action = some a) :
    ready = { c with action := some a } ∧ c.acted .service = some a.row := by
  unfold ensureAction at ensured
  unfold Context.acted
  cases own : c.action with
  | some b =>
      rw [own] at ensured
      cases ensured
      rw [own] at action
      cases action
      exact ⟨by rw [← own], rfl⟩
  | none =>
      rw [own] at ensured
      cases last : lastRow t c with
      | none =>
          simp only [last] at ensured
          cases ensured
      | some row =>
          simp only [last] at ensured
          cases ensured
          cases action
          refine ⟨rfl, ?_⟩
          dsimp only
          rw [current, Option.bind_some, last]

theorem prepared_of_prepare {c ready : Context} {operator : String}
    (h : prepare c operator = (.ok (), ready)) : ∃ t a, Prepared t a c ready := by
  unfold prepare at h
  cases task : c.task with
  | error err =>
      rw [task] at h
      cases h
  | ok t =>
      rw [task] at h
      dsimp only at h
      cases isService : check t with
      | error err =>
          rw [isService] at h
          cases h
      | ok =>
          rw [isService] at h
          dsimp only at h
          have current := Context.task_eq_ok_iff.1 task
          cases ensured : ensureAction t c operator with
          | error err =>
              rw [ensured] at h
              cases h
          | ok c' =>
              rw [ensured, Prod.mk.injEq] at h
              obtain ⟨checks, rfl⟩ := h
              obtain ⟨a, request, checks⟩ := Except.bind_eq_ok.1 checks
              obtain ⟨_, pending, name⟩ := Except.bind_eq_ok.1 checks
              have action := Context.request_eq_ok_iff.1 request
              obtain ⟨kept, acted⟩ := acted_of_ensureAction current ensured action
              exact ⟨t, a, current, typeName_of_check isService, kept, acted,
                UserTask.checkTask_eq_ok_iff.1 name, UserTask.checkPending_eq_ok_iff.1 pending⟩

/-- The row as the engine closes it closes the copy it is made from. -/
theorem closes_closedRow {row : TaskRow} {status : TaskStatus} (pending : row.status = .pending)
    (terminal : status.isTerminal = true) (operator : String) (remark : Option String)
    (now : Instant) : row.Closes (closedRow row status operator remark now) :=
  ⟨pending, rfl, terminal, rfl, rfl, rfl⟩

end ServiceTask

/-! ## Store calls of the engine -/

namespace Engine

variable {σ : Type} {e e' : Engine TaskTable σ}

/-- A row that was closed by a copy, and nothing else of the engine changed. -/
theorem closedBy_of_updateTask {copy row saved : TaskRow} (sound : e.tasks.Sound)
    (copied : e.tasks.Copied copy) (closes : copy.Closes row)
    (updated : e.updateTask row = (.ok saved, e')) :
    saved = TaskTable.bumped row ∧ e.tasks.ClosedBy e'.tasks copy (TaskTable.bumped row) ∧
      e'.trace = e.trace := by
  rcases answer : e.tasks.update row with ⟨err | saved', t⟩
  · simp only [updateTask, TaskStore.update, answer] at updated
    cases updated
  · simp only [updateTask, TaskStore.update, answer] at updated
    cases updated
    obtain ⟨same, by_⟩ := sound.closedBy copied closes answer
    exact ⟨same, by_, rfl⟩

theorem conflict_of_updateTask {copy row : TaskRow} {err : WorkflowError} (sound : e.tasks.Sound)
    (copied : e.tasks.Copied copy) (closes : copy.Closes row)
    (updated : e.updateTask row = (.error err, e')) :
    e' = e ∧ ∃ id expected actual, err = .store (.conflict "task" id expected actual) := by
  rcases answer : e.tasks.update row with ⟨err' | saved, t⟩
  · simp only [updateTask, TaskStore.update, answer] at updated
    cases updated
    obtain ⟨rfl, id, expected, actual, rfl⟩ := sound.conflict copied closes answer
    exact ⟨rfl, id, expected, actual, rfl⟩
  · simp only [updateTask, TaskStore.update, answer] at updated
    cases updated

end Engine

end ApprovalFlow
