import ApprovalFlow.Engine.UserTask

/-!
# Service tasks

A service task is done by its listeners. Entering it stores one row for the engine's own operator;
completing it notifies of the completion first and then closes the row, as completed if every
listener in line succeeded and as failed otherwise. A failed task notifies of the failure as well,
but what comes of that is not reported: the answer is the failure of the completion.
-/

namespace ApprovalFlow

namespace ServiceTask

/-- A task that the engine does, or an error. -/
def check (t : Task) : Except WorkflowError Unit :=
  match t.service? with
  | some _ => .ok ()
  | none => .error (.configuration ("task " ++ t.name ++ " is not a service task"))

/-- The row that the step created last for a task. -/
def lastRow (t : Task) (c : Context) : Option TaskRow :=
  c.newTasks.reverse.find? (·.name == t.name)

/-- The context with an action on it: its own, or the completion of the row created last. -/
def ensureAction (t : Task) (c : Context) (operator : String) : Except WorkflowError Context :=
  match c.action with
  | some _ => .ok c
  | none =>
    match lastRow t c with
    | none => .error (.invalidState ("no task row created for " ++ t.name))
    | some row => .ok { c with action := some ⟨.complete, operator, none, none, [], row⟩ }

/-- The row as the engine closes it. -/
def closedRow (row : TaskRow) (status : TaskStatus) (operator : String) (remark : Option String)
    (now : Instant) : TaskRow :=
  { row with status := status, operator := some operator, remark := remark, endTime := some now }

variable {τ σ : Type} [TaskStore τ] [EventStore σ]

/-- Enters a task: stores its row and notifies of its creation. -/
def create (t : Task) (c : Context) (e : Engine τ σ) : Reply τ σ Unit :=
  match check t with
  | .error err => ⟨.error err, c, e⟩
  | .ok () =>
    let c := { c with current := some t }
    let row := TaskRow.waiting Task.serviceType c.process t.name t.displayName
      e.settings.systemOperator e.now
    match e.insertTask row with
    | (.error err, e) => ⟨.error err, c, e⟩
    | (.ok saved, e) =>
      let c := c.withNewTask saved
      let (result, e) := e.notify TaskEvent.create c
      ⟨result, c, e⟩

/-- Closes the row of the context's action. -/
def finish (status : TaskStatus) (remark : Option String) (c : Context) (e : Engine τ σ) :
    Reply τ σ TaskRow :=
  match c.request with
  | .error err => ⟨.error err, c, e⟩
  | .ok a =>
    match e.updateTask (closedRow a.row status e.settings.systemOperator remark e.now) with
    | (.error err, e) => ⟨.error err, c, e⟩
    | (.ok stored, e) => ⟨.ok stored, c.withRow stored, e⟩

/-- Checks that a context is at a service task with a pending row of its own. The context with an
action on it, even if a check failed after the action was put there. -/
def prepare (c : Context) (operator : String) : Except WorkflowError Unit × Context :=
  match c.task with
  | .error err => (.error err, c)
  | .ok t =>
    match check t with
    | .error err => (.error err, c)
    | .ok () =>
      match ensureAction t c operator with
      | .error err => (.error err, c)
      | .ok c =>
        (do
          let a ← c.request
          UserTask.checkPending a.row
          UserTask.checkTask t a.row, c)

/-- Completes the task: notifies of the completion, then closes the row. -/
def complete (c : Context) (e : Engine τ σ) : Reply τ σ Bool :=
  match prepare c e.settings.systemOperator with
  | (.error err, c) => ⟨.error err, c, e⟩
  | (.ok (), c) =>
    match e.notify TaskEvent.complete c with
    | (.ok (), e) =>
      match finish .completed none c e with
      | ⟨.ok _, c, e⟩ => ⟨.ok true, c, e⟩
      | ⟨.error err, c, e⟩ => ⟨.error err, c, e⟩
    | (.error err, e) =>
      let closed := finish .failed (some err.message) c e
      let (_, e) := closed.engine.notify TaskEvent.fail closed.context
      ⟨.error err, closed.context, e⟩

/-- The tasks that follow. -/
def next (t : Task) : List String :=
  t.next

end ServiceTask

/-- The two ways tasks are processed. -/
inductive Processor where
  | user
  | service
  deriving DecidableEq, Repr, Inhabited

namespace Processor

/-- The way a task is processed. -/
def ofTask (t : Task) : Processor :=
  match t.kind with
  | .user _ => .user
  | .service _ => .service

/-- Whether a task, once entered, waits for an operator. -/
def waits : Processor → Bool
  | user => true
  | service => false

variable {τ σ : Type} [TaskStore τ] [EventStore σ]

/-- Enters a task. -/
def create : Processor → Task → Context → Engine τ σ → Reply τ σ Unit
  | user => UserTask.create
  | service => ServiceTask.create

/-- Completes the task a context is at. -/
def complete : Processor → Context → Engine τ σ → Reply τ σ Bool
  | user => UserTask.complete
  | service => ServiceTask.complete

/-- The tasks that follow. -/
def next (p : Processor) (t : Task) (c : Context) (e : Engine τ σ) :
    Except WorkflowError (List String) × Engine τ σ :=
  match p with
  | user => UserTask.next t c e
  | service => (.ok (ServiceTask.next t), e)

end Processor

end ApprovalFlow
