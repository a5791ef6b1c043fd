import ApprovalFlow.Replay.Walk

/-!
# Replays

A replay starts a process and applies operators' actions to it in order. Every step is recorded with
its outcome; a step that fails with an ordinary error is recorded as failed and the replay goes on,
while a fatal error ends the replay without a report. After the last action the pools are drained
and the report is drawn up.
-/

namespace ApprovalFlow

/-- An operator's action on a task, as a scenario asks for it. -/
structure ActionSpec where
  task : String
  operator : String
  action : Action
  remark : Option String
  form : Option TaskForm
  transferTo : List String
  deriving DecidableEq, Repr

/-- What a replay reports. -/
structure ReplayReport where
  process : String
  processId : Int
  status : ProcessStatus
  steps : List StepRecord
  tasks : List TaskRow
  events : List EventRow
  deriving DecidableEq, Repr

/-- Why a replay ends without a report: the step, and what stopped it. -/
structure ReplayFailure where
  step : String
  halt : Halt
  deriving DecidableEq, Repr

namespace Replay

/-- An ordinary result as the result of a step. -/
def lift {α : Type} : Except WorkflowError α → Except Halt α
  | .ok a => .ok a
  | .error err => .error (.failed err)

/-- Notifies of the process's creation and goes to its first tasks. -/
def startProcess (r : Replay) : Except Halt String × Replay :=
  match r.notifyProcess .create r.context with
  | (.error err, r) => (.error (.failed err), r)
  | (.ok (), r) => r.advance r.definition.start

/-- The row an operator's action applies to: the first open row of the task that lists the operator
as approver, else the first open row. -/
def openRow (r : Replay) (task operator : String) : Except WorkflowError TaskRow :=
  let rows := (r.engine.tasks.ofProcess r.process.id).filter fun row =>
    row.name == task && !row.status.isTerminal
  match (rows.find? (·.isApprover operator)).or rows.head? with
  | some row => .ok row
  | none => .error (.invalidState ("task " ++ task ++ " has no pending row"))

/-- Hands a task to other users by a row of its own; the row's id. -/
def transfer (r : Replay) (t : Task) (c : Context) (users : List String) :
    Except WorkflowError Int × Replay :=
  if users.isEmpty then
    (.error (.invalidAction "transfer needs at least one user"), r)
  else
    let row := TaskRow.waiting Task.userType r.process t.name t.displayName
      (Text.joined TaskRow.approverMark users) r.engine.now
    match r.engine.insertTask row with
    | (.error err, e) => (.error err, { r with engine := e })
    | (.ok saved, e) =>
      let (result, e) := e.notify TaskEvent.create { c with action := none, newTasks := [saved] }
      (result.map fun _ => saved.id, { r with engine := e })

/-- Closes the process after an action and words the outcome. -/
def closeAfter (r : Replay) (taskId : Int) (status : ProcessStatus) (event : ProcessEvent)
    (word : String) : Except Halt String × Replay :=
  let (result, r) := r.close status event
  (lift (result.map fun _ =>
    "task " ++ toString taskId ++ " " ++ word ++ ", process " ++ word), r)

/-- What follows when an action has closed its row. -/
def followUp (r : Replay) (t : Task) (c : Context) (taskId : Int) (spec : ActionSpec) :
    Except Halt String × Replay :=
  let task := "task " ++ toString taskId
  match spec.action with
  | .approve | .complete =>
    match (Processor.ofTask t).next t c r.engine with
    | (.error err, e) => (.error (.failed err), { r with engine := e })
    | (.ok [], e) => (.ok (task ++ " approved, waiting on other approvers"), { r with engine := e })
    | (.ok next, e) =>
      let (result, r) := { r with engine := e }.advance next
      (result.map fun entered => task ++ " approved, " ++ entered, r)
  | .transfer =>
    let (result, r) := r.transfer t c spec.transferTo
    (lift (result.map fun id => task ++ " transferred to row " ++ toString id), r)
  | .reject => r.closeAfter taskId .rejected .reject "rejected"
  | .cancel => r.closeAfter taskId .canceled .cancel "canceled"
  | .terminate => r.closeAfter taskId .terminated .terminate "terminated"
  | .start => (.error (.failed (.invalidAction "START cannot be applied to a task")), r)

/-- Finds the task and the row for an action, unless the process is closed. -/
def target (r : Replay) (spec : ActionSpec) : Except WorkflowError (Task × TaskRow) := do
  if r.process.status ≠ .processing then
    throw (.invalidState
      ("process " ++ toString r.process.id ++ " is " ++ r.process.status.label))
  let t ← r.task spec.task
  return (t, ← r.openRow spec.task spec.operator)

/-- Applies an operator's action. -/
def apply (r : Replay) (spec : ActionSpec) : Except Halt String × Replay :=
  match r.target spec with
  | .error err => (.error (.failed err), r)
  | .ok (t, row) =>
    let c := { r.context with
      current := some t
      action := some ⟨spec.action, spec.operator, spec.remark, spec.form, spec.transferTo, row⟩ }
    match (Processor.ofTask t).complete c r.engine with
    | ⟨.error err, _, e⟩ => (.error (.failed err), { r with engine := e })
    | ⟨.ok _, c, e⟩ =>
      match c.request with
      | .error err => (.error (.failed err), { r with engine := e })
      | .ok a => { r with engine := e }.followUp t c a.row.id spec

/-- Records a step. A fatal error, and a walk without end, stop the replay. -/
def record (r : Replay) (step : String) (result : Except Halt String) :
    Except ReplayFailure Replay :=
  match result with
  | .ok outcome => .ok { r with steps := r.steps ++ [⟨step, true, outcome⟩] }
  | .error .endless => .error ⟨step, .endless⟩
  | .error (.failed err) =>
    if err.isFatal then .error ⟨step, .failed err⟩
    else .ok { r with steps := r.steps ++ [⟨step, false, err.message⟩] }

/-- Starts the process. -/
def start (r : Replay) : Except ReplayFailure Replay :=
  let (result, r) := r.startProcess
  r.record ("start " ++ r.definition.name) result

/-- The name of the step that applies an action. -/
def stepName (spec : ActionSpec) : String :=
  spec.action.name ++ " " ++ spec.task ++ " by " ++ spec.operator

/-- Applies an action and records the step. -/
def act (r : Replay) (spec : ActionSpec) : Except ReplayFailure Replay :=
  let (result, r) := r.apply spec
  r.record (stepName spec) result

/-- Drains the pools and draws up the report. -/
def report (r : Replay) : ReplayReport :=
  let e := r.engine.drain
  { process := r.definition.name
    processId := r.process.id
    status := r.process.status
    steps := r.steps
    tasks := e.tasks.ofProcess r.process.id
    events := e.events.ofProcess r.process.id }

/-- Starts the process, applies the actions in order, and reports. -/
def run (r : Replay) (actions : List ActionSpec) : Except ReplayFailure ReplayReport := do
  let r ← r.start
  let r ← actions.foldlM act r
  return r.report

end Replay

end ApprovalFlow
