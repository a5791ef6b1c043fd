import ApprovalFlow.Engine.ExtParams
import ApprovalFlow.Engine.Notify

/-!
# User tasks

Entering a user task stores its rows, one for each approver if all have to approve and one for all
of them otherwise, and notifies of their creation. An operator's action closes a row in three steps
that others may come between: `UserTask.plan` checks the action against the copy of the row and
works out the row as it will be stored, the store compares versions and writes, and only then are
listeners notified. Nothing is stored or run unless every check has passed.
-/

namespace ApprovalFlow

namespace UserTask

/-- The actions that close a row of a user task. -/
def supported : List Action :=
  [.approve, .reject, .transfer, .cancel, .terminate]

/-- The actions that only an approver may take. -/
def approverOnly : List Action :=
  [.approve, .reject, .transfer]

/-- The part of a task that people approve, or an error if there is none. -/
def part (t : Task) : Except WorkflowError UserPart :=
  match t.user? with
  | some part => .ok part
  | none => .error (.configuration ("task " ++ t.name ++ " is not a user task"))

/-- The names that an assignment leaves when blanks are cut off and empty names dropped. -/
def usableNames (names : List String) : List String :=
  (names.map Text.trim).filter (· != "")

/-- The approvers of the rows to store: a row for each name, or one row for all. -/
def rowApprovers (needAll : Bool) (names : List String) : List String :=
  if needAll then names else [Text.joined TaskRow.approverMark names]

/-- The actions an approver's row has to be checked for need the operator among its approvers. -/
def checkOperator (a : ActionRequest) : Except WorkflowError Unit :=
  if approverOnly.contains a.action && !a.row.isApprover a.operator then
    .error (.unauthorized a.operator a.row.approvers)
  else .ok ()

/-- Whether an action has to come with a form. -/
def needsForm (p : UserPart) (action : Action) : Bool :=
  p.formKind.isSome && (action == .approve || action == .complete)

/-- The form data of the closed row: the form that has to come with the action, or what the row had
if no form may come. -/
def formData (p : UserPart) (a : ActionRequest) : Except WorkflowError (Option String) :=
  match p.formKind, needsForm p a.action with
  | some kind, true =>
    match a.form with
    | none => .error (.invalidAction "form cannot be null")
    | some form =>
      if form.kind ≠ kind then .error (.formTypeMismatch kind.formName form.kind.formName)
      else form.validate.map fun _ => some form.toText
  | _, _ =>
    if a.form.isSome then .error (.invalidAction ("no form required for " ++ a.action.name))
    else .ok a.row.formData

/-- The extension parameters of the closed row. -/
def extParams (a : ActionRequest) : Except WorkflowError String :=
  let targets := if a.action = .transfer then some a.transferTo else none
  match ExtParams.merge targets a.row.extParams with
  | some text => .ok text
  | none => .error (.serialization "extension parameters are not a JSON object")

/-- The row as an action closes it. -/
def closedRow (p : UserPart) (a : ActionRequest) (now : Instant) :
    Except WorkflowError TaskRow := do
  let status ← match a.action.taskStatus with
    | some status => .ok status
    | none => .error (.invalidAction (a.action.name ++ " does not complete a task"))
  let formData ← formData p a
  let extParams ← extParams a
  return { a.row with
    status := status
    operator := some a.operator
    remark := a.remark
    formData := formData
    endTime := some now
    extParams := some extParams }

/-- A row copy has to be pending. -/
def checkPending (row : TaskRow) : Except WorkflowError Unit :=
  if row.status ≠ .pending then
    .error (.invalidState
      ("task " ++ toString row.id ++ " is " ++ row.status.name ++ ", expected " ++
        TaskStatus.pending.name))
  else .ok ()

/-- A row copy has to be one of the task. -/
def checkTask (t : Task) (row : TaskRow) : Except WorkflowError Unit :=
  if row.name ≠ t.name then
    .error (.configuration
      ("task row " ++ toString row.id ++ " belongs to " ++ row.name ++ ", not " ++ t.name))
  else .ok ()

/-- Checks the action of a context. The event that is to follow and the row to store. -/
def plan (c : Context) (now : Instant) : Except WorkflowError (TaskEvent × TaskRow) := do
  let t ← c.task
  let p ← part t
  let a ← c.request
  if !supported.contains a.action then
    throw (.invalidAction ("user task does not support action " ++ a.action.name))
  checkPending a.row
  checkTask t a.row
  checkOperator a
  let event ← match a.action.taskEvent with
    | some event => .ok event
    | none => .error (.invalidAction (a.action.name ++ " fires no task event"))
  let row ← closedRow p a now
  return (event, row)

variable {τ σ : Type} [TaskStore τ] [EventStore σ]

/-- Stores rows and adds each to the context; stops when the store refuses one. -/
def insertRows (c : Context) (e : Engine τ σ) : List TaskRow → Reply τ σ Unit
  | [] => ⟨.ok (), c, e⟩
  | row :: rest =>
    match e.insertTask row with
    | (.error err, e) => ⟨.error err, c, e⟩
    | (.ok saved, e) => insertRows (c.withNewTask saved) e rest

/-- Enters a task: stores its rows and notifies of their creation. -/
def create (t : Task) (c : Context) (e : Engine τ σ) : Reply τ σ Unit :=
  match part t with
  | .error err => ⟨.error err, c, e⟩
  | .ok p =>
    let c := { c with current := some t }
    let names := usableNames (p.assign c.snapshot)
    if names.isEmpty then ⟨.error (.emptyApprovers t.displayName), c, e⟩
    else
      let rows := (rowApprovers p.needAll names).map fun approvers =>
        TaskRow.waiting Task.userType c.process t.name t.displayName approvers e.now
      match insertRows c e rows with
      | ⟨.error err, c, e⟩ => ⟨.error err, c, e⟩
      | ⟨.ok (), c, e⟩ =>
        let (result, e) := e.notify TaskEvent.create c
        ⟨result, c, e⟩

/-- Closes the row of the context's action and notifies of it. The answer is whether the task is
done, which it is whenever nothing failed. -/
def complete (c : Context) (e : Engine τ σ) : Reply τ σ Bool :=
  match plan c e.now with
  | .error err => ⟨.error err, c, e⟩
  | .ok (event, row) =>
    match e.updateTask row with
    | (.error err, e) => ⟨.error err, c, e⟩
    | (.ok stored, e) =>
      let c := c.withRow stored
      match e.notify event c with
      | (.error err, e) => ⟨.error err, c, e⟩
      | (.ok (), e) => ⟨.ok true, c, e⟩

/-- The tasks that follow; none as long as a row waits that has to be approved too. -/
def next (t : Task) (c : Context) (e : Engine τ σ) :
    Except WorkflowError (List String) × Engine τ σ :=
  match part t with
  | .error err => (.error err, e)
  | .ok p =>
    if p.needAll then
      match e.countTasks c.process.id t.name .pending with
      | (.error err, e) => (.error err, e)
      | (.ok pending, e) => (.ok (if pending > 0 then [] else t.next), e)
    else (.ok t.next, e)

end UserTask

end ApprovalFlow
