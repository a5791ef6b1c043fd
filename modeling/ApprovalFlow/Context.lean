import ApprovalFlow.Definition.Process

/-!
# Contexts

A context is what one workflow step carries along: the definition and the row of its process, the
task it is at, the action being applied and the rows it has created. `Context.snapshot` is the part
of it that listeners see.
-/

namespace ApprovalFlow

/-- The state of one workflow step. -/
structure Context where
  applicant : String
  definition : ProcessDefinition
  form : Option ProcessForm
  process : ProcessRow
  current : Option Task
  action : Option ActionRequest
  newTasks : List TaskRow

/-- The element, a process or a task, on whose behalf listeners run. -/
structure Element where
  name : String
  displayName : String
  deriving DecidableEq, Repr

namespace Context

/-- The context of a process before any task. -/
def base (definition : ProcessDefinition) (process : ProcessRow) (form : Option ProcessForm) :
    Context where
  applicant := process.applicant
  definition := definition
  form := form
  process := process
  current := none
  action := none
  newTasks := []

/-- What listeners see of the context. -/
def snapshot (c : Context) : Snapshot where
  definition := c.definition.name
  applicant := c.applicant
  form := c.form
  process := c.process
  current := c.current.map (·.name)
  action := c.action
  newTasks := c.newTasks

@[simp] theorem snapshot_definition (c : Context) : c.snapshot.definition = c.definition.name := rfl
@[simp] theorem snapshot_applicant (c : Context) : c.snapshot.applicant = c.applicant := rfl
@[simp] theorem snapshot_form (c : Context) : c.snapshot.form = c.form := rfl
@[simp] theorem snapshot_process (c : Context) : c.snapshot.process = c.process := rfl
@[simp] theorem snapshot_current (c : Context) : c.snapshot.current = c.current.map (·.name) := rfl
@[simp] theorem snapshot_action (c : Context) : c.snapshot.action = c.action := rfl
@[simp] theorem snapshot_newTasks (c : Context) : c.snapshot.newTasks = c.newTasks := rfl

/-- The group the process works on. -/
def groupId (c : Context) : Option String :=
  c.snapshot.groupId

@[simp] theorem snapshot_groupId (c : Context) : c.snapshot.groupId = c.groupId := rfl

/-- The task the step is at. -/
def task (c : Context) : Except WorkflowError Task :=
  match c.current with
  | some t => .ok t
  | none => .error (.configuration ("no current element in process " ++ c.definition.name))

/-- The action being applied. -/
def request (c : Context) : Except WorkflowError ActionRequest :=
  match c.action with
  | some a => .ok a
  | none => .error (.configuration ("no action context in process " ++ c.definition.name))

/-- Replaces the row copy of the action being applied. -/
def withRow (c : Context) (row : TaskRow) : Context :=
  { c with action := c.action.map fun a => { a with row := row } }

/-- Appends a row the step has created. -/
def withNewTask (c : Context) (row : TaskRow) : Context :=
  { c with newTasks := c.newTasks ++ [row] }

/-- The summary of a context. -/
def summary (c : Context) : String :=
  Text.recordSummary "WorkflowContext"
    [("process", Text.quoted c.definition.name), ("process_id", toString c.process.id),
      ("applicant", Text.quoted c.applicant),
      ("current_element", Text.optionSummary (c.current.map fun t => Text.quoted t.name)),
      ("action", Text.optionSummary (c.action.map fun a => a.action.label)),
      ("new_tasks", toString c.newTasks.length)]

end Context

end ApprovalFlow
