import ApprovalFlow.Definition.Task

/-!
# Process definitions

A process has tasks with distinct names, a list of tasks it starts with, and listeners of its own.
A task names the tasks that follow it; the name `end` closes the process.
`ProcessDefinition.validate` checks that everything named is there.
-/

namespace ApprovalFlow

/-- A process: its tasks, where it starts, and who listens. -/
structure ProcessDefinition where
  name : String
  displayName : String
  processType : String
  formKind : Option ProcessFormKind
  listeners : Registry ProcessEvent
  tasks : List Task
  start : List String

namespace ProcessDefinition

/-- The name that stands for the end of the process among a task's successors. -/
def endName : String := "end"

/-- A process without tasks; it is typed by its name. -/
def named (name displayName : String) : ProcessDefinition where
  name := name
  displayName := displayName
  processType := name
  formKind := none
  listeners := .empty
  tasks := []
  start := []

/-- The task of a name. -/
def task? (p : ProcessDefinition) (name : String) : Option Task :=
  p.tasks.find? (·.name == name)

/-- Registers a listener on the process. -/
def addListener (p : ProcessDefinition) (l : Listener ProcessEvent) :
    Except WorkflowError ProcessDefinition := do
  return { p with listeners := ← p.listeners.register l }

/-- Appends a task whose name is not taken. -/
def addTask (p : ProcessDefinition) (t : Task) : Except WorkflowError ProcessDefinition :=
  if (p.task? t.name).isSome then
    .error (.configuration ("task " ++ t.name ++ " defined twice in process " ++ p.name))
  else .ok { p with tasks := p.tasks ++ [t] }

/-- Whether a name is the name of a task. -/
def knows (p : ProcessDefinition) (name : String) : Bool :=
  p.tasks.any (·.name == name)

/-- The pairs of a task and a successor, in order. -/
def successions (p : ProcessDefinition) : List (String × String) :=
  p.tasks.flatMap fun t => t.next.map fun next => (t.name, next)

/-- Checks that the process starts somewhere, that it starts at tasks it has, and that every task
is followed by tasks it has or by the end. -/
def validate (p : ProcessDefinition) : Except WorkflowError Unit :=
  if p.start.isEmpty then
    .error (.configuration ("process " ++ p.name ++ " has no start task"))
  else
    match p.start.find? (!p.knows ·) with
    | some name =>
      .error (.configuration ("process " ++ p.name ++ " starts at unknown task " ++ name))
    | none =>
      match p.successions.find? (fun s => s.2 != endName && !p.knows s.2) with
      | some (source, target) =>
        .error (.configuration
          ("task " ++ source ++ " in process " ++ p.name ++ " points to unknown task " ++ target))
      | none => .ok ()

/-- The summary of a process. -/
def summary (p : ProcessDefinition) : String :=
  Text.recordSummary "WorkflowProcess"
    [("name", Text.quoted p.name), ("type", Text.quoted p.processType),
      ("listeners", p.listeners.summary), ("tasks", Text.bracketed (p.tasks.map Task.summary))]

/-- A name is known exactly when it finds a task. -/
theorem knows_eq_isSome (p : ProcessDefinition) (name : String) :
    p.knows name = (p.task? name).isSome := by
  rw [Bool.eq_iff_iff, knows, task?, List.find?_isSome, List.any_eq_true]

end ProcessDefinition

end ApprovalFlow
