import ApprovalFlow.Listener.Catalogue
import ApprovalFlow.Listener.Registry

/-!
# Task definitions

A task is done by people or by the engine. A user task says who approves it, whether all of them
have to, and which form they fill in. A service task says which types of work it does and where its
listeners come from besides those registered on the task itself: from the shared catalogue or from
a supplier of its own.

`Task.groups` finds the listeners of an event: first the task's own, then the supplied ones in the
order of the task's types, for each type in the order of its providers.
-/

namespace ApprovalFlow

/-- Where a service task gets further listeners from. -/
inductive Provider where
  /-- The catalogue shared by all tasks. -/
  | catalogue
  /-- A supplier of its own, which may fail. -/
  | supplier
    (supply : Snapshot → ServiceTaskType → Except WorkflowError (List (Listener TaskEvent)))

/-- The part of a task that people approve. -/
structure UserPart where
  /-- Who approves. -/
  assign : Snapshot → List String
  /-- Whether every approver gets a row, and all of them have to approve. -/
  needAll : Bool
  /-- The form that has to come with an approval. -/
  formKind : Option TaskFormKind

/-- The part of a task that the engine does. -/
structure ServicePart where
  types : List ServiceTaskType
  providers : List Provider

/-- Who does a task. -/
inductive TaskKind where
  | user (part : UserPart)
  | service (part : ServicePart)

/-- One step of a process. -/
structure Task where
  name : String
  displayName : String
  kind : TaskKind
  /-- The listeners registered on the task itself. -/
  listeners : Registry TaskEvent
  /-- The names of the tasks that follow. -/
  next : List String

/-- What providers supply, and the questions that were put to selectors on the way. -/
structure Supply where
  consultations : List Consultation
  listeners : Except WorkflowError (List (Listener TaskEvent))

namespace Supply

/-- Nothing supplied, nobody asked. -/
def nothing : Supply := ⟨[], .ok []⟩

/-- What one provider supplies for one type of work. -/
def ofProvider (c : Catalogue) (s : Snapshot) (taskType : ServiceTaskType) : Provider → Supply
  | .catalogue =>
    let selection := c.select s taskType.category
    ⟨selection.consultations, .ok selection.accepted⟩
  | .supplier supply => ⟨[], supply s taskType⟩

/-- One supply after another; an error ends the matter, and later providers are not asked. -/
def append (first : Supply) (second : Unit → Supply) : Supply :=
  match first.listeners with
  | .error e => ⟨first.consultations, .error e⟩
  | .ok ls =>
    let rest := second ()
    ⟨first.consultations ++ rest.consultations, rest.listeners.map (ls ++ ·)⟩

/-- What the providers supply for each pair of a type and a provider, in order. -/
def ofPairs (c : Catalogue) (s : Snapshot) : List (ServiceTaskType × Provider) → Supply
  | [] => nothing
  | (taskType, p) :: rest => (ofProvider c s taskType p).append fun _ => ofPairs c s rest

end Supply

namespace Task

/-- The row type of a user task. -/
def userType : String := "UserTask"

/-- The row type of a service task. -/
def serviceType : String := "ServiceTask"

/-- The row type of a task. -/
def typeName (t : Task) : String :=
  match t.kind with
  | .user _ => userType
  | .service _ => serviceType

/-- The part that people approve, if they do. -/
def user? (t : Task) : Option UserPart :=
  match t.kind with
  | .user part => some part
  | .service _ => none

/-- The part that the engine does, if it does. -/
def service? (t : Task) : Option ServicePart :=
  match t.kind with
  | .user _ => none
  | .service part => some part

/-- What the task's providers supply. -/
def supply (t : Task) (c : Catalogue) (s : Snapshot) : Supply :=
  match t.kind with
  | .user _ => .nothing
  | .service part =>
    .ofPairs c s (part.types.flatMap fun taskType => part.providers.map fun p => (taskType, p))

/-- The listeners of an event, the task's own before the supplied ones. -/
def groups (t : Task) (event : TaskEvent) (supplied : List (Listener TaskEvent)) :
    Groups TaskEvent :=
  (t.listeners.groups event).extendFor event supplied

/-- The supplied listener of a name that the task has not registered itself. -/
def findSupplied (name : String) (supplied : List (Listener TaskEvent)) :
    Option (Listener TaskEvent) :=
  supplied.find? (·.name == name)

/-- Registers a listener on the task. -/
def addListener (t : Task) (l : Listener TaskEvent) : Except WorkflowError Task := do
  return { t with listeners := ← t.listeners.register l }

/-- The summary of a task. -/
def summary (t : Task) : String :=
  Text.recordSummary "WorkflowTask"
    [("name", Text.quoted t.name), ("type", Text.quoted t.typeName),
      ("listeners", t.listeners.summary), ("next", Text.bracketed (t.next.map Text.quoted))]

end Task

end ApprovalFlow
