import ApprovalFlow.Row.Status

/-!
# Events and actions

Processes and tasks have events of their own, two families. `EventFamily` is what the two have in
common: a family name for the event log and a name for each event. Operators apply actions to
tasks; an action that closes a task row fixes the state the row takes and the event that follows
(`Action.taskStatus`, `Action.taskEvent`).
-/

namespace ApprovalFlow

/-- What happens to a process. -/
inductive ProcessEvent where
  | create
  | complete
  | fail
  | cancel
  | reject
  | terminate
  deriving DecidableEq, Repr, Inhabited

/-- What happens to a task. -/
inductive TaskEvent where
  | create
  | approve
  | reject
  | transfer
  | cancel
  | complete
  | fail
  | terminate
  deriving DecidableEq, Repr, Inhabited

/-- The two families of events. -/
inductive Family where
  | process
  | task
  deriving DecidableEq, Repr, Inhabited

/-- The name of a family in the event log. -/
def Family.name : Family → String
  | process => "ProcessEvent"
  | task => "TaskEvent"

/-- A family of events: which one it is, its events and their names. -/
class EventFamily (ε : Type) where
  /-- The family. -/
  family : Family
  /-- Every event. -/
  all : List ε
  /-- The name of an event. -/
  name : ε → String

namespace ProcessEvent

/-- Every event. -/
def all : List ProcessEvent :=
  [create, complete, fail, cancel, reject, terminate]

/-- The name of an event. -/
def name : ProcessEvent → String
  | create => "CREATE"
  | complete => "COMPLETE"
  | fail => "FAIL"
  | cancel => "CANCEL"
  | reject => "REJECT"
  | terminate => "TERMINATE"

instance : EventFamily ProcessEvent where
  family := .process
  all := all
  name := name

/-- The event of a name. -/
def ofName (s : String) : Option ProcessEvent :=
  all.find? (·.name == s)

/-- Looking up an event's name finds the event. -/
theorem ofName_name (event : ProcessEvent) : ofName event.name = some event := by
  cases event <;> rfl

end ProcessEvent

namespace TaskEvent

/-- Every event. -/
def all : List TaskEvent :=
  [create, approve, reject, transfer, cancel, complete, fail, terminate]

/-- The name of an event. -/
def name : TaskEvent → String
  | create => "CREATE"
  | approve => "APPROVE"
  | reject => "REJECT"
  | transfer => "TRANSFER"
  | cancel => "CANCEL"
  | complete => "COMPLETE"
  | fail => "FAIL"
  | terminate => "TERMINATE"

instance : EventFamily TaskEvent where
  family := .task
  all := all
  name := name

/-- The event of a name. -/
def ofName (s : String) : Option TaskEvent :=
  all.find? (·.name == s)

/-- Looking up an event's name finds the event. -/
theorem ofName_name (event : TaskEvent) : ofName event.name = some event := by
  cases event <;> rfl

end TaskEvent

/-- The name of a family of events in the event log. -/
def EventFamily.familyName (ε : Type) [EventFamily ε] : String :=
  (EventFamily.family ε).name

/-- The event of a family that has a name. -/
def EventFamily.ofName (ε : Type) [EventFamily ε] (s : String) : Option ε :=
  (EventFamily.all (ε := ε)).find? (EventFamily.name · == s)

/-- What an operator does. -/
inductive Action where
  | start
  | approve
  | reject
  | cancel
  | transfer
  | terminate
  | complete
  deriving DecidableEq, Repr, Inhabited

namespace Action

/-- Every action. -/
def all : List Action :=
  [start, approve, reject, cancel, transfer, terminate, complete]

/-- The name of an action. -/
def name : Action → String
  | start => "START"
  | approve => "APPROVE"
  | reject => "REJECT"
  | cancel => "CANCEL"
  | transfer => "TRANSFER"
  | terminate => "TERMINATE"
  | complete => "COMPLETE"

/-- The name in running text. -/
def label : Action → String
  | start => "Start"
  | approve => "Approve"
  | reject => "Reject"
  | cancel => "Cancel"
  | transfer => "Transfer"
  | terminate => "Terminate"
  | complete => "Complete"

/-- The action of a name. -/
def ofName (s : String) : Option Action :=
  all.find? (·.name == s)

/-- The state a task row takes when the action closes it. -/
def taskStatus : Action → Option TaskStatus
  | approve => some .approved
  | reject => some .rejected
  | cancel => some .canceled
  | transfer => some .transferred
  | terminate => some .terminated
  | complete => some .completed
  | start => none

/-- The task event that follows when the action has closed a row. -/
def taskEvent : Action → Option TaskEvent
  | approve => some .approve
  | reject => some .reject
  | cancel => some .cancel
  | transfer => some .transfer
  | terminate => some .terminate
  | complete => some .complete
  | start => none

/-- Looking up an action's name finds the action. -/
theorem ofName_name (action : Action) : ofName action.name = some action := by
  cases action <;> rfl

/-- The state that an action gives a row is final. -/
theorem isTerminal_of_taskStatus {action : Action} {status : TaskStatus}
    (h : action.taskStatus = some status) : status.isTerminal = true := by
  cases action <;> cases h <;> rfl

end Action

end ApprovalFlow
