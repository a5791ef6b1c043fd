/-!
# States of rows

The states of task rows, of processes and of rows of the event log, with the names under which they
are stored. Each name table lists a type's values; looking a name up is the inverse of naming.
-/

namespace ApprovalFlow

/-- The state of a task row. Every state but `pending` is final. -/
inductive TaskStatus where
  | pending
  | approved
  | rejected
  | canceled
  | transferred
  | terminated
  | completed
  | failed
  deriving DecidableEq, Repr, Inhabited

namespace TaskStatus

/-- Every state. -/
def all : List TaskStatus :=
  [pending, approved, rejected, canceled, transferred, terminated, completed, failed]

/-- The stored name. -/
def name : TaskStatus → String
  | pending => "PENDING"
  | approved => "APPROVED"
  | rejected => "REJECTED"
  | canceled => "CANCELED"
  | transferred => "TRANSFERRED"
  | terminated => "TERMINATED"
  | completed => "COMPLETED"
  | failed => "FAILED"

/-- The state of a stored name. -/
def ofName (s : String) : Option TaskStatus :=
  all.find? (·.name == s)

/-- Whether the row is closed. -/
def isTerminal (status : TaskStatus) : Bool :=
  status != pending

/-- Looking up a state's name finds the state. -/
theorem ofName_name (status : TaskStatus) : ofName status.name = some status := by
  cases status <;> rfl

end TaskStatus

/-- The state of a process. -/
inductive ProcessStatus where
  | processing
  | completed
  | rejected
  | canceled
  | terminated
  deriving DecidableEq, Repr, Inhabited

namespace ProcessStatus

/-- Every state. -/
def all : List ProcessStatus :=
  [processing, completed, rejected, canceled, terminated]

/-- The stored name. -/
def name : ProcessStatus → String
  | processing => "PROCESSING"
  | completed => "COMPLETED"
  | rejected => "REJECTED"
  | canceled => "CANCELED"
  | terminated => "TERMINATED"

/-- The name in running text. -/
def label : ProcessStatus → String
  | processing => "Processing"
  | completed => "Completed"
  | rejected => "Rejected"
  | canceled => "Canceled"
  | terminated => "Terminated"

/-- The state of a stored name. -/
def ofName (s : String) : Option ProcessStatus :=
  all.find? (·.name == s)

/-- Looking up a state's name finds the state. -/
theorem ofName_name (status : ProcessStatus) : ofName status.name = some status := by
  cases status <;> rfl

end ProcessStatus

/-- The state of a row of the event log. -/
inductive EventStatus where
  | executing
  | success
  | failed
  deriving DecidableEq, Repr, Inhabited

namespace EventStatus

/-- Every state. -/
def all : List EventStatus :=
  [executing, success, failed]

/-- The stored name. -/
def name : EventStatus → String
  | executing => "EXECUTING"
  | success => "SUCCESS"
  | failed => "FAILED"

/-- The name in running text. -/
def label : EventStatus → String
  | executing => "Executing"
  | success => "Success"
  | failed => "Failed"

/-- The state of a stored name. -/
def ofName (s : String) : Option EventStatus :=
  all.find? (·.name == s)

/-- Looking up a state's name finds the state. -/
theorem ofName_name (status : EventStatus) : ofName status.name = some status := by
  cases status <;> rfl

end EventStatus

end ApprovalFlow
