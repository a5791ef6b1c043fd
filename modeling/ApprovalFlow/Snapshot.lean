import ApprovalFlow.Event
import ApprovalFlow.Form.Process
import ApprovalFlow.Form.Task
import ApprovalFlow.Row.Task

/-!
# Snapshots

A `Snapshot` is all that listeners, selectors and approver rules get to see of a workflow step: the
process, its form, the element the step is at, the action being applied and the rows it created. It
is plain data taken when listeners are notified, so nothing a listener does can change what another
one sees.
-/

namespace ApprovalFlow

/-- An operator's action on one task row. The row is a copy; the store holds the truth. -/
structure ActionRequest where
  action : Action
  operator : String
  remark : Option String
  form : Option TaskForm
  transferTo : List String
  row : TaskRow
  deriving DecidableEq, Repr, Inhabited

/-- What can be seen of a workflow step. -/
structure Snapshot where
  definition : String
  applicant : String
  form : Option ProcessForm
  process : ProcessRow
  current : Option String
  action : Option ActionRequest
  newTasks : List TaskRow
  deriving DecidableEq, Repr, Inhabited

namespace Snapshot

/-- The group the process works on: the form's, else the one of the process row. -/
def groupId (s : Snapshot) : Option String :=
  (s.form.bind ProcessForm.groupId).or s.process.groupId

end Snapshot

end ApprovalFlow
