import ApprovalFlow.Replay.Steps
import ApprovalFlow.Report.Format
import ApprovalFlow.Report.Table

/-!
# Showing a replay

The report of a replay, as structured data or as running text: the process and its state, the steps
with a tick or a cross, a table of the task rows and one of the event log.
-/

namespace ApprovalFlow

/-- A step as a record. -/
def StepRecord.toJson (s : StepRecord) : Json :=
  .obj [("step", .str s.step), ("ok", .bool s.ok), ("outcome", .str s.outcome)]

/-- A step as a line. -/
def StepRecord.line (s : StepRecord) : String :=
  (if s.ok then "✓ " else "✗ ") ++ s.step ++ ": " ++ s.outcome

namespace Report

/-- What stands in a cell for a value that is absent. -/
def absent : String := "-"

/-- How many characters of a remark are shown. -/
def remarkLimit : Nat := 40

/-- A remark in a cell. -/
def remarkCell (remark : Option String) : String :=
  Text.truncated remarkLimit (remark.getD absent)

/-- The cells of a task row. -/
def taskCells (row : TaskRow) : List String :=
  [toString row.id, row.name, row.taskType, row.approvers, row.operator.getD absent,
    row.status.name, remarkCell row.remark]

/-- The table of task rows. -/
def taskTable (rows : List TaskRow) : Table where
  header := ["ID", "Task", "Type", "Approvers", "Operator", "Status", "Remark"]
  rows := rows.map taskCells

/-- The cells of an event row. -/
def eventCells (row : EventRow) : List String :=
  [toString row.id, row.elementName, row.eventType ++ "." ++ row.event, row.listener,
    if row.isAsync then "async" else "sync", row.status.name,
    remarkCell (row.remark.or row.failure)]

/-- The table of event rows. -/
def eventTable (rows : List EventRow) : Table where
  header := ["ID", "Element", "Event", "Listener", "Mode", "Status", "Detail"]
  rows := rows.map eventCells

end Report

namespace ReplayReport

/-- The report as a record. -/
def toJson (r : ReplayReport) : Json :=
  .obj
    [("process", .str r.process), ("process_id", .int r.processId),
      ("status", .str r.status.name), ("steps", .arr (r.steps.map StepRecord.toJson)),
      ("tasks", .arr (r.tasks.map TaskRow.toJson)), ("events", .arr (r.events.map EventRow.toJson))]

/-- The part of the text on the event log. -/
def eventLines (r : ReplayReport) : List String :=
  if r.events.isEmpty then ["No listener invocations"] else [(Report.eventTable r.events).text]

/-- The report as running text. -/
def text (r : ReplayReport) : String :=
  Report.ofLines
    (["Process: " ++ r.process ++ " (" ++ toString r.processId ++ ")",
        "Status: " ++ r.status.name] ++
      Report.heading "Steps" ++ r.steps.map StepRecord.line ++
      Report.heading "Task rows" ++ [(Report.taskTable r.tasks).text] ++
      Report.heading "Event log" ++ r.eventLines)

/-- The report in a format. -/
def shown (r : ReplayReport) (format : OutputFormat) : String :=
  match format.structured r.toJson with
  | some s => s ++ "\n"
  | none => r.text

end ReplayReport

end ApprovalFlow
