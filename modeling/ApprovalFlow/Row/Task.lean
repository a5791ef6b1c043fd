import ApprovalFlow.Row.Process
import ApprovalFlow.Text.Parts

/-!
# Task rows

One row describes one task of a process for one set of approvers. Rows are never deleted: together
with the event log they are the audit trail of the process. The approvers are kept as one text with
commas between the names; `TaskRow.approverList` is the list they stand for. The version counts the
updates a row has seen, and an update names the version it is based on.
-/

namespace ApprovalFlow

/-- One task instance. The store assigns the id. -/
structure TaskRow where
  id : Int
  taskType : String
  processId : Int
  processName : String
  processDisplayName : String
  applicant : String
  name : String
  displayName : String
  approvers : String
  operator : Option String
  status : TaskStatus
  remark : Option String
  formData : Option String
  startTime : Instant
  endTime : Option Instant
  extParams : Option String
  version : Int
  deriving DecidableEq, Repr, Inhabited

namespace TaskRow

/-- The mark between the names of approvers. -/
def approverMark : Char := ','

/-- The extension parameter that lists whom a task was transferred to. -/
def transferKey : String := "transferToUsers"

/-- A row that waits for its approvers and has not been stored yet. -/
def waiting (taskType : String) (process : ProcessRow) (name displayName approvers : String)
    (now : Instant) : TaskRow where
  id := 0
  taskType := taskType
  processId := process.id
  processName := process.name
  processDisplayName := process.displayName
  applicant := process.applicant
  name := name
  displayName := displayName
  approvers := approvers
  operator := none
  status := .pending
  remark := none
  formData := none
  startTime := now
  endTime := none
  extParams := none
  version := 0

/-- The approvers, one by one. -/
def approverList (row : TaskRow) : List String :=
  Text.parts approverMark row.approvers

/-- Whether a user is one of the approvers, by the exact name. -/
def isApprover (row : TaskRow) (user : String) : Bool :=
  row.approverList.any (· == user)

/-- The fields of the record, in order. -/
def fieldNames : List String :=
  ["id", "task_type", "process_id", "process_name", "process_display_name", "applicant", "name",
    "display_name", "approvers", "operator", "status", "remark", "form_data", "start_time",
    "end_time", "ext_params", "version"]

/-- The row as a record. -/
def toJson (row : TaskRow) : Json :=
  .obj
    [("id", .int row.id), ("task_type", .str row.taskType), ("process_id", .int row.processId),
      ("process_name", .str row.processName),
      ("process_display_name", .str row.processDisplayName), ("applicant", .str row.applicant),
      ("name", .str row.name), ("display_name", .str row.displayName),
      ("approvers", .str row.approvers), ("operator", .ofOption .str row.operator),
      ("status", .str row.status.name), ("remark", .ofOption .str row.remark),
      ("form_data", .ofOption .str row.formData), ("start_time", row.startTime.toJson),
      ("end_time", .ofOption Instant.toJson row.endTime),
      ("ext_params", .ofOption .str row.extParams), ("version", .int row.version)]

/-- Reads a row from a record; a missing version is 0. -/
def ofJson (j : Json) : Option TaskRow :=
  match Json.recordFields fieldNames j with
  | some [id, taskType, processId, processName, processDisplayName, applicant, name, displayName,
      approvers, operator, status, remark, formData, start, stop, extParams, version] => do
    return {
      id := ← id.required Json.asInt64
      taskType := ← taskType.required Json.asText
      processId := ← processId.required Json.asInt64
      processName := ← processName.required Json.asText
      processDisplayName := ← processDisplayName.required Json.asText
      applicant := ← applicant.required Json.asText
      name := ← name.required Json.asText
      displayName := ← displayName.required Json.asText
      approvers := ← approvers.required Json.asText
      operator := ← operator.optional Json.asText
      status := ← status.required (Json.asEnum .null TaskStatus.ofName)
      remark := ← remark.optional Json.asText
      formData := ← formData.optional Json.asText
      startTime := ← start.required Instant.ofJson
      endTime := ← stop.optional Instant.ofJson
      extParams := ← extParams.optional Json.asText
      version := ← version.withDefault 0 Json.asInt32 }
  | _ => none

/-- Reads a row from a text; other fields than those of the record are not looked at. -/
def ofText (s : String) : Option TaskRow :=
  Json.parseAs (.fields fieldNames) s >>= ofJson

end TaskRow

end ApprovalFlow
