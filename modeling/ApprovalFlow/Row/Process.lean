import ApprovalFlow.Json.Reader
import ApprovalFlow.Json.Record
import ApprovalFlow.Row.Status
import ApprovalFlow.Time.Stamp

/-!
# Process rows

One row describes one running process. As JSON it is a record of ten fields in the order of the
structure; times are RFC 3339 texts.
-/

namespace ApprovalFlow

/-- A time stamp as JSON. -/
def Instant.toJson (t : Instant) : Json :=
  .str t.toText

/-- Reads a time stamp. -/
def Instant.ofJson : Json → Option Instant
  | .str s => Instant.ofText s
  | _ => none

/-- One process instance. -/
structure ProcessRow where
  id : Int
  name : String
  displayName : String
  processType : String
  applicant : String
  status : ProcessStatus
  groupId : Option String
  formData : Option String
  startTime : Instant
  endTime : Option Instant
  deriving DecidableEq, Repr, Inhabited

namespace ProcessRow

/-- A process that has just begun: it is shown and typed by its name. -/
def opened (id : Int) (name applicant : String) (now : Instant) : ProcessRow where
  id := id
  name := name
  displayName := name
  processType := name
  applicant := applicant
  status := .processing
  groupId := none
  formData := none
  startTime := now
  endTime := none

/-- The fields of the record, in order. -/
def fieldNames : List String :=
  ["id", "name", "display_name", "process_type", "applicant", "status", "inlong_group_id",
    "form_data", "start_time", "end_time"]

/-- The row as a record. -/
def toJson (row : ProcessRow) : Json :=
  .obj
    [("id", .int row.id), ("name", .str row.name), ("display_name", .str row.displayName),
      ("process_type", .str row.processType), ("applicant", .str row.applicant),
      ("status", .str row.status.name), ("inlong_group_id", .ofOption .str row.groupId),
      ("form_data", .ofOption .str row.formData), ("start_time", row.startTime.toJson),
      ("end_time", .ofOption Instant.toJson row.endTime)]

/-- Reads a row from a record. -/
def ofJson (j : Json) : Option ProcessRow :=
  match Json.recordFields fieldNames j with
  | some [id, name, displayName, processType, applicant, status, groupId, formData, start, stop] =>
    do
    return {
      id := ← id.required Json.asInt64
      name := ← name.required Json.asText
      displayName := ← displayName.required Json.asText
      processType := ← processType.required Json.asText
      applicant := ← applicant.required Json.asText
      status := ← status.required (Json.asEnum .null ProcessStatus.ofName)
      groupId := ← groupId.optional Json.asText
      formData := ← formData.optional Json.asText
      startTime := ← start.required Instant.ofJson
      endTime := ← stop.optional Instant.ofJson }
  | _ => none

/-- Reads a row from a text; other fields than those of the record are not looked at. -/
def ofText (s : String) : Option ProcessRow :=
  Json.parseAs (.fields fieldNames) s >>= ofJson

end ProcessRow

end ApprovalFlow
