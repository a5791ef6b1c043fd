import ApprovalFlow.Row.Process

/-!
# Rows of the event log

One row records one run of a listener: for which process, group and task row, on behalf of which
element, in which mode, and how it ended. The remark holds the message of a refusal, the exception
the text of an error.
-/

namespace ApprovalFlow

/-- The record of one listener run. The log assigns the id. -/
structure EventRow where
  id : Int
  processId : Int
  processName : String
  processDisplayName : String
  groupId : Option String
  taskId : Option Int
  elementName : String
  elementDisplayName : String
  eventType : String
  event : String
  listener : String
  isAsync : Bool
  status : EventStatus
  startTime : Instant
  endTime : Option Instant
  remark : Option String
  failure : Option String
  deriving DecidableEq, Repr, Inhabited

namespace EventRow

/-- The fields of the record, in order. -/
def fieldNames : List String :=
  ["id", "process_id", "process_name", "process_display_name", "inlong_group_id", "task_id",
    "element_name", "element_display_name", "event_type", "event", "listener", "is_async",
    "status", "start_time", "end_time", "remark", "exception"]

/-- The row as a record. -/
def toJson (row : EventRow) : Json :=
  .obj
    [("id", .int row.id), ("process_id", .int row.processId),
      ("process_name", .str row.processName),
      ("process_display_name", .str row.processDisplayName),
      ("inlong_group_id", .ofOption .str row.groupId), ("task_id", .ofOption .int row.taskId),
      ("element_name", .str row.elementName),
      ("element_display_name", .str row.elementDisplayName), ("event_type", .str row.eventType),
      ("event", .str row.event), ("listener", .str row.listener), ("is_async", .bool row.isAsync),
      ("status", .str row.status.name), ("start_time", row.startTime.toJson),
      ("end_time", .ofOption Instant.toJson row.endTime), ("remark", .ofOption .str row.remark),
      ("exception", .ofOption .str row.failure)]

/-- Reads a row from a record. -/
def ofJson (j : Json) : Option EventRow :=
  match Json.recordFields fieldNames j with
  | some [id, processId, processName, processDisplayName, groupId, taskId, elementName,
      elementDisplayName, eventType, event, listener, isAsync, status, start, stop, remark,
      failure] => do
    return {
      id := ← id.required Json.asInt64
      processId := ← processId.required Json.asInt64
      processName := ← processName.required Json.asText
      processDisplayName := ← processDisplayName.required Json.asText
      groupId := ← groupId.optional Json.asText
      taskId := ← taskId.optional Json.asInt64
      elementName := ← elementName.required Json.asText
      elementDisplayName := ← elementDisplayName.required Json.asText
      eventType := ← eventType.required Json.asText
      event := ← event.required Json.asText
      listener := ← listener.required Json.asText
      isAsync := ← isAsync.required Json.asBool
      status := ← status.required (Json.asEnum .null EventStatus.ofName)
      startTime := ← start.required Instant.ofJson
      endTime := ← stop.optional Instant.ofJson
      remark := ← remark.optional Json.asText
      failure := ← failure.optional Json.asText }
  | _ => none

/-- Reads a row from a text; other fields than those of the record are not looked at. -/
def ofText (s : String) : Option EventRow :=
  Json.parseAs (.fields fieldNames) s >>= ofJson

end EventRow

end ApprovalFlow
