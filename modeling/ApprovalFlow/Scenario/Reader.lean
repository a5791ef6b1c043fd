import ApprovalFlow.Json.Record
import ApprovalFlow.Scenario.Basic
import ApprovalFlow.Yaml.Node

/-!
# Reading scenarios

A scenario is read from JSON by the conventions of records and tagged forms. A scenario file is
written in the flow style of YAML. Its own fields are taken for what a scenario has there: a text
field is the spelling of whatever stands in it. Forms, targets and the kinds of tasks are taken for
what they are spelled as, and there a tag may also be given by its place in the list of tags. What
a scenario does not know is not looked at.
-/

namespace ApprovalFlow.Scenario

open Json

/-- A tag, or its place in the list of tags. -/
def asTagOf (tags : List String) : Json → Option String
  | .str s => some s
  | .int n => if 0 ≤ n then tags[n.toNat]? else none
  | _ => none

/-- The process. -/
def readProcess (j : Json) : Option ProcessSpec :=
  match recordFields ["id", "name", "display_name", "applicant", "group_id", "start"] j with
  | some [id, name, displayName, applicant, groupId, start] => do
    return {
      id := ← id.withDefault 1 asInt64
      name := ← name.required asText
      displayName := ← displayName.optionalLast asText
      applicant := ← applicant.required asText
      groupId := ← groupId.optionalLast asText
      start := ← start.required (asList asText) }
  | _ => none

/-- The fields of a user task. -/
def readUserKind (j : Json) : Option TaskKindSpec :=
  match recordFields ["approvers", "need_all_approve", "form_kind"] j with
  | some [approvers, needAll, formKind] => do
    return .user (← approvers.required (asList asText)) (← needAll.withDefault false asBool)
      (← formKind.optionalLast (asEnum .nullOrEmpty TaskFormKind.ofName))
  | _ => none

/-- The fields of a service task. -/
def readServiceKind (j : Json) : Option TaskKindSpec :=
  match recordFields ["task_types"] j with
  | some [types] => do return .service (← types.required (asList asText))
  | _ => none

/-- Who does a task: a tagged form among the task's own fields. -/
def readTaskKind (j : Json) : Option TaskKindSpec := do
  let (tag, rest) ← splitTag "kind" (asTagOf ["user", "service"]) j
  match tag with
  | "user" => readUserKind rest
  | "service" => readServiceKind rest
  | _ => none

/-- A task. Its kind is written among its fields, so it has to be an object. -/
def readTask (j : Json) : Option TaskSpec :=
  let own := ["name", "display_name", "next"]
  match objectFields own j, j with
  | some [name, displayName, next], .obj members => do
    return {
      name := ← name.required asText
      displayName := ← displayName.optionalLast asText
      kind := ← readTaskKind (.obj (members.filter fun m => !own.contains m.1))
      next := ← next.withDefault [] (asList asText) }
  | _, _ => none

/-- The tags of selectors. -/
def selectorTags : List String :=
  ["always", "mq_type", "zookeeper", "source_operate", "sink_type", "light_group"]

/-- A selector. -/
def readSelector (j : Json) : Option SelectorSpec := do
  let (tag, rest) ← splitTag "type" (asTagOf selectorTags) j
  let single {α : Type} (name : String) (decode : Json → Option α) : Option α :=
    match recordFields [name] rest with
    | some [field] => field.required decode
    | _ => none
  match tag with
  | "always" => (noFields rest).map fun _ => .always
  | "mq_type" => (single "mq_type" (asEnum .nullOrEmpty MqType.ofName)).map .mqType
  | "zookeeper" => (single "enabled" asBool).map .zookeeper
  | "source_operate" =>
    (single "operate" (asEnum .nullOrEmpty GroupOperation.ofName)).map .sourceOperate
  | "sink_type" => (single "sink_type" asText).map .sinkType
  | "light_group" => (noFields rest).map fun _ => .lightGroup
  | _ => none

/-- Where a listener is registered. -/
def readTarget (j : Json) : Option ListenerTarget := do
  let (tag, rest) ← splitTag "kind" asText j
  match tag with
  | "manager_process" => (noFields rest).map fun _ => .managerProcess
  | "manager_task" => (noFields rest).map fun _ => .managerTask
  | "process" => (noFields rest).map fun _ => .process
  | "task" =>
    match recordFields ["task"] rest with
    | some [task] => (task.required asText).map .task
    | _ => none
  | "service" =>
    match recordFields ["category", "selector"] rest with
    | some [category, selector] => do
      return .service (← category.required (asEnum .nullOrEmpty Category.ofName))
        (← selector.withDefault .always readSelector)
    | _ => none
  | _ => none

/-- A listener. -/
def readListener (j : Json) : Option ListenerSpec :=
  match recordFields ["name", "target", "event", "async", "fail"] j with
  | some [name, target, event, isAsync, fail] => do
    return {
      name := ← name.required asText
      target := ← target.required readTarget
      event := ← event.required asText
      isAsync := ← isAsync.withDefault false asBool
      fail := ← fail.optionalLast asText }
  | _ => none

/-- An action. -/
def readAction (j : Json) : Option ActionSpec :=
  match recordFields ["task", "operator", "action", "remark", "form", "transfer_to"] j with
  | some [task, operator, action, remark, form, transferTo] => do
    return {
      task := ← task.required asText
      operator := ← operator.required asText
      action := ← action.required (asEnum .null Action.ofName)
      remark := ← remark.optionalLast asText
      form := ← form.optionalLast TaskForm.ofJson
      transferTo := ← transferTo.withDefault [] (asList asText) }
  | _ => none

/-- A scenario. -/
def ofJson (j : Json) : Option Scenario :=
  match recordFields ["process", "form", "tasks", "listeners", "actions"] j with
  | some [process, form, tasks, listeners, actions] => do
    return {
      process := ← process.required readProcess
      form := ← form.optionalLast ProcessForm.ofJson
      tasks := ← tasks.required (asList readTask)
      listeners := ← listeners.withDefault [] (asList readListener)
      actions := ← actions.withDefault [] (asList readAction) }
  | _ => none

/-- What a file says of a process. -/
def processShape : Shape :=
  .record
    [("id", .int), ("name", .text), ("display_name", .optional .text), ("applicant", .text),
      ("group_id", .optional .text), ("start", .list .text)] none

/-- What a file says of a task: its own fields, and those of its kind. -/
def taskShape : Shape :=
  .record [("name", .text), ("display_name", .optional .text), ("next", .list .text)] (some .whole)

/-- What a file says of a listener. -/
def listenerShape : Shape :=
  .record
    [("name", .text), ("target", .whole), ("event", .text), ("async", .bool),
      ("fail", .optional .text)] none

/-- What a file says of an action. -/
def actionShape : Shape :=
  .record
    [("task", .text), ("operator", .text), ("action", .text), ("remark", .optional .text),
      ("form", .whole), ("transfer_to", .list .text)] none

/-- What a file says. -/
def shape : Shape :=
  .record
    [("process", processShape), ("form", .whole), ("tasks", .list taskShape),
      ("listeners", .list listenerShape), ("actions", .list actionShape)] none

/-- Reads a scenario file. -/
def ofText (s : String) : Option Scenario :=
  Yaml.parseAs shape s >>= ofJson

end ApprovalFlow.Scenario
