import ApprovalFlow.Json.Reader
import ApprovalFlow.Json.Record

/-!
# Logging settings

What log records say of the service, how they are written, and which are kept: a level for all of
them, and another one for records on listeners if it should differ. `LogSettings.directive` is the
filter both levels make.
-/

namespace ApprovalFlow

/-- How log records are filtered and written. -/
structure LogSettings where
  serviceName : String
  serviceVersion : String
  level : String
  /-- The level of records on listeners. -/
  dispatchLevel : Option String
  asJson : Bool
  spanEvents : Bool
  colored : Bool
  deriving DecidableEq, Repr, Inhabited

/-- Why logging cannot be set up. -/
inductive LogError where
  /-- Log records go somewhere already. -/
  | alreadyInstalled
  deriving DecidableEq, Repr

/-- The code shown to programs. -/
def LogError.code : LogError → String
  | alreadyInstalled => "TRACING_INIT"

namespace LogSettings

/-- The version of the service. -/
def version : String := "0.1.0"

/-- Settings for people who read the records as they are written. -/
def standard : LogSettings where
  serviceName := "inlong-workflow"
  serviceVersion := version
  level := "info"
  dispatchLevel := none
  asJson := false
  spanEvents := false
  colored := true

/-- Settings for programs that collect the records. -/
def production : LogSettings :=
  { standard with asJson := true, colored := false }

/-- The parts of the program whose records are on listeners. -/
def dispatchTargets : List String :=
  ["inlong_workflow::notifier", "inlong_workflow::audit"]

/-- The filter: the level, then a level for each part that has one of its own. -/
def directive (s : LogSettings) : String :=
  let targets := match s.dispatchLevel with
    | some level => dispatchTargets.map fun target => target ++ "=" ++ level
    | none => []
  String.intercalate "," (s.level :: targets)

/-- Sets logging up, which can be done once. -/
def install (_ : LogSettings) (installed : Bool) : Except LogError Unit :=
  if installed then .error .alreadyInstalled else .ok ()

/-- The fields of the record, in order. -/
def fieldNames : List String :=
  ["service_name", "service_version", "log_level", "dispatch_level", "json_logs", "span_events",
    "colored_output"]

/-- The settings as a record. -/
def toJson (s : LogSettings) : Json :=
  .obj
    [("service_name", .str s.serviceName), ("service_version", .str s.serviceVersion),
      ("log_level", .str s.level), ("dispatch_level", .ofOption .str s.dispatchLevel),
      ("json_logs", .bool s.asJson), ("span_events", .bool s.spanEvents),
      ("colored_output", .bool s.colored)]

/-- Reads settings from a record. -/
def ofJson (j : Json) : Option LogSettings :=
  match Json.recordFields fieldNames j with
  | some [serviceName, serviceVersion, level, dispatchLevel, asJson, spanEvents, colored] => do
    return {
      serviceName := ← serviceName.required Json.asText
      serviceVersion := ← serviceVersion.required Json.asText
      level := ← level.required Json.asText
      dispatchLevel := ← dispatchLevel.optionalLast Json.asText
      asJson := ← asJson.required Json.asBool
      spanEvents := ← spanEvents.required Json.asBool
      colored := ← colored.required Json.asBool }
  | _ => none

/-- Reads settings from a text; other fields than those of the record are not looked at. -/
def ofText (s : String) : Option LogSettings :=
  Json.parseAs (.fields fieldNames) s >>= ofJson

end LogSettings

end ApprovalFlow
