import ApprovalFlow.Json.Reader
import ApprovalFlow.Json.Record
import ApprovalFlow.Pool.Basic

/-!
# The configuration

Three settings: the shape of the pools that run asynchronous listeners, and the name that stands for
the engine itself on task rows. As JSON they are grouped into two sections, each of which may be
left out, as may every setting that has a default.
-/

namespace ApprovalFlow

/-- The settings. -/
structure WorkflowConfig where
  workers : Nat
  queueCapacity : Option Nat
  systemOperator : String
  deriving DecidableEq, Repr, Inhabited

namespace WorkflowConfig

/-- Counts are below this. -/
def countLimit : Nat := Nat.pow 2 64

/-- The settings when nothing is set. -/
def standard : WorkflowConfig := ⟨20, none, "admin"⟩

/-- The settings as a record of two sections. -/
def toJson (c : WorkflowConfig) : Json :=
  .obj
    [("notifier",
        .obj [("workers", .int c.workers),
          ("queue_capacity", .ofOption (fun n => .int n) c.queueCapacity)]),
      ("approval", .obj [("system_operator", .str c.systemOperator)])]

/-- The settings of the section on pools. -/
def notifierNames : List String :=
  ["workers", "queue_capacity"]

/-- The settings of the section on approvals. -/
def approvalNames : List String :=
  ["system_operator"]

/-- Reads the section on pools. -/
def readNotifier (j : Json) : Option (Nat × Option Nat) :=
  match Json.recordFields notifierNames j with
  | some [workers, capacity] => do
    return (← workers.withDefault standard.workers (Json.asNatBelow countLimit),
      ← capacity.optionalLast (Json.asNatBelow countLimit))
  | _ => none

/-- Reads the section on approvals. -/
def readApproval (j : Json) : Option String :=
  match Json.recordFields approvalNames j with
  | some [operator] => operator.withDefault standard.systemOperator Json.asText
  | _ => none

/-- Reads the settings. -/
def ofJson (j : Json) : Option WorkflowConfig :=
  match Json.recordFields ["notifier", "approval"] j with
  | some [notifier, approval] => do
    let (workers, capacity) ←
      notifier.withDefault (standard.workers, standard.queueCapacity) readNotifier
    return ⟨workers, capacity, ← approval.withDefault standard.systemOperator readApproval⟩
  | _ => none

/-- What of a record is looked at. -/
def shape : Json.Shape :=
  .record [("notifier", .fields notifierNames), ("approval", .fields approvalNames)] none

/-- Reads the settings from a text; what is no setting is not looked at. -/
def ofText (s : String) : Option WorkflowConfig :=
  Json.parseAs shape s >>= ofJson

end WorkflowConfig

end ApprovalFlow
