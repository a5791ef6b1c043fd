import ApprovalFlow.Snapshot
import ApprovalFlow.Text.Case

/-!
# Selectors

A selector decides from a snapshot whether a listener applies. Those below look at the process form:
at the queue, the coordination or the sinks of a group being set up, at the operation on an existing
group, or at the streams of a light group.
-/

namespace ApprovalFlow

/-- A test of a snapshot. -/
abbrev Selector := Snapshot → Bool

namespace Selector

/-- Applies everywhere. -/
def always : Selector := fun _ => true

/-- Applies nowhere. -/
def never : Selector := fun _ => false

/-- Applies to the processes of one applicant. -/
def applicantIs (name : String) : Selector := fun s => s.applicant == name

/-- A test of the group and the streams of a form that sets up a group's resources. -/
def ofResource (test : GroupInfo → List StreamInfo → Bool) : Selector := fun s =>
  match s.form with
  | some (.groupResource (some group) streams) => test group streams
  | _ => false

/-- Applies to groups behind one type of queue. -/
def mqTypeIs (mq : MqType) : Selector :=
  ofResource fun group _ => group.mqType == mq

/-- Applies to groups that do, or do not, coordinate through ZooKeeper. -/
def zookeeperIs (enabled : Bool) : Selector :=
  ofResource fun group _ => group.enableZookeeper == enabled

/-- Applies to groups with a sink of a type; the case of ASCII letters does not matter. -/
def hasSinkType (sinkType : String) : Selector :=
  ofResource fun _ streams =>
    streams.any fun stream =>
      stream.sinks.any fun sink => Text.equalsIgnoringAsciiCase sink.sinkType sinkType

/-- Applies to one operation on an existing group. -/
def operationIs (operation : GroupOperation) : Selector := fun s =>
  match s.form with
  | some (.updateGroup (some _) op) => op == operation
  | _ => false

/-- Applies to light groups with at least one stream. -/
def lightGroupWithStreams : Selector := fun s =>
  match s.form with
  | some (.lightGroupResource _ streams _) => !streams.isEmpty
  | _ => false

end Selector

end ApprovalFlow
