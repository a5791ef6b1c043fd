import ApprovalFlow.Json.Record

/-!
# What forms speak about

Groups with their message queue and streams, consumptions, and what an approver says about them.
Each is a JSON record; an absent optional field is written as `null`. Inside a form, the single
member of an enumeration object may be an empty object as well as `null`.
-/

namespace ApprovalFlow

/-- The message queue behind a group. -/
inductive MqType where
  | tube
  | pulsar
  | kafka
  | none
  deriving DecidableEq, Repr, Inhabited

namespace MqType

/-- Every type of queue. -/
def all : List MqType :=
  [tube, pulsar, kafka, none]

/-- The name in JSON. -/
def name : MqType → String
  | tube => "TUBE"
  | pulsar => "PULSAR"
  | kafka => "KAFKA"
  | none => "NONE"

/-- The name in running text. -/
def label : MqType → String
  | tube => "Tube"
  | pulsar => "Pulsar"
  | kafka => "Kafka"
  | none => "None"

/-- The type of a name. -/
def ofName (s : String) : Option MqType :=
  all.find? (·.name == s)

/-- Looking up a type's name finds the type. -/
theorem ofName_name (mq : MqType) : ofName mq.name = some mq := by
  cases mq <;> rfl

end MqType

/-- What is asked for on a group. -/
inductive GroupOperation where
  | init
  | suspend
  | restart
  | delete
  deriving DecidableEq, Repr, Inhabited

namespace GroupOperation

/-- Every operation. -/
def all : List GroupOperation :=
  [init, suspend, restart, delete]

/-- The name in JSON. -/
def name : GroupOperation → String
  | init => "INIT"
  | suspend => "SUSPEND"
  | restart => "RESTART"
  | delete => "DELETE"

/-- The name in running text. -/
def label : GroupOperation → String
  | init => "Init"
  | suspend => "Suspend"
  | restart => "Restart"
  | delete => "Delete"

/-- The operation of a name. -/
def ofName (s : String) : Option GroupOperation :=
  all.find? (·.name == s)

/-- Looking up an operation's name finds the operation. -/
theorem ofName_name (op : GroupOperation) : ofName op.name = some op := by
  cases op <;> rfl

end GroupOperation

/-- A group. -/
structure GroupInfo where
  groupId : String
  name : Option String
  mqType : MqType
  enableZookeeper : Bool
  inCharges : List String
  deriving DecidableEq, Repr, Inhabited

namespace GroupInfo

/-- The group as a record. -/
def toJson (g : GroupInfo) : Json :=
  .obj
    [("inlongGroupId", .str g.groupId), ("name", .ofOption .str g.name),
      ("mqType", .str g.mqType.name), ("enableZookeeper", .bool g.enableZookeeper),
      ("inCharges", .ofTexts g.inCharges)]

/-- Reads a group. -/
def ofJson (j : Json) : Option GroupInfo :=
  match Json.recordFields ["inlongGroupId", "name", "mqType", "enableZookeeper", "inCharges"] j with
  | some [groupId, name, mqType, enableZookeeper, inCharges] => do
    return {
      groupId := ← groupId.required Json.asText
      name := ← name.optionalLast Json.asText
      mqType := ← mqType.required (Json.asEnum .nullOrEmpty MqType.ofName)
      enableZookeeper := ← enableZookeeper.withDefault false Json.asBool
      inCharges := ← inCharges.withDefault [] (Json.asList Json.asText) }
  | _ => none

end GroupInfo

/-- Where a stream ends. -/
structure SinkInfo where
  sinkName : String
  sinkType : String
  deriving DecidableEq, Repr, Inhabited

namespace SinkInfo

/-- The sink as a record. -/
def toJson (s : SinkInfo) : Json :=
  .obj [("sinkName", .str s.sinkName), ("sinkType", .str s.sinkType)]

/-- Reads a sink. -/
def ofJson (j : Json) : Option SinkInfo :=
  match Json.recordFields ["sinkName", "sinkType"] j with
  | some [sinkName, sinkType] => do
    return { sinkName := ← sinkName.required Json.asText,
             sinkType := ← sinkType.required Json.asText }
  | _ => none

end SinkInfo

/-- A stream of a group. -/
structure StreamInfo where
  groupId : String
  streamId : String
  sinks : List SinkInfo
  deriving DecidableEq, Repr, Inhabited

namespace StreamInfo

/-- The stream as a record. -/
def toJson (s : StreamInfo) : Json :=
  .obj
    [("inlongGroupId", .str s.groupId), ("inlongStreamId", .str s.streamId),
      ("sinks", .arr (s.sinks.map SinkInfo.toJson))]

/-- Reads a stream. -/
def ofJson (j : Json) : Option StreamInfo :=
  match Json.recordFields ["inlongGroupId", "inlongStreamId", "sinks"] j with
  | some [groupId, streamId, sinks] => do
    return { groupId := ← groupId.required Json.asText
             streamId := ← streamId.required Json.asText
             sinks := ← sinks.withDefault [] (Json.asList SinkInfo.ofJson) }
  | _ => none

end StreamInfo

/-- A consumption of a topic. -/
structure ConsumptionInfo where
  consumerGroup : String
  groupId : String
  topic : String
  inCharges : List String
  deriving DecidableEq, Repr, Inhabited

namespace ConsumptionInfo

/-- The consumption as a record. -/
def toJson (c : ConsumptionInfo) : Json :=
  .obj
    [("consumerGroup", .str c.consumerGroup), ("inlongGroupId", .str c.groupId),
      ("topic", .str c.topic), ("inCharges", .ofTexts c.inCharges)]

/-- Reads a consumption. -/
def ofJson (j : Json) : Option ConsumptionInfo :=
  match Json.recordFields ["consumerGroup", "inlongGroupId", "topic", "inCharges"] j with
  | some [consumerGroup, groupId, topic, inCharges] => do
    return { consumerGroup := ← consumerGroup.required Json.asText
             groupId := ← groupId.required Json.asText
             topic := ← topic.required Json.asText
             inCharges := ← inCharges.withDefault [] (Json.asList Json.asText) }
  | _ => none

end ConsumptionInfo

/-- What an approver decides about a group. -/
structure GroupApproval where
  groupId : String
  mqType : MqType
  topicPartitionNum : Option Nat
  deriving DecidableEq, Repr, Inhabited

namespace GroupApproval

/-- Partition numbers are below this. -/
def partitionLimit : Nat := Nat.pow 2 32

/-- The decision as a record. -/
def toJson (g : GroupApproval) : Json :=
  .obj
    [("inlongGroupId", .str g.groupId), ("mqType", .str g.mqType.name),
      ("topicPartitionNum", .ofOption (fun n => .int n) g.topicPartitionNum)]

/-- Reads a decision. -/
def ofJson (j : Json) : Option GroupApproval :=
  match Json.recordFields ["inlongGroupId", "mqType", "topicPartitionNum"] j with
  | some [groupId, mqType, topicPartitionNum] => do
    return { groupId := ← groupId.required Json.asText
             mqType := ← mqType.required (Json.asEnum .nullOrEmpty MqType.ofName)
             topicPartitionNum :=
               ← topicPartitionNum.optionalLast (Json.asNatBelow partitionLimit) }
  | _ => none

end GroupApproval

/-- What an approver decides about a stream. -/
structure StreamApproval where
  groupId : String
  streamId : String
  deriving DecidableEq, Repr, Inhabited

namespace StreamApproval

/-- The decision as a record. -/
def toJson (s : StreamApproval) : Json :=
  .obj [("inlongGroupId", .str s.groupId), ("inlongStreamId", .str s.streamId)]

/-- Reads a decision. -/
def ofJson (j : Json) : Option StreamApproval :=
  match Json.recordFields ["inlongGroupId", "inlongStreamId"] j with
  | some [groupId, streamId] => do
    return {
      groupId := ← groupId.required Json.asText
      streamId := ← streamId.required Json.asText }
  | _ => none

end StreamApproval

/-- What an approver decides about a consumption. -/
structure ConsumptionApproval where
  consumerGroup : String
  topic : Option String
  deriving DecidableEq, Repr, Inhabited

namespace ConsumptionApproval

/-- The decision as a record. -/
def toJson (c : ConsumptionApproval) : Json :=
  .obj [("consumerGroup", .str c.consumerGroup), ("topic", .ofOption .str c.topic)]

/-- Reads a decision. -/
def ofJson (j : Json) : Option ConsumptionApproval :=
  match Json.recordFields ["consumerGroup", "topic"] j with
  | some [consumerGroup, topic] => do
    return { consumerGroup := ← consumerGroup.required Json.asText
             topic := ← topic.optionalLast Json.asText }
  | _ => none

end ConsumptionApproval

end ApprovalFlow
