import ApprovalFlow.Error
import ApprovalFlow.Form.Group
import ApprovalFlow.Json.Reader
import ApprovalFlow.Json.Writer

/-!
# Process forms

A process form says what a process works on: a group with its streams, an operation on a group, or
a consumption. As JSON it is a record with its name in the member `formName`, which is written
first.
-/

namespace ApprovalFlow

/-- The form attached to a process. -/
inductive ProcessForm where
  | newGroup (group : Option GroupInfo) (streams : List StreamInfo)
  | newConsumption (consumption : Option ConsumptionInfo)
  | groupResource (group : Option GroupInfo) (streams : List StreamInfo)
  | updateGroup (group : Option GroupInfo) (operation : GroupOperation)
  | lightGroupResource (group : Option GroupInfo) (streams : List StreamInfo)
      (operation : GroupOperation)
  deriving DecidableEq, Repr, Inhabited

/-- The kinds of process forms. -/
inductive ProcessFormKind where
  | newGroup
  | newConsumption
  | groupResource
  | updateGroup
  | lightGroupResource
  deriving DecidableEq, Repr, Inhabited

namespace ProcessFormKind

/-- Every kind. -/
def all : List ProcessFormKind :=
  [newGroup, newConsumption, groupResource, updateGroup, lightGroupResource]

/-- The name under which a definition asks for the kind. -/
def name : ProcessFormKind → String
  | newGroup => "NewGroup"
  | newConsumption => "NewConsumption"
  | groupResource => "GroupResource"
  | updateGroup => "UpdateGroup"
  | lightGroupResource => "LightGroupResource"

/-- The name that forms of the kind carry. -/
def formName : ProcessFormKind → String
  | newGroup => "NewGroupProcessForm"
  | newConsumption => "NewConsumptionProcessForm"
  | groupResource => "GroupResourceProcessForm"
  | updateGroup => "UpdateGroupProcessForm"
  | lightGroupResource => "LightGroupResourceProcessForm"

/-- The kind of a name. -/
def ofName (s : String) : Option ProcessFormKind :=
  all.find? (·.name == s)

/-- The kind of the forms that carry a name. -/
def ofFormName (s : String) : Option ProcessFormKind :=
  all.find? (·.formName == s)

/-- Looking up a kind's form name finds the kind. -/
theorem ofFormName_formName (kind : ProcessFormKind) : ofFormName kind.formName = some kind := by
  cases kind <;> rfl

end ProcessFormKind

namespace ProcessForm

/-- The kind of a form. -/
def kind : ProcessForm → ProcessFormKind
  | newGroup .. => .newGroup
  | newConsumption _ => .newConsumption
  | groupResource .. => .groupResource
  | updateGroup .. => .updateGroup
  | lightGroupResource .. => .lightGroupResource

/-- The group a form speaks about. -/
def groupInfo : ProcessForm → Option GroupInfo
  | newGroup group _ | groupResource group _ | updateGroup group _ | lightGroupResource group _ _ =>
    group
  | newConsumption _ => none

/-- The id of the group a form speaks about, directly or through a consumption. -/
def groupId : ProcessForm → Option String
  | newConsumption consumption => consumption.map (·.groupId)
  | form => form.groupInfo.map (·.groupId)

/-- The streams a form lists. -/
def streams : ProcessForm → List StreamInfo
  | newGroup _ streams | groupResource _ streams | lightGroupResource _ streams _ => streams
  | newConsumption _ | updateGroup .. => []

/-- A form is valid when the thing it speaks about is there. -/
def validate : ProcessForm → Except WorkflowError Unit
  | newGroup (some _) _ | newConsumption (some _) | groupResource (some _) _
  | updateGroup (some _) _ | lightGroupResource (some _) _ _ => .ok ()
  | newConsumption none => .error (.formValidation "consumption info is empty")
  | lightGroupResource none _ _ => .error (.formValidation "inlong group does not exist")
  | newGroup none _ | groupResource none _ | updateGroup none _ =>
    .error (.formValidation "inlong group info is empty")

/-- A group that may be absent. -/
def groupMember (group : Option GroupInfo) : String × Json :=
  ("groupInfo", .ofOption GroupInfo.toJson group)

/-- The streams. -/
def streamsMember (streams : List StreamInfo) : String × Json :=
  ("streamInfos", .arr (streams.map StreamInfo.toJson))

/-- The operation. -/
def operationMember (operation : GroupOperation) : String × Json :=
  ("groupOperateType", .str operation.name)

/-- The members of a form after its name. -/
def members : ProcessForm → List (String × Json)
  | newGroup group streams | groupResource group streams =>
    [groupMember group, streamsMember streams]
  | newConsumption consumption =>
    [("consumptionInfo", .ofOption ConsumptionInfo.toJson consumption)]
  | updateGroup group operation => [groupMember group, operationMember operation]
  | lightGroupResource group streams operation =>
    [groupMember group, streamsMember streams, operationMember operation]

/-- The form as a tagged record. -/
def toJson (form : ProcessForm) : Json :=
  .obj (("formName", .str form.kind.formName) :: form.members)

/-- The form as a text. -/
def toText (form : ProcessForm) : String :=
  form.toJson.compact

/-- The streams in a record. -/
def readStreams : Json.Field → Option (List StreamInfo) :=
  Json.Field.withDefault [] (Json.asList StreamInfo.ofJson)

/-- The operation in a record. -/
def readOperation : Json.Field → Option GroupOperation :=
  Json.Field.withDefault .init (Json.asEnum .nullOrEmpty GroupOperation.ofName)

/-- Reads the fields of a form whose kind is known. -/
def ofFields (kind : ProcessFormKind) (j : Json) : Option ProcessForm :=
  match kind with
  | .newGroup =>
    match Json.recordFields ["groupInfo", "streamInfos"] j with
    | some [group, streams] => do
      return .newGroup (← group.optional GroupInfo.ofJson) (← readStreams streams)
    | _ => none
  | .newConsumption =>
    match Json.recordFields ["consumptionInfo"] j with
    | some [consumption] => do
      return .newConsumption (← consumption.optional ConsumptionInfo.ofJson)
    | _ => none
  | .groupResource =>
    match Json.recordFields ["groupInfo", "streamInfos"] j with
    | some [group, streams] => do
      return .groupResource (← group.optional GroupInfo.ofJson) (← readStreams streams)
    | _ => none
  | .updateGroup =>
    match Json.recordFields ["groupInfo", "groupOperateType"] j with
    | some [group, operation] => do
      return .updateGroup (← group.optional GroupInfo.ofJson) (← readOperation operation)
    | _ => none
  | .lightGroupResource =>
    match Json.recordFields ["groupInfo", "streamInfos", "groupOperateType"] j with
    | some [group, streams, operation] => do
      return .lightGroupResource (← group.optional GroupInfo.ofJson) (← readStreams streams)
        (← readOperation operation)
    | _ => none

/-- Reads a tagged form. -/
def ofJson (j : Json) : Option ProcessForm := do
  let (tag, rest) ← Json.splitTag "formName" Json.asText j
  ofFields (← ProcessFormKind.ofFormName tag) rest

/-- Reads a form from a text. -/
def ofText (s : String) : Option ProcessForm :=
  Json.parse s >>= ofJson

end ProcessForm

end ApprovalFlow
