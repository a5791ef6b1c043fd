import ApprovalFlow.Error
import ApprovalFlow.Form.Group
import ApprovalFlow.Json.Reader
import ApprovalFlow.Json.Writer
import ApprovalFlow.Text.Blank

/-!
# Task forms

A task form is what an approver fills in when approving. As JSON it is a record with its name in
the member `formName`, which is written first.
-/

namespace ApprovalFlow

/-- The form submitted with an action on a task. -/
inductive TaskForm where
  | newGroupApprove (group : Option GroupApproval) (streams : List StreamApproval)
  | newConsumptionApprove (consumption : Option ConsumptionApproval)
  deriving DecidableEq, Repr, Inhabited

/-- The kinds of task forms. -/
inductive TaskFormKind where
  | newGroupApprove
  | newConsumptionApprove
  deriving DecidableEq, Repr, Inhabited

namespace TaskFormKind

/-- Every kind. -/
def all : List TaskFormKind :=
  [newGroupApprove, newConsumptionApprove]

/-- The name under which a definition asks for the kind. -/
def name : TaskFormKind → String
  | newGroupApprove => "NewGroupApprove"
  | newConsumptionApprove => "NewConsumptionApprove"

/-- The name that forms of the kind carry. -/
def formName : TaskFormKind → String
  | newGroupApprove => "NewGroupApproveForm"
  | newConsumptionApprove => "NewConsumptionApproveForm"

/-- The kind of a name. -/
def ofName (s : String) : Option TaskFormKind :=
  all.find? (·.name == s)

/-- The kind of the forms that carry a name. -/
def ofFormName (s : String) : Option TaskFormKind :=
  all.find? (·.formName == s)

/-- Looking up a kind's form name finds the kind. -/
theorem ofFormName_formName (kind : TaskFormKind) : ofFormName kind.formName = some kind := by
  cases kind <;> rfl

end TaskFormKind

namespace TaskForm

/-- The kind of a form. -/
def kind : TaskForm → TaskFormKind
  | newGroupApprove .. => .newGroupApprove
  | newConsumptionApprove _ => .newConsumptionApprove

/-- Approving a group needs the group's part, and every stream has to be one of that group.
Approving a consumption needs a consumer group that is not blank. -/
def validate : TaskForm → Except WorkflowError Unit
  | newGroupApprove none _ => .error (.formValidation "group approve info is empty")
  | newGroupApprove (some group) streams =>
    match streams.find? (·.groupId != group.groupId) with
    | some stream =>
      .error (.formValidation
        ("stream " ++ stream.streamId ++ " belongs to group " ++ stream.groupId ++ ", not " ++
          group.groupId))
    | none => .ok ()
  | newConsumptionApprove none => .error (.formValidation "consumption approve info is empty")
  | newConsumptionApprove (some consumption) =>
    if Text.allBlank consumption.consumerGroup then
      .error (.formValidation "consumer group cannot be empty")
    else .ok ()

/-- The members of a form after its name. -/
def members : TaskForm → List (String × Json)
  | newGroupApprove group streams =>
    [("groupApproveInfo", .ofOption GroupApproval.toJson group),
      ("streamApproveInfos", .arr (streams.map StreamApproval.toJson))]
  | newConsumptionApprove consumption =>
    [("consumptionApproveInfo", .ofOption ConsumptionApproval.toJson consumption)]

/-- The form as a tagged record. -/
def toJson (form : TaskForm) : Json :=
  .obj (("formName", .str form.kind.formName) :: form.members)

/-- The form as a text. -/
def toText (form : TaskForm) : String :=
  form.toJson.compact

/-- Reads the fields of a form whose kind is known. -/
def ofFields (kind : TaskFormKind) (j : Json) : Option TaskForm :=
  match kind with
  | .newGroupApprove =>
    match Json.recordFields ["groupApproveInfo", "streamApproveInfos"] j with
    | some [group, streams] => do
      return .newGroupApprove (← group.optional GroupApproval.ofJson)
        (← streams.withDefault [] (Json.asList StreamApproval.ofJson))
    | _ => none
  | .newConsumptionApprove =>
    match Json.recordFields ["consumptionApproveInfo"] j with
    | some [consumption] => do
      return .newConsumptionApprove (← consumption.optional ConsumptionApproval.ofJson)
    | _ => none

/-- Reads a tagged form. -/
def ofJson (j : Json) : Option TaskForm := do
  let (tag, rest) ← Json.splitTag "formName" Json.asText j
  ofFields (← TaskFormKind.ofFormName tag) rest

/-- Reads a form from a text. -/
def ofText (s : String) : Option TaskForm :=
  Json.parse s >>= ofJson

end TaskForm

end ApprovalFlow
