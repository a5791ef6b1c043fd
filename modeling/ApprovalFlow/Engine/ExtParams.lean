import ApprovalFlow.Json.Reader
import ApprovalFlow.Json.Writer
import ApprovalFlow.Row.Task
import ApprovalFlow.Text.Blank

/-!
# Extension parameters

The extension parameters of a task row are a JSON object kept as a text. Closing a row writes them
anew, sorted by key; a transfer adds whom the task goes to. An absent or blank text stands for the
empty object, and any other text has to be an object.
-/

namespace ApprovalFlow.ExtParams

/-- The members of the object a text stands for. -/
def read : Option String → Option (List (String × Json))
  | none => some []
  | some s =>
    if Text.allBlank s then some []
    else
      match (Json.parse s).map Json.canonical with
      | some (.obj members) => some members
      | _ => none

/-- The members with the targets of a transfer, if there are any to note. -/
def withTargets (targets : Option (List String)) (members : List (String × Json)) :
    List (String × Json) :=
  match targets with
  | some users => Json.insertMember TaskRow.transferKey (.ofTexts users) members
  | none => members

/-- The text of the object with the targets of a transfer added. -/
def merge (targets : Option (List String)) (existing : Option String) : Option String :=
  (read existing).map fun members => (Json.obj (withTargets targets members)).compact

end ApprovalFlow.ExtParams
