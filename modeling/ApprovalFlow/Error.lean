/-!
# Errors

A store refuses a call with a `StoreError`; every other part of the engine fails with a
`WorkflowError`, which may carry a store's. Each error has a code for programs and a message for
people. Three questions are asked of an error: whether it is fatal (the definition or the wiring is
wrong, a retry cannot help), whether another operator could succeed, and whether a concurrent
writer was faster.
-/

namespace ApprovalFlow

/-- Why a store, or the configuration loader, refused. -/
inductive StoreError where
  /-- No row has the id. -/
  | notFound (entity id : String)
  /-- The row was written by someone else since the copy was taken. -/
  | conflict (entity id : String) (expected actual : Int)
  /-- The configuration cannot be read. -/
  | configuration (detail : String)
  /-- A value cannot be read or written as JSON. -/
  | serialization (detail : String)
  /-- The storage itself failed. -/
  | storage (detail : String)
  deriving DecidableEq, Repr

namespace StoreError

/-- The message shown to people. -/
def message : StoreError → String
  | notFound entity id => entity ++ " not found: " ++ id
  | conflict entity id expected actual =>
    entity ++ " " ++ id ++ " was modified concurrently (expected version " ++ toString expected ++
      ", found " ++ toString actual ++ ")"
  | configuration detail => "Configuration error: " ++ detail
  | serialization detail => "Serialization error: " ++ detail
  | storage detail => "Storage error: " ++ detail

/-- The code shown to programs. -/
def code : StoreError → String
  | notFound .. => "NOT_FOUND"
  | conflict .. => "CONFLICT"
  | configuration _ => "CONFIGURATION_ERROR"
  | serialization _ => "SERIALIZATION_ERROR"
  | storage _ => "STORAGE_ERROR"

end StoreError

/-- Why a workflow call failed. -/
inductive WorkflowError where
  /-- The definition or the wiring is wrong. -/
  | configuration (detail : String)
  /-- A service task type has no such name. -/
  | unsupportedTaskType (name : String)
  /-- Nobody may act on the task, given by its display name. -/
  | emptyApprovers (task : String)
  /-- The form is not of the kind the task asks for. -/
  | formTypeMismatch (expected actual : String)
  /-- The form is of the right kind but not filled in properly. -/
  | formValidation (detail : String)
  /-- The action is not possible here. -/
  | invalidAction (detail : String)
  /-- The task or the process is in the wrong state for the action. -/
  | invalidState (detail : String)
  /-- The operator is none of the approvers. -/
  | unauthorized (operator approvers : String)
  /-- The registry has a listener of the name. -/
  | duplicateListener (name : String)
  /-- A listener refused; its message is shown as it is. -/
  | listenerFailed (listener detail : String)
  /-- A listener's own call failed. -/
  | external (detail : String)
  /-- A value cannot be read or written as JSON. -/
  | serialization (detail : String)
  /-- A store refused. -/
  | store (error : StoreError)
  deriving DecidableEq, Repr

namespace WorkflowError

/-- The message shown to people. -/
def message : WorkflowError → String
  | configuration detail => "Configuration error: " ++ detail
  | unsupportedTaskType name => "Unsupported service task type: " ++ name
  | emptyApprovers task =>
    "Cannot assign approvers for task " ++ task ++ ": the approver set is empty"
  | formTypeMismatch expected actual =>
    "Form type mismatch: expected " ++ expected ++ ", got " ++ actual
  | formValidation detail => "Form validation failed: " ++ detail
  | invalidAction detail => "Invalid action: " ++ detail
  | invalidState detail => "Invalid task state: " ++ detail
  | unauthorized operator approvers =>
    "current operator " ++ operator ++ " not in approvers list: " ++ approvers
  | duplicateListener name => "Duplicate listener: " ++ name
  | listenerFailed _ detail => detail
  | external detail => "External call failed: " ++ detail
  | serialization detail => "Serialization error: " ++ detail
  | store error => error.message

/-- The code shown to programs. -/
def code : WorkflowError → String
  | configuration _ => "CONFIGURATION_ERROR"
  | unsupportedTaskType _ => "UNSUPPORTED_TASK_TYPE"
  | emptyApprovers _ => "EMPTY_APPROVERS"
  | formTypeMismatch .. => "FORM_TYPE_MISMATCH"
  | formValidation _ => "FORM_VALIDATION_ERROR"
  | invalidAction _ => "INVALID_ACTION"
  | invalidState _ => "INVALID_STATE"
  | unauthorized .. => "UNAUTHORIZED"
  | duplicateListener _ => "DUPLICATE_LISTENER"
  | listenerFailed .. => "LISTENER_FAILED"
  | external _ => "EXTERNAL_ERROR"
  | serialization _ => "SERIALIZATION_ERROR"
  | store error => error.code

/-- Whether the definition or the wiring is at fault, so that a retry is pointless. -/
def isFatal : WorkflowError → Bool
  | configuration _ | unsupportedTaskType _ | emptyApprovers _ | formTypeMismatch ..
  | duplicateListener _ => true
  | _ => false

/-- Whether another operator might succeed. -/
def isAuthorization : WorkflowError → Bool
  | unauthorized .. => true
  | _ => false

/-- Whether a concurrent writer was faster. -/
def isConflict : WorkflowError → Bool
  | store (.conflict ..) => true
  | _ => false

/-- Whether the error says that JSON could not be read or written. -/
def isSerialization : WorkflowError → Bool
  | serialization _ | store (.serialization _) => true
  | _ => false

end WorkflowError

end ApprovalFlow
