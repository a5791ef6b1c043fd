import ApprovalFlow.Proofs.Checks
import ApprovalFlow.Proofs.Json.Places
import ApprovalFlow.Proofs.Notify
import ApprovalFlow.Proofs.Store.Copies

/-!
# Which actions close a row

An action on a user task is looked at from ten sides, in a fixed order. If one of them is not as it
has to be, the caller is told of the first, and that is all that happens. If all are, the row is
closed, and only then do the listeners hear of it.

* `UserTask.Condition`: the sides in their order; `Condition.Holds` what each has to be like, and
  `Condition.Tells` what the caller is told if it is not.
* `UserTask.refused_of_isFirstUnmet`, `UserTask.closed_of_holds`: what a completion comes to if a
  condition is not met, and if all are.
* `UserTask.complete_decided`: a row is stored exactly if every condition is met.
-/

namespace ApprovalFlow

/-! ## Extension parameters -/

namespace ExtParams

/-- The texts that stand for an object: no text, a blank one, and one that is a JSON object. -/
def IsObject : Option String → Prop
  | none => True
  | some s => Text.allBlank s = true ∨ ∃ members, Json.parse s = some (.obj members)

theorem isSome_merge_iff (targets : Option (List String)) (existing : Option String) :
    (merge targets existing).isSome = true ↔ IsObject existing := by
  unfold merge IsObject
  rw [Option.isSome_map]
  cases existing with
  | none => simp [read]
  | some s =>
      cases blank : Text.allBlank s with
      | true => simp [read, blank]
      | false =>
          cases parsed : Json.parse s with
          | none => simp [read, blank, parsed]
          | some j => cases j <;> simp [read, blank, parsed, Json.canonical]

/-- What a text that is written for some extension parameters keeps of them: under each key what
was there, but under the transfer's key whom a transfer notes. -/
structure Merged (targets : Option (List String)) (existing : Option String) (text : String)
    (before after : List (String × Json)) : Prop where
  read : read existing = some before
  written : text = (Json.obj after).compact
  noted : ∀ users, targets = some users →
    (Json.obj after).member? TaskRow.transferKey = some (.ofTexts users)
  kept : ∀ key, (targets = none ∨ key ≠ TaskRow.transferKey) →
    (Json.obj after).member? key = (Json.obj before).member? key

theorem merged_of_merge {targets : Option (List String)} {existing : Option String} {text : String}
    (merges : merge targets existing = some text) :
    ∃ before after, Merged targets existing text before after := by
  unfold merge at merges
  obtain ⟨before, read, written⟩ := Option.map_eq_some_iff.1 merges
  refine ⟨before, withTargets targets before, read, written.symm, ?_, ?_⟩
  · rintro users rfl
    rw [withTargets, Json.member?_insertMember, if_pos rfl]
  · intro key apart
    cases targets with
    | none => rfl
    | some users =>
        have other : key ≠ TaskRow.transferKey := apart.resolve_left (by simp)
        rw [withTargets, Json.member?_insertMember, if_neg other]

end ExtParams

namespace UserTask

/-! ## Forms -/

/-- The form that has to come with an action: an approval needs the one that its task declares. -/
def askedForm (p : UserPart) (a : ActionRequest) : Option TaskFormKind :=
  if a.action = .approve then p.formKind else none

/-- The form that comes with an action is the one that has to, filled in properly; none comes with
an action that has to come without. -/
def FormFits (p : UserPart) (a : ActionRequest) : Prop :=
  match askedForm p a with
  | some kind => ∃ form, a.form = some form ∧ form.kind = kind ∧ form.validate = .ok ()
  | none => a.form = none

/-- What is wrong with the form of an action. -/
inductive FormFault (p : UserPart) (a : ActionRequest) : WorkflowError → Prop
  | missing {kind : TaskFormKind} : askedForm p a = some kind → a.form = none →
    FormFault p a (.invalidAction "form cannot be null")
  | other {kind : TaskFormKind} {form : TaskForm} : askedForm p a = some kind →
    a.form = some form → form.kind ≠ kind →
    FormFault p a (.formTypeMismatch kind.formName form.kind.formName)
  | invalid {kind : TaskFormKind} {form : TaskForm} {err : WorkflowError} :
    askedForm p a = some kind → a.form = some form → form.kind = kind →
    form.validate = .error err → FormFault p a err
  | unasked {form : TaskForm} : askedForm p a = none → a.form = some form →
    FormFault p a (.invalidAction ("no form required for " ++ a.action.name))

/-- The form data of the row that an action closes. -/
def keptForm (p : UserPart) (a : ActionRequest) : Option String :=
  match askedForm p a with
  | some _ => a.form.map TaskForm.toText
  | none => a.row.formData

/-- Of the actions on a user task only an approval ever needs a form. -/
theorem formData_of_supported {p : UserPart} {a : ActionRequest} (able : a.action ∈ supported) :
    formData p a = match askedForm p a with
      | some kind =>
        match a.form with
        | none => .error (.invalidAction "form cannot be null")
        | some form =>
          if form.kind ≠ kind then .error (.formTypeMismatch kind.formName form.kind.formName)
          else form.validate.map fun _ => some form.toText
      | none =>
        if a.form.isSome then .error (.invalidAction ("no form required for " ++ a.action.name))
        else .ok a.row.formData := by
  unfold formData askedForm needsForm
  have never : a.action ≠ .complete := by
    rintro complete
    rw [complete] at able
    exact absurd able (by decide)
  by_cases approves : a.action = .approve
  · cases kind : p.formKind with
    | none => simp [approves]
    | some asked => cases a.form <;> simp [approves]
  · cases kind : p.formKind with
    | none => simp [approves]
    | some asked => simp [approves, never]

theorem formData_of_fits {p : UserPart} {a : ActionRequest} (able : a.action ∈ supported)
    (fits : FormFits p a) : formData p a = .ok (keptForm p a) := by
  rw [formData_of_supported able]
  unfold FormFits at fits
  unfold keptForm
  cases asked : askedForm p a with
  | none =>
      rw [asked] at fits
      simp [show a.form = none from fits]
  | some kind =>
      rw [asked] at fits
      obtain ⟨form, comes, same, valid⟩ := fits
      simp [comes, same, valid, Except.map]

theorem formData_of_not_fits {p : UserPart} {a : ActionRequest} (able : a.action ∈ supported)
    (unfit : ¬ FormFits p a) : ∃ err, FormFault p a err ∧ formData p a = .error err := by
  rw [formData_of_supported able]
  unfold FormFits at unfit
  cases asked : askedForm p a with
  | none =>
      rw [asked] at unfit
      obtain ⟨form, comes⟩ := Option.ne_none_iff_exists'.1 unfit
      exact ⟨_, .unasked asked comes, by simp [comes]⟩
  | some kind =>
      rw [asked] at unfit
      cases comes : a.form with
      | none => exact ⟨_, .missing asked comes, rfl⟩
      | some form =>
          by_cases same : form.kind = kind
          · cases valid : form.validate with
            | error err =>
                exact ⟨_, .invalid asked comes same valid, by simp [same, valid, Except.map]⟩
            | ok =>
                exact (unfit ⟨form, comes, same, valid⟩).elim
          · exact ⟨_, .other asked comes same, by simp [same]⟩

/-! ## The conditions -/

/-- What an action on a user task is looked at for. -/
inductive Condition where
  /-- The context is at a task. -/
  | element
  /-- The task is one that people approve. -/
  | people
  /-- There is an action. -/
  | action
  /-- The action is one that closes rows of such tasks. -/
  | supported
  /-- The copy of the row waits. -/
  | pending
  /-- The copy is one of the task's rows. -/
  | named
  /-- The operator may act on the row. -/
  | approver
  /-- The form is the one that has to come. -/
  | form
  /-- The extension parameters are an object. -/
  | extParams
  /-- Nobody has written the row since the copy was taken. -/
  | current
  deriving DecidableEq

namespace Condition

/-- The conditions in the order in which they are looked at. -/
def inOrder : List Condition :=
  [element, people, action, supported, pending, named, approver, form, extParams, current]

/-- Whether the copy is current is looked at last. -/
theorem before_current {k : Condition} (other : k ≠ current) :
    inOrder.idxOf k < inOrder.idxOf current := by
  cases k
  case current => exact (other rfl).elim
  all_goals decide

/-- What a condition says of a context and the rows that are stored. -/
def Holds (c : Context) (table : TaskTable) : Condition → Prop
  | element => ∃ t, c.current = some t
  | people => ∃ t p, c.current = some t ∧ t.kind = .user p
  | action => ∃ a, c.action = some a
  | supported => ∃ a, c.action = some a ∧
    a.action ∈ [.approve, .reject, .transfer, .cancel, .terminate]
  | pending => ∃ a, c.action = some a ∧ a.row.status = .pending
  | named => ∃ t a, c.current = some t ∧ c.action = some a ∧ a.row.name = t.name
  | approver => ∃ a, c.action = some a ∧
    (a.action ∈ [.approve, .reject, .transfer] → a.operator ∈ a.row.approverList)
  | form => ∃ t p a, c.current = some t ∧ t.kind = .user p ∧ c.action = some a ∧ FormFits p a
  | extParams => ∃ a, c.action = some a ∧ ExtParams.IsObject a.row.extParams
  | current => ∃ a, c.action = some a ∧ table.Current a.row

/-- What the caller is told if a condition is not met. -/
inductive Tells (c : Context) (table : TaskTable) : Condition → WorkflowError → Prop
  | element : Tells c table .element
    (.configuration ("no current element in process " ++ c.definition.name))
  | people {t : Task} : c.current = some t → Tells c table .people
    (.configuration ("task " ++ t.name ++ " is not a user task"))
  | action : Tells c table .action
    (.configuration ("no action context in process " ++ c.definition.name))
  | supported {a : ActionRequest} : c.action = some a → Tells c table .supported
    (.invalidAction ("user task does not support action " ++ a.action.name))
  | pending {a : ActionRequest} : c.action = some a → Tells c table .pending
    (.invalidState ("task " ++ toString a.row.id ++ " is " ++ a.row.status.name ++ ", expected " ++
      TaskStatus.pending.name))
  | named {t : Task} {a : ActionRequest} : c.current = some t → c.action = some a →
    Tells c table .named (.configuration
      ("task row " ++ toString a.row.id ++ " belongs to " ++ a.row.name ++ ", not " ++ t.name))
  | approver {a : ActionRequest} : c.action = some a →
    Tells c table .approver (.unauthorized a.operator a.row.approvers)
  | form {t : Task} {p : UserPart} {a : ActionRequest} {err : WorkflowError} :
    c.current = some t → t.kind = .user p → c.action = some a → FormFault p a err →
    Tells c table .form err
  | extParams : Tells c table .extParams
    (.serialization "extension parameters are not a JSON object")
  | current {a : ActionRequest} {err : StoreError} : c.action = some a → table.Stale a.row err →
    Tells c table .current (.store err)

/-- The first condition that is not met. -/
structure IsFirstUnmet (c : Context) (table : TaskTable) (k : Condition) : Prop where
  unmet : ¬ k.Holds c table
  earlier : ∀ j : Condition, inOrder.idxOf j < inOrder.idxOf k → j.Holds c table

/-- Unless all conditions are met, there is a first that is not. -/
theorem exists_isFirstUnmet {c : Context} {table : TaskTable}
    (unmet : ∃ k : Condition, ¬ k.Holds c table) : ∃ k, IsFirstUnmet c table k := by
  obtain ⟨k, unmet⟩ := unmet
  induction place : inOrder.idxOf k using Nat.strongRecOn generalizing k with
  | ind n ih =>
      by_cases before : ∃ j : Condition, inOrder.idxOf j < n ∧ ¬ j.Holds c table
      · obtain ⟨j, less, fails⟩ := before
        exact ih _ less j fails rfl
      · refine ⟨k, unmet, fun j less => Classical.byContradiction fun fails => ?_⟩
        exact before ⟨j, place ▸ less, fails⟩

end Condition

/-! ## The checks one by one -/

section Checks

variable {c : Context} {t : Task} {p : UserPart} {a : ActionRequest} {now : Instant}

theorem part_of_not_user (other : ∀ p, t.kind ≠ .user p) :
    part t = .error (.configuration ("task " ++ t.name ++ " is not a user task")) := by
  unfold part Task.user?
  cases kind : t.kind with
  | user p => exact (other p kind).elim
  | service => rfl

theorem checkOperator_of_ne_ok (stranger : checkOperator a ≠ .ok ()) :
    checkOperator a = .error (.unauthorized a.operator a.row.approvers) := by
  unfold checkOperator at stranger ⊢
  split
  · rfl
  · rename_i passes
    rw [if_neg passes] at stranger
    exact (stranger rfl).elim

theorem taskEvent_of_supported (able : a.action ∈ supported) :
    ∃ event, a.action.taskEvent = some event := by
  unfold supported at able
  cases action : a.action <;> simp [action, Action.taskEvent] at able ⊢

theorem taskStatus_of_supported (able : a.action ∈ supported) :
    ∃ status, a.action.taskStatus = some status := by
  unfold supported at able
  cases action : a.action <;> simp [action, Action.taskStatus] at able ⊢

theorem plan_of_not_supported (current : c.current = some t) (kind : t.kind = .user p)
    (action : c.action = some a) (unable : a.action ∉ supported) :
    plan c now =
      .error (.invalidAction ("user task does not support action " ++ a.action.name)) := by
  have unlisted : supported.contains a.action = false := by simpa using unable
  simp only [plan, Context.task_eq_ok_iff.2 current, part_of_kind kind,
    Context.request_eq_ok_iff.2 action, unlisted, Bind.bind, Except.bind]
  rfl

/-- The row that an action asks the store to put in the place of its copy. -/
def askedRow (p : UserPart) (a : ActionRequest) (status : TaskStatus) (params : String)
    (now : Instant) : TaskRow :=
  { a.row with
    status := status
    operator := some a.operator
    remark := a.remark
    formData := keptForm p a
    endTime := some now
    extParams := some params }

/-- The row that is stored then. -/
def storedRow (p : UserPart) (a : ActionRequest) (status : TaskStatus) (params : String)
    (now : Instant) : TaskRow :=
  { askedRow p a status params now with version := a.row.version + 1 }

theorem current_askedRow (p : UserPart) (a : ActionRequest) (status : TaskStatus)
    (params : String) (now : Instant) (table : TaskTable) :
    table.Current (askedRow p a status params now) ↔ table.Current a.row :=
  TaskTable.Current.congr rfl rfl

/-- Whom a transfer notes in the extension parameters. -/
def targets (a : ActionRequest) : Option (List String) :=
  if a.action = .transfer then some a.transferTo else none

theorem extParams_of_isObject (object : ExtParams.IsObject a.row.extParams) :
    ∃ params, ExtParams.merge (targets a) a.row.extParams = some params ∧
      extParams a = .ok params := by
  obtain ⟨params, merged⟩ :=
    Option.isSome_iff_exists.1 ((ExtParams.isSome_merge_iff (targets a) _).2 object)
  refine ⟨params, merged, ?_⟩
  unfold targets at merged
  simp only [extParams, merged]

theorem extParams_of_not_isObject (other : ¬ ExtParams.IsObject a.row.extParams) :
    extParams a = .error (.serialization "extension parameters are not a JSON object") := by
  have unmerged : ExtParams.merge (targets a) a.row.extParams = none := by
    rw [← ExtParams.isSome_merge_iff (targets a)] at other
    simpa using other
  unfold targets at unmerged
  simp only [extParams, unmerged]

theorem closedRow_eq {status : TaskStatus} (closes : a.action.taskStatus = some status) :
    closedRow p a now = do
      let formData ← formData p a
      let extParams ← extParams a
      return { a.row with
        status := status
        operator := some a.operator
        remark := a.remark
        formData := formData
        endTime := some now
        extParams := some extParams } := by
  simp only [closedRow, closes, Bind.bind, Except.bind]

end Checks

/-! ## An action that is refused -/

section Refusal

variable {c : Context} {table : TaskTable} {k : Condition}

/-- What has been seen of an action once it is known to close rows of user tasks. -/
structure Proposed (c : Context) (t : Task) (p : UserPart) (a : ActionRequest)
    (event : TaskEvent) : Prop where
  current : c.current = some t
  kind : t.kind = .user p
  action : c.action = some a
  able : a.action ∈ supported
  event : a.action.taskEvent = some event

theorem proposed_of_holds (people : Condition.people.Holds c table)
    (able : Condition.supported.Holds c table) : ∃ t p a event, Proposed c t p a event := by
  obtain ⟨t, p, current, kind⟩ := people
  obtain ⟨a, action, able⟩ := able
  obtain ⟨event, follows⟩ := taskEvent_of_supported able
  exact ⟨t, p, a, event, current, kind, action, able, follows⟩

variable {t : Task} {p : UserPart} {a : ActionRequest} {event : TaskEvent}

/-- The checks that are left then. -/
theorem Proposed.plan_eq (proposed : Proposed c t p a event) (now : Instant) : plan c now = do
    UserTask.checkPending a.row
    UserTask.checkTask t a.row
    UserTask.checkOperator a
    let row ← closedRow p a now
    return (event, row) := by
  have listed : supported.contains a.action = true := by simpa using proposed.able
  simp only [plan, Context.task_eq_ok_iff.2 proposed.current, part_of_kind proposed.kind,
    Context.request_eq_ok_iff.2 proposed.action, listed, proposed.event, Bind.bind, Except.bind]
  rfl

theorem Proposed.checkPending (proposed : Proposed c t p a event)
    (holds : Condition.pending.Holds c table) : checkPending a.row = .ok () := by
  obtain ⟨b, action, pending⟩ := holds
  rw [proposed.action, Option.some.injEq] at action
  exact checkPending_eq_ok_iff.2 (action ▸ pending)

theorem Proposed.checkTask (proposed : Proposed c t p a event)
    (holds : Condition.named.Holds c table) : checkTask t a.row = .ok () := by
  obtain ⟨s, b, current, action, named⟩ := holds
  rw [proposed.current, Option.some.injEq] at current
  rw [proposed.action, Option.some.injEq] at action
  exact checkTask_eq_ok_iff.2 (current ▸ action ▸ named)

theorem Proposed.checkOperator (proposed : Proposed c t p a event)
    (holds : Condition.approver.Holds c table) : checkOperator a = .ok () := by
  obtain ⟨b, action, listed⟩ := holds
  rw [proposed.action, Option.some.injEq] at action
  exact checkOperator_eq_ok_iff.2 (action ▸ listed)

theorem Proposed.formFits (proposed : Proposed c t p a event)
    (holds : Condition.form.Holds c table) : FormFits p a := by
  obtain ⟨s, q, b, current, kind, action, fits⟩ := holds
  rw [proposed.current, Option.some.injEq] at current
  rw [proposed.action, Option.some.injEq] at action
  rw [← current, proposed.kind, TaskKind.user.injEq] at kind
  exact kind ▸ action ▸ fits

theorem Proposed.isObject (proposed : Proposed c t p a event)
    (holds : Condition.extParams.Holds c table) : ExtParams.IsObject a.row.extParams := by
  obtain ⟨b, action, object⟩ := holds
  rw [proposed.action, Option.some.injEq] at action
  exact action ▸ object

/-- The checks fail with what the caller is told of the first condition that is not met. -/
theorem plan_of_isFirstUnmet (first : Condition.IsFirstUnmet c table k)
    (early : k ≠ .current) (now : Instant) :
    ∃ err, k.Tells c table err ∧ plan c now = .error err := by
  have before := first.earlier
  cases k with
  | element =>
      refine ⟨_, .element, ?_⟩
      cases current : c.current with
      | none => simp only [plan, Context.task, current, Bind.bind, Except.bind]
      | some t => exact (first.unmet ⟨t, current⟩).elim
  | people =>
      obtain ⟨t, current⟩ := before .element (by decide)
      refine ⟨_, .people current, ?_⟩
      have other := part_of_not_user fun p kind => first.unmet ⟨t, p, current, kind⟩
      simp only [plan, Context.task_eq_ok_iff.2 current, other, Bind.bind, Except.bind]
  | action =>
      obtain ⟨t, p, current, kind⟩ := before .people (by decide)
      refine ⟨_, .action, ?_⟩
      cases action : c.action with
      | none =>
          simp only [plan, Context.task_eq_ok_iff.2 current, part_of_kind kind, Context.request,
            action, Bind.bind, Except.bind]
      | some a => exact (first.unmet ⟨a, action⟩).elim
  | supported =>
      obtain ⟨t, p, current, kind⟩ := before .people (by decide)
      obtain ⟨a, action⟩ := before .action (by decide)
      refine ⟨_, .supported action, plan_of_not_supported current kind action ?_⟩
      exact fun able => first.unmet ⟨a, action, able⟩
  | pending =>
      obtain ⟨t, p, a, event, proposed⟩ :=
        proposed_of_holds (before .people (by decide)) (before .supported (by decide))
      refine ⟨_, .pending proposed.action, ?_⟩
      have waits_not : a.row.status ≠ .pending :=
        fun pending => first.unmet ⟨a, proposed.action, pending⟩
      rw [proposed.plan_eq, UserTask.checkPending, if_pos waits_not]
      rfl
  | named =>
      obtain ⟨t, p, a, event, proposed⟩ :=
        proposed_of_holds (before .people (by decide)) (before .supported (by decide))
      refine ⟨_, .named proposed.current proposed.action, ?_⟩
      have foreign : a.row.name ≠ t.name :=
        fun named => first.unmet ⟨t, a, proposed.current, proposed.action, named⟩
      rw [proposed.plan_eq, proposed.checkPending (before .pending (by decide)),
        UserTask.checkTask, if_pos foreign]
      rfl
  | approver =>
      obtain ⟨t, p, a, event, proposed⟩ :=
        proposed_of_holds (before .people (by decide)) (before .supported (by decide))
      refine ⟨_, .approver proposed.action, ?_⟩
      have stranger : UserTask.checkOperator a ≠ .ok () :=
        fun passes => first.unmet ⟨a, proposed.action, checkOperator_eq_ok_iff.1 passes⟩
      rw [proposed.plan_eq, proposed.checkPending (before .pending (by decide)),
        proposed.checkTask (before .named (by decide)), checkOperator_of_ne_ok stranger]
      rfl
  | form =>
      obtain ⟨t, p, a, event, proposed⟩ :=
        proposed_of_holds (before .people (by decide)) (before .supported (by decide))
      have unfit : ¬ FormFits p a := fun fits =>
        first.unmet ⟨t, p, a, proposed.current, proposed.kind, proposed.action, fits⟩
      obtain ⟨err, fault, failed⟩ := formData_of_not_fits proposed.able unfit
      obtain ⟨status, closes⟩ := taskStatus_of_supported proposed.able
      refine ⟨err, .form proposed.current proposed.kind proposed.action fault, ?_⟩
      rw [proposed.plan_eq, proposed.checkPending (before .pending (by decide)),
        proposed.checkTask (before .named (by decide)),
        proposed.checkOperator (before .approver (by decide)), closedRow_eq closes, failed]
      rfl
  | extParams =>
      obtain ⟨t, p, a, event, proposed⟩ :=
        proposed_of_holds (before .people (by decide)) (before .supported (by decide))
      have other : ¬ ExtParams.IsObject a.row.extParams :=
        fun object => first.unmet ⟨a, proposed.action, object⟩
      obtain ⟨status, closes⟩ := taskStatus_of_supported proposed.able
      refine ⟨_, .extParams, ?_⟩
      rw [proposed.plan_eq, proposed.checkPending (before .pending (by decide)),
        proposed.checkTask (before .named (by decide)),
        proposed.checkOperator (before .approver (by decide)), closedRow_eq closes,
        formData_of_fits proposed.able (proposed.formFits (before .form (by decide))),
        extParams_of_not_isObject other]
      rfl
  | current => exact (early rfl).elim

/-- The checks pass if nothing but the copy's version can be wrong. -/
theorem Proposed.plan_eq_ok (proposed : Proposed c t p a event)
    (holds : ∀ k, k ≠ Condition.current → k.Holds c table) (now : Instant) :
    ∃ status params, a.action.taskStatus = some status ∧
      ExtParams.merge (targets a) a.row.extParams = some params ∧
      plan c now = .ok (event, askedRow p a status params now) := by
  obtain ⟨status, closes⟩ := taskStatus_of_supported proposed.able
  obtain ⟨params, merged, kept⟩ :=
    extParams_of_isObject (proposed.isObject (holds .extParams (by decide)))
  refine ⟨status, params, closes, merged, ?_⟩
  rw [proposed.plan_eq, proposed.checkPending (holds .pending (by decide)),
    proposed.checkTask (holds .named (by decide)),
    proposed.checkOperator (holds .approver (by decide)), closedRow_eq closes,
    formData_of_fits proposed.able (proposed.formFits (holds .form (by decide))), kept]
  rfl

end Refusal

/-! ## What becomes of an action -/

section Outcome

variable {σ : Type} [EventStore σ] {c : Context} {e : Engine TaskTable σ} {t : Task} {p : UserPart}
  {a : ActionRequest} {event : TaskEvent} {row : TaskRow}

/-- An action is refused for the first condition that is not met, and that is all that happens. -/
theorem refused_of_isFirstUnmet {k : Condition} (first : k.IsFirstUnmet c e.tasks) :
    ∃ err, k.Tells c e.tasks err ∧ complete c e = ⟨.error err, c, e⟩ := by
  by_cases last : k = .current
  · subst last
    obtain ⟨t, p, a, event, proposed⟩ := proposed_of_holds
      (first.earlier .people (by decide)) (first.earlier .supported (by decide))
    have holds : ∀ j, j ≠ Condition.current → j.Holds c e.tasks := by
      intro j other
      exact first.earlier j (Condition.before_current other)
    obtain ⟨status, params, -, -, planned⟩ := proposed.plan_eq_ok holds e.now
    have overtaken : ¬ e.tasks.Current (askedRow p a status params e.now) := by
      intro current
      exact first.unmet ⟨a, proposed.action, (current_askedRow ..).1 current⟩
    obtain ⟨err, stale, refused⟩ := Engine.updateTask_of_not_current overtaken
    refine ⟨_, .current proposed.action (stale.congr rfl rfl), ?_⟩
    simp only [complete, planned, refused]
  · obtain ⟨err, tells, failed⟩ := plan_of_isFirstUnmet first last e.now
    exact ⟨err, tells, by simp only [complete, failed]⟩

/-- What a completion comes to that closes a row. -/
structure Closed (c : Context) (e : Engine TaskTable σ) (a : ActionRequest) (event : TaskEvent)
    (row : TaskRow) : Prop where
  action : c.action = some a
  follows : a.action.taskEvent = some event
  /-- The row is the copy with what the action says of it. -/
  closes : ∃ t p status params before after, c.current = some t ∧ t.kind = .user p ∧
    a.action.taskStatus = some status ∧
    ExtParams.Merged (targets a) a.row.extParams params before after ∧
    row = storedRow p a status params e.now
  /-- It is stored in the place of the row that it has the id of, and stays there. -/
  puts : e.tasks.Puts (complete c e).engine.tasks row
  /-- The context keeps it in the place of the copy. -/
  context : (complete c e).context = { c with action := some { a with row := row } }
  /-- The event is notified of, with the row stored, and that decides what is answered. -/
  answer : ∃ outcome, { e with tasks := (complete c e).engine.tasks }.notify event
      { c with action := some { a with row := row } } = (outcome, (complete c e).engine) ∧
    (complete c e).result = outcome.map fun _ => true
  told : dispatches (complete c e).engine.trace = dispatches e.trace ++
    [⟨.task, event.name, (complete c e).context.snapshot⟩]

omit [EventStore σ] in
theorem withRow_of_action (action : c.action = some a) (row : TaskRow) :
    c.withRow row = { c with action := some { a with row := row } } := by
  rw [Context.withRow, action, Option.map_some]

/-- Once the row is stored all that is left is to notify of it. -/
theorem complete_of_updated {asked : TaskRow} {table : TaskTable}
    (proposed : Proposed c t p a event) (planned : plan c e.now = .ok (event, asked))
    (updated : e.updateTask asked = (.ok row, { e with tasks := table })) :
    ∃ outcome e', { e with tasks := table }.notify event
        { c with action := some { a with row := row } } = (outcome, e') ∧
      complete c e = ⟨outcome.map fun _ => true, { c with action := some { a with row := row } },
        e'⟩ ∧ e'.tasks = table := by
  rcases notified : { e with tasks := table }.notify event
    { c with action := some { a with row := row } } with ⟨outcome, e'⟩
  refine ⟨outcome, e', notified, ?_, ?_⟩
  · simp only [complete, planned, updated, withRow_of_action proposed.action, notified]
    cases outcome <;> rfl
  · have heard := Engine.heard_notify { e with tasks := table } event
      { c with action := some { a with row := row } }
    rw [notified] at heard
    exact heard.tasks

/-- An action that meets all conditions closes the row of its copy. -/
theorem closed_of_holds (holds : ∀ k : Condition, k.Holds c e.tasks) :
    ∃ a event row, Closed c e a event row ∧ row.version = a.row.version + 1 ∧
      e.tasks.Current a.row := by
  obtain ⟨t, p, a, event, proposed⟩ := proposed_of_holds (holds .people) (holds .supported)
  obtain ⟨status, params, closes, merged, planned⟩ :=
    proposed.plan_eq_ok (fun k _ => holds k) e.now
  obtain ⟨before, after, merged⟩ := ExtParams.merged_of_merge merged
  have current : e.tasks.Current a.row := by
    obtain ⟨b, action, current⟩ := holds .current
    rw [proposed.action, Option.some.injEq] at action
    exact action ▸ current
  let row := storedRow p a status params e.now
  obtain ⟨table, updated, puts⟩ := Engine.updateTask_of_current
    ((current_askedRow p a status params e.now e.tasks).2 current)
  change e.updateTask _ = (.ok row, _) at updated
  obtain ⟨outcome, e', notified, whole, tasks⟩ := complete_of_updated proposed planned updated
  have told := Engine.dispatches_notify (c := { c with action := some { a with row := row } })
    proposed.current { e with tasks := table } event
  rw [notified] at told
  refine ⟨a, event, row, ?_, rfl, current⟩
  constructor
  case action => exact proposed.action
  case follows => exact proposed.event
  case closes =>
    exact ⟨t, p, status, params, before, after, proposed.current, proposed.kind, closes, merged,
      rfl⟩
  case puts =>
    rw [whole, tasks]
    exact puts
  case context => rw [whole]
  case answer =>
    rw [whole, tasks]
    exact ⟨outcome, notified, rfl⟩
  case told =>
    rw [whole]
    exact told

/-- What a completion does, and when. -/
structure Decided (c : Context) (e : Engine TaskTable σ) : Prop where
  /-- A row is stored exactly if every condition is met. -/
  stores_iff : (complete c e).engine.tasks ≠ e.tasks ↔ ∀ k : Condition, k.Holds c e.tasks
  /-- Then the row of the action is closed. -/
  closes : (∀ k : Condition, k.Holds c e.tasks) → ∃ a event row, Closed c e a event row
  /-- Otherwise the caller is told of the first condition that is not met. The context stays as it
  is, and so does the engine: nothing is stored, dispatched, run or left to a pool. -/
  refuses : (∃ k : Condition, ¬ k.Holds c e.tasks) →
    ∃ (k : Condition) (err : WorkflowError), k.IsFirstUnmet c e.tasks ∧ k.Tells c e.tasks err ∧
      complete c e = ⟨.error err, c, e⟩

/-- Whatever its context and whatever is stored, a completion closes the row of its action if every
condition is met, and is refused for the first that is not. -/
theorem complete_decided (c : Context) (e : Engine TaskTable σ) : Decided c e := by
  have refuses : (∃ k : Condition, ¬ k.Holds c e.tasks) →
      ∃ (k : Condition) (err : WorkflowError), k.IsFirstUnmet c e.tasks ∧ k.Tells c e.tasks err ∧
        complete c e = ⟨.error err, c, e⟩ := by
    intro unmet
    obtain ⟨k, first⟩ := Condition.exists_isFirstUnmet unmet
    obtain ⟨err, tells, refused⟩ := refused_of_isFirstUnmet first
    exact ⟨k, err, first, tells, refused⟩
  constructor
  case stores_iff =>
    constructor
    · intro stores
      refine Classical.byContradiction fun unmet => ?_
      obtain ⟨k, err, -, -, refused⟩ := refuses (not_forall.1 unmet)
      rw [refused] at stores
      exact stores rfl
    · intro holds same
      obtain ⟨a, event, row, closed, version, stored, found, equal⟩ := closed_of_holds holds
      have there := closed.puts.there
      obtain ⟨_, _, _, _, _, _, _, _, _, _, rfl⟩ := closed.closes
      rw [same] at there
      rw [show (storedRow _ a _ _ _).id = a.row.id from rfl, found, Option.some.injEq] at there
      rw [there, version] at equal
      omega
  case closes =>
    intro holds
    obtain ⟨a, event, row, closed, -⟩ := closed_of_holds holds
    exact ⟨a, event, row, closed⟩
  case refuses => exact refuses

end Outcome

end UserTask

end ApprovalFlow
