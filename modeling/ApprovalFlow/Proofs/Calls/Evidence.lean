import ApprovalFlow.Proofs.Calls.Closing
import ApprovalFlow.Proofs.Form.RoundTrip

/-!
# Forms are evidence of approvals

A row has form data when somebody has approved a task that asks for a form, and then it is the very
form that came with the approval. What a completion that takes no form leaves in the row is what was
in the caller's copy, however old; `World.Blank` is the invariant that no pending copy that was ever
handed out has any.

* `UserTask.Planned.keeps`: what an action that has passed its checks does with a form.
* `World.Reachable.blank`: the invariant, over every run.
* `World.forms_are_evidence`: the statement for every world that can be reached.
-/

namespace ApprovalFlow

theorem Action.eq_approve_of_taskStatus {action : Action}
    (approves : action.taskStatus = some .approved) : action = .approve := by
  cases action <;> cases approves
  rfl

/-- The kind of form that an approval of the task has to come with. -/
def Task.formKind (t : Task) : Option TaskFormKind :=
  t.user?.bind (·.formKind)

theorem Task.typeName_of_formKind {t : Task} {kind : TaskFormKind}
    (asks : t.formKind = some kind) : t.typeName = Task.userType := by
  unfold formKind user? at asks
  unfold typeName
  cases done : t.kind with
  | user => rfl
  | service =>
      rw [done] at asks
      cases asks

/-! ## What becomes of a form -/

namespace UserTask

theorem formKind_of_part {t : Task} {p : UserPart} (isUser : part t = .ok p) :
    t.formKind = p.formKind := by
  unfold part at isUser
  unfold Task.formKind
  cases user : t.user? with
  | none =>
      rw [user] at isUser
      cases isUser
  | some q =>
      rw [user] at isUser
      cases isUser
      rfl

/-- Of the actions on a user task only an approval can need a form. -/
theorem needsForm_iff {p : UserPart} {action : Action} (able : action ∈ supported) :
    needsForm p action = true ↔ p.formKind.isSome ∧ action = .approve := by
  have other : action ≠ .complete := by
    intro same
    rw [same] at able
    exact absurd able (by decide)
  simp [needsForm, other]

/-- A form that is needed is there, of the right kind and valid, and is written down; otherwise
there is none and the row keeps what it had. -/
theorem formData_eq_ok {p : UserPart} {a : ActionRequest} {data : Option String}
    (h : formData p a = .ok data) :
    (needsForm p a.action = true ∧ ∃ form, p.formKind = some form.kind ∧ a.form = some form ∧
      form.validate = .ok () ∧ data = some form.toText) ∨
    needsForm p a.action = false ∧ a.form = none ∧ data = a.row.formData := by
  have unneeded : (if a.form.isSome then
      Except.error (WorkflowError.invalidAction ("no form required for " ++ a.action.name))
      else .ok a.row.formData) = .ok data → a.form = none ∧ data = a.row.formData := by
    intro kept
    split at kept
    · cases kept
    · rename_i absent
      cases kept
      exact ⟨by simpa using absent, rfl⟩
  unfold formData at h
  cases needed : needsForm p a.action with
  | false =>
      rw [needed] at h
      refine Or.inr ⟨rfl, unneeded ?_⟩
      cases asks : p.formKind with
      | none => simpa only [asks] using h
      | some kind => simpa only [asks] using h
  | true =>
      cases asks : p.formKind with
      | none =>
          rw [needsForm, asks] at needed
          cases needed
      | some kind =>
          rw [needed, asks] at h
          dsimp only at h
          refine Or.inl ⟨rfl, ?_⟩
          cases came : a.form with
          | none =>
              rw [came] at h
              cases h
          | some form =>
              rw [came] at h
              dsimp only at h
              split at h
              · cases h
              · rename_i same
                cases valid : form.validate with
                | error err =>
                    rw [valid] at h
                    cases h
                | ok =>
                    rw [valid] at h
                    cases h
                    exact ⟨form, by simpa using Eq.symm (not_not.1 same), rfl, valid, rfl⟩

/-- What an action does with a form: the approval of a task that asks for one writes down the form
that it comes with, and any other action comes with none and leaves the row's form data. -/
inductive Keeps (t : Task) (a : ActionRequest) (row : TaskRow) : Prop
  | written {form : TaskForm} : a.action = .approve → t.formKind = some form.kind →
    a.form = some form → form.validate = .ok () → row.formData = some form.toText → Keeps t a row
  | left : (a.action = .approve → t.formKind = none) → a.form = none →
    row.formData = a.row.formData → Keeps t a row

theorem Planned.keeps {t : Task} {a : ActionRequest} {c : Context} {event : TaskEvent}
    {row : TaskRow} (planned : Planned t a c event row) : Keeps t a row := by
  obtain ⟨p, isUser, data⟩ := planned.formData
  have asks := formKind_of_part isUser
  have needed := needsForm_iff (p := p) planned.supported
  rcases formData_eq_ok data with ⟨needs, form, kind, came, valid, wrote⟩ | ⟨idle, none, left⟩
  · exact .written (needed.1 needs).2 (asks.trans kind) came valid wrote
  · refine .left ?_ none left
    intro approve
    rw [asks]
    cases declared : p.formKind with
    | none => rfl
    | some kind =>
        rw [needed.2 ⟨Option.isSome_of_eq_some declared, approve⟩] at idle
        cases idle

end UserTask

namespace Context

/-- The action comes with a form. -/
def Carries (c : Context) (form : TaskForm) : Prop :=
  ∃ a, c.action = some a ∧ a.form = some form

/-- The action is the approval of a task that asks for forms of just this kind. -/
def Invites (c : Context) (form : TaskForm) : Prop :=
  (∃ a, c.action = some a ∧ a.action = .approve) ∧
    ∃ t, c.current = some t ∧ t.formKind = some form.kind

theorem invites_of_planned {t : Task} {a : ActionRequest} {c : Context} {event : TaskEvent}
    {row : TaskRow} {form : TaskForm} (planned : UserTask.Planned t a c event row)
    (carries : c.Carries form) : c.Invites form := by
  obtain ⟨b, action, came⟩ := carries
  rw [planned.action] at action
  cases action
  cases planned.keeps with
  | written approve asks came' =>
      rw [came] at came'
      cases came'
      exact ⟨⟨a, planned.action, approve⟩, t, planned.current, asks⟩
  | left _ none =>
      rw [came] at none
      cases none

end Context

/-- A completion of a user task succeeds with a form only where the form is asked for, whatever the
stores do. -/
theorem UserTask.invites_of_complete {τ σ : Type} [TaskStore τ] [EventStore σ] {c : Context}
    {e : Engine τ σ} {form : TaskForm} {done : Bool} (carries : c.Carries form)
    (succeeds : (UserTask.complete c e).result = .ok done) : c.Invites form := by
  unfold complete at succeeds
  cases plan : UserTask.plan c e.now with
  | error err =>
      rw [plan] at succeeds
      cases succeeds
  | ok found =>
      obtain ⟨event, row⟩ := found
      obtain ⟨t, a, planned⟩ := planned_of_plan plan
      exact Context.invites_of_planned planned carries

/-! ## Pending copies have no form data -/

variable {σ : Type}

namespace World

/-- What is stored has been handed out, every completion acts on something that was handed out, and
nothing that was handed out has form data while it is pending. -/
structure Blank (w : World σ) : Prop where
  stored : ∀ row ∈ w.rows, row ∈ w.copies
  acted : ∀ call ∈ w.calls, ∀ copy, call.acted = some copy → copy ∈ w.copies
  blank : ∀ copy ∈ w.copies, copy.status = .pending → copy.formData = none

variable [EventStore σ] {known : Task → Prop} {w w' : World σ}

theorem Blank.proceed (blank : w.Blank) (sound : w.Sound known) {i : Nat} {call : Call σ}
    (found : w.calls[i]? = some call) : (w.proceed i call).Blank := by
  rcases h : call.stage.step w.engine with ⟨stage, e⟩
  have lawful := sound.calls call (List.mem_of_getElem? found)
  have advanced := lawful.advance sound.table sound.named h
  have copies : (w.proceed i call).copies = w.copies ++ e.tasks.rows := by
    simp only [World.proceed, h]
  have rows_eq : (w.proceed i call).rows = e.tasks.rows := by
    simp only [World.rows, World.proceed, h]
  -- A completion only adds closed rows, and any other call only rows without form data.
  have added : ∀ row ∈ w.engine.tasks.added e.tasks, row.status = .pending →
      row.formData = none := by
    intro row new pending
    by_cases completes : call.acted.isSome
    · have stored : row ∈ (call.turned stage w.engine e).stored := by
        rw [Call.stored, Call.turned, Turn.stored_concat]
        exact List.mem_append_right _ new
      have closed := (advanced.lawful.of_stored completes stored).1.2.status
      rw [pending] at closed
      cases closed
    · exact advanced.blank completes row new
  refine ⟨?_, ?_, ?_⟩
  · intro row member
    rw [copies]
    exact List.mem_append_right _ (rows_eq ▸ member)
  · intro other member copy acts
    rw [copies]
    apply List.mem_append_left
    obtain ⟨j, place⟩ := List.mem_iff_getElem?.1 member
    rw [getElem?_proceed found h] at place
    split at place
    · cases place
      exact blank.acted call (List.mem_of_getElem? found) copy acts
    · exact blank.acted other (List.mem_of_getElem? place) copy acts
  · intro copy member pending
    rw [copies] at member
    rcases List.mem_append.1 member with old | now
    · exact blank.blank copy old pending
    · rcases TaskTable.mem_of_mem_later now with old | new
      · exact blank.blank copy (blank.stored copy old) pending
      · exact added copy new pending

/-- Every step keeps it. -/
theorem Step.blank (step : Step known w w') (sound : w.Sound known) (blank : w.Blank) :
    w'.Blank := by
  cases step with
  | @begin entry asked =>
      refine ⟨blank.stored, ?_, blank.blank⟩
      intro call member copy acts
      rcases List.mem_append.1 member with old | new
      · exact blank.acted call old copy acts
      · rw [List.mem_singleton.1 new] at acts
        cases asked with
        | enter => cases acts
        | complete _ copied => exact copied copy acts
  | proceed found => exact blank.proceed sound found
  | @meanwhile e same =>
      have rows_eq : ({ w with engine := e } : World σ).rows = w.rows := by rw [rows, same, rows]
      exact ⟨rows_eq ▸ blank.stored, blank.acted, blank.blank⟩

/-- So does every run. -/
theorem Reachable.blank (reached : w.Reachable known) : w.Blank := by
  obtain ⟨e, start, steps⟩ := reached
  induction steps with
  | refl =>
      refine ⟨?_, by simp, by simp⟩
      intro row member
      rw [rows, start] at member
      cases member
  | tail before step ih => exact step.blank (Reachable.sound ⟨e, start, before⟩) ih

end World

/-! ## Evidence -/

/-- The call by which the row's operator has approved the row, with a form. -/
def Call.ApprovedWith (call : Call σ) (row : TaskRow) (form : TaskForm) : Prop :=
  ∃ c a, call.entry = .completing .user c ∧ c.action = some a ∧ a.action = .approve ∧
    row.operator = some a.operator ∧ a.form = some form ∧ row ∈ call.stored

/-- The form data of a row of a task. There is some exactly when the task asks for a form and the
row is approved; and then it is the text of a valid form of the kind that the task asks for, the one
that the approval came with, and reading the text gives back that form. -/
structure TaskRow.Evident (calls : List (Call σ)) (t : Task) (row : TaskRow) : Prop where
  isSome_iff : row.formData.isSome ↔ t.formKind.isSome ∧ row.status = .approved
  reads : ∀ text, row.formData = some text → ∃ form, text = form.toText ∧
    (form.Sized → TaskForm.ofText text = some form) ∧ t.formKind = some form.kind ∧
    form.validate = .ok () ∧ ∃ call ∈ calls, call.ApprovedWith row form

namespace TaskRow

variable {calls : List (Call σ)} {t : Task} {row : TaskRow}

theorem evident_of_none (absent : row.formData = none)
    (idle : row.status = .approved → t.formKind = none) : row.Evident calls t := by
  refine ⟨?_, ?_⟩
  · rw [absent]
    refine iff_of_false (by simp) ?_
    intro both
    rw [idle both.2] at both
    cases both.1
  · intro text wrote
    rw [absent] at wrote
    cases wrote

/-- A row that an action has closed, from a copy that has no form data. -/
theorem evident_of_planned {a : ActionRequest} {c : Context} {event : TaskEvent} {closed : TaskRow}
    {call : Call σ} (planned : UserTask.Planned t a c event closed) (blank : a.row.formData = none)
    (made : call ∈ calls) (entry : call.entry = .completing .user c)
    (stored : TaskTable.bumped closed ∈ call.stored) :
    (TaskTable.bumped closed).Evident calls t := by
  cases planned.keeps with
  | @written form approve asks came valid wrote =>
      have status : closed.status = .approved := by
        have closes := planned.status
        rw [approve] at closes
        exact (Option.some.inj closes).symm
      refine ⟨?_, ?_⟩
      · exact iff_of_true (Option.isSome_of_eq_some wrote) ⟨Option.isSome_of_eq_some asks, status⟩
      · intro text same
        cases wrote.symm.trans same
        exact ⟨form, rfl, TaskForm.ofText_toText, asks, valid, call, made, c, a, entry,
          planned.action, approve, planned.operator, came, stored⟩
  | left idle none kept =>
      refine evident_of_none (kept.trans blank) ?_
      intro approved
      apply idle
      have closes := planned.status
      rw [show closed.status = .approved from approved] at closes
      exact Action.eq_approve_of_taskStatus closes

/-- A row that a completion has closed, from a pending copy that has no form data. -/
theorem evident_of_closes {d : ProcessDefinition} {table : TaskTable} {call : Call σ}
    (closes : call.Closes d.Has table row) (made : call ∈ calls) (stored : row ∈ call.stored)
    (isKnown : d.Has t) (name : t.name = row.name)
    (blank : ∀ copy, call.acted = some copy → copy.status = .pending → copy.formData = none) :
    row.Evident calls t := by
  cases closes with
  | @planned t' a c event closed entry isKnown' planned bumped =>
      cases bumped
      have sameTask := TaskTable.sameTask_bumped planned.closes.same
      have one : t = t' := by
        refine isKnown.eq_of_name_eq isKnown' ?_
        rw [name, sameTask.name_eq, planned.name]
      have acts : call.acted = some a.row := by
        rw [Call.acted, entry]
        exact planned.acted
      rw [one]
      exact evident_of_planned planned (blank a.row acts planned.closes.pending) made entry stored
  | @served t' a c ready entry isKnown' prepared served =>
      have acts : call.acted = some a.row := by
        rw [Call.acted, entry]
        exact prepared.acted
      refine evident_of_none (served.formData.trans (blank a.row acts prepared.pending)) ?_
      intro approved
      rcases served.status with status | status
      · rw [status] at approved
        cases approved
      · rw [status] at approved
        cases approved

end TaskRow

namespace World

variable [EventStore σ]

/-- In every world that can be reached, each row is one of a task of the definition, found by its
name, and has form data exactly when the task asks for a form and the row is approved: the form that
the approver submitted, valid and of the kind asked for. A service task's row never has any. A
completion of a user task with a form makes no difference, and cannot but fail, unless it is the
approval of a task that asks for that kind. -/
theorem forms_are_evidence (d : ProcessDefinition) {w : World σ} (reached : w.Reachable d.Has) :
    (∀ row ∈ w.rows, ∃ t, d.Has t ∧ t.name = row.name ∧ t.typeName = row.taskType ∧
      row.Evident w.calls t) ∧
    (∀ row ∈ w.rows, row.taskType = Task.serviceType → row.formData = none) ∧
    (∀ call ∈ w.calls, ∀ c form, call.entry = .completing .user c → c.Carries form →
      c.Invites form ∨ call.Lost) ∧
    ∀ (τ : Type) [TaskStore τ] (e : Engine τ σ) (c : Context) (form : TaskForm) (done : Bool),
      c.Carries form → (UserTask.complete c e).result = .ok done → c.Invites form := by
  have sound := reached.sound
  have blank := reached.blank
  have evident : ∀ row ∈ w.rows, ∃ t, d.Has t ∧ t.name = row.name ∧ t.typeName = row.taskType ∧
      row.Evident w.calls t := by
    intro row member
    obtain ⟨t, isKnown, name, taskType⟩ := sound.named row member
    refine ⟨t, isKnown, name, taskType, ?_⟩
    rcases sound.table.shaped row member with opened | closed
    · refine TaskRow.evident_of_none ?_ ?_
      · exact blank.blank row (blank.stored row member) opened.status
      · intro approved
        rw [opened.status] at approved
        cases approved
    · obtain ⟨i, call, found, completes, stored, wrote, same⟩ := sound.wrote row member closed
      have made := List.mem_of_getElem? found
      obtain ⟨final, closes⟩ := (sound.calls call made).closes_of_stored completes wrote
      cases sound.table.numbered.eq_of_id_eq final.1 member same
      refine TaskRow.evident_of_closes closes made wrote isKnown name ?_
      exact fun copy acts pending => blank.blank copy (blank.acted call made copy acts) pending
  refine ⟨evident, ?_, ?_, ?_⟩
  · intro row member service
    obtain ⟨t, -, -, taskType, evidence⟩ := evident row member
    cases data : row.formData with
    | none => rfl
    | some text =>
        obtain ⟨form, -, -, asks, -⟩ := evidence.reads text data
        have user := Task.typeName_of_formKind asks
        rw [taskType, service] at user
        exact absurd user (by decide)
  · intro call made c form entry carries
    rcases (sound.calls call made).lost_or_planned entry with
      lost | ⟨t, a, event, closed, planned, -⟩
    · exact Or.inr lost
    · exact Or.inl (Context.invites_of_planned planned carries)
  · intro τ _ e c form done
    exact UserTask.invites_of_complete

end World

/-! ## An approval with a form -/

namespace Consent

/-- A task whose approval has to come with a form. -/
def review : Task :=
  { Race.review with kind := .user ⟨fun _ => ["alice"], false, some .newConsumptionApprove⟩ }

/-- A process of that task alone. -/
def definition : ProcessDefinition :=
  { Race.definition with tasks := [review] }

/-- A context of the process. -/
def context : Context :=
  .base definition (.opened 1 "P" "carol" default) none

/-- The world before any step of the call that enters the task. -/
def opening : World EventLog :=
  { Race.opening with calls := [.begun (.entering .user review context)] }

/-- The task is entered. -/
def entered : World EventLog :=
  opening.schedule [0, 0, 0, 0]

/-- A form of the kind that the task asks for. -/
def form : TaskForm :=
  .newConsumptionApprove (some ⟨"readers of \"A\"", none⟩)

/-- An action with the form, on a copy of the row. -/
def attempt (action : Action) : Stage :=
  .completing .user { context with
    current := some review
    action := some ⟨action, "alice", none, some form, [], entered.copies.headD default⟩ }

/-- The approver rejects with a form first, and approves with it then. -/
def settled : World EventLog :=
  { entered with calls := entered.calls ++ [Call.begun (attempt .reject)] ++
    [Call.begun (attempt .approve)] }.schedule [1, 2, 2, 2]

theorem has_review : definition.Has review := by
  rfl

theorem asked_attempt (action : Action) :
    (attempt action).Asked definition.Has (· ∈ entered.copies) := by
  refine .complete ?_ ?_
  · intro t current
    cases current
    exact has_review
  · intro row acts
    cases acts
    change entered.copies.headD default ∈ entered.copies
    decide +kernel

theorem settled_reachable : settled.Reachable definition.Has := by
  have start : opening.Reachable definition.Has :=
    ⟨opening.engine, rfl, Relation.ReflTransGen.single (.begin (.enter has_review))⟩
  have first := (start.schedules [0, 0, 0, 0]).begins (asked_attempt .reject)
  exact (first.begins (asked_attempt .approve)).schedules [1, 2, 2, 2]

theorem entry_settled : settled.calls[1]?.map Call.entry = some (attempt .reject) := by
  have one : entered.calls.length = 1 := by decide +kernel
  rw [settled, World.entry_schedule]
  dsimp only
  rw [List.append_assoc, List.getElem?_append_right (Nat.le_of_eq one), one]
  rfl

/-- The row has the form that the approval came with; the rejection has made no difference. -/
theorem approval_kept :
    ∃ row submitted call, settled.rows = [row] ∧ row.status = .approved ∧
      row.formData.bind TaskForm.ofText = some submitted ∧ submitted.validate = .ok () ∧
      (∃ approval ∈ settled.calls, approval.ApprovedWith row submitted) ∧
      settled.calls[1]? = some call ∧ call.Lost := by
  obtain ⟨evident, -, lost, -⟩ := World.forms_are_evidence definition settled_reachable
  have shape : settled.rows.map (fun row => (row.name, row.status, row.formData)) =
      [("review", .approved, some form.toText)] := by decide +kernel
  obtain ⟨row, rows_eq, shown⟩ := List.map_eq_singleton_iff.1 shape
  simp only [Prod.mk.injEq] at shown
  obtain ⟨name, status, data⟩ := shown
  have here : row ∈ settled.rows := by simp [rows_eq]
  obtain ⟨t, isKnown, named, -, evidence⟩ := evident row here
  have one : t = review := isKnown.eq_of_name_eq has_review (named.trans name)
  obtain ⟨submitted, -, reads, asks, valid, approved⟩ := evidence.reads form.toText data
  have sized : submitted.Sized := by
    rw [one] at asks
    cases submitted with
    | newGroupApprove => cases asks
    | newConsumptionApprove => trivial
  obtain ⟨call, found, entry⟩ := Option.map_eq_some_iff.1 entry_settled
  refine ⟨row, submitted, call, rows_eq, status, ?_, valid, approved, found, ?_⟩
  · rw [data, Option.bind_some, reads sized]
  · rcases lost call (List.mem_of_getElem? found) _ form entry ⟨_, rfl, rfl⟩ with invited | lost
    · obtain ⟨⟨a, action, approve⟩, -⟩ := invited
      cases action
      cases approve
    · exact lost

end Consent

end ApprovalFlow
