import ApprovalFlow.Proofs.Effects
import ApprovalFlow.Proofs.Scenario.Lookups

/-!
# The same call in two scenarios

In two variants of a scenario a workflow call answers alike and does alike, whatever is in the logs
and in the pools: what asynchronous listeners answer comes back to nobody. There is one lemma for
each call; it says what the call does in either scenario, and that the lists are twins.
-/

namespace ApprovalFlow

/-- A run of a listener of a scenario. -/
structure Invocation.Of (l : ListenerSpec) (i : Invocation) : Prop where
  listener : i.listener = l.name
  event : i.event = Text.toUpper l.event
  isAsync : i.isAsync = l.isAsync
  outcome : i.outcome = l.outcome

section Places

variable (roles : ListenerSpec → ListenerSpec → Prop)

/-- Two runs, at their own times, of listeners in one place, which differ at most in what an
asynchronous one answers. -/
structure Invocation.Twin (i i' : Invocation) : Prop where
  opening : ∀ now now', i'.opening now' = { i.opening now with startTime := now' }
  role : ∃ l l', roles l l' ∧ l.Variant l' ∧ i.Of l ∧ i'.Of l'

/-- Two things done in one place. -/
inductive Effect.Twin : Effect → Effect → Prop
  | noted (observations observations' : List Observation) :
    Twin (.noted observations) (.noted observations')
  | stored {tasks tasks' : TaskTable} : tasks.Alike tasks' → Twin (.stored tasks) (.stored tasks')
  | ran {i i' : Invocation} : i.Twin roles i' → Twin (.ran i) (.ran i')
  | submitted {i i' : Invocation} : i.Twin roles i' → Twin (.submitted i) (.submitted i')

/-- Two engines with twins in every place, whatever is in their logs and pools. -/
structure Engine.Twin {σ : Type} (e e' : Engine TaskTable σ) : Prop where
  settings : e.settings.Twin roles e'.settings
  catalogue : e.catalogue.Twin roles e'.catalogue
  tasks : e.tasks.Alike e'.tasks

end Places

variable {roles : ListenerSpec → ListenerSpec → Prop} {c c' : Context}

variable (roles) in
theorem stored_twin {tasks tasks' : TaskTable} (alike : tasks.Alike tasks') :
    List.Forall₂ (Effect.Twin roles) [.stored tasks] [.stored tasks'] :=
  .cons (.stored alike) .nil

namespace Context.Twin

theorem snapshot_form (twin : c.Twin roles c') : c'.snapshot.form = c.snapshot.form :=
  twin.form

theorem groupId_eq (twin : c.Twin roles c') : c'.snapshot.groupId = c.snapshot.groupId := by
  unfold Snapshot.groupId
  rw [twin.snapshot_form]
  exact congrArg _ twin.process.groupId_eq

theorem at_task (twin : c.Twin roles c') {t t' : Task} (task : t.Twin roles t') :
    ({ c with current := some t } : Context).Twin roles { c' with current := some t' } :=
  { twin with current := .some task }

theorem withNewTask (twin : c.Twin roles c') {row row' : TaskRow} (new : row.Alike row') :
    (c.withNewTask row).Twin roles (c'.withNewTask row') :=
  { twin with newTasks := forall₂_concat twin.newTasks new }

theorem withRow (twin : c.Twin roles c') {row row' : TaskRow} (new : row.Alike row') :
    (c.withRow row).Twin roles (c'.withRow row') := by
  refine { twin with action := ?_ }
  have action := twin.action
  unfold Context.withRow
  generalize c.action = a at action
  generalize c'.action = a' at action
  cases action with
  | none => exact .none
  | some same =>
      refine .some ⟨?_, new⟩
      rw [same.same]

end Context.Twin

/-! ## Listeners -/

/-- A run of a listener that was made from one of a scenario. -/
theorem ListenerSpec.invocation_of {ε : Type} [EventFamily ε] {spec : ListenerSpec}
    {l : Listener ε} (built : spec.build ε = .ok l) (element : Element) (s : Snapshot)
    {isAsync : Bool} (mode : l.isAsync = isAsync) : (l.invocation element s isAsync).Of spec := by
  obtain ⟨event, named, rfl⟩ := ListenerSpec.build_eq_ok_iff.1 built
  unfold EventFamily.ofName at named
  have name := List.find?_some named
  exact ⟨rfl, beq_iff_eq.1 name, mode.symm, rfl⟩

theorem Listener.Twin.invocation {ε : Type} [EventFamily ε] {l l' : Listener ε}
    (twin : l.Twin roles l') (context : c.Twin roles c') (element : Element) {isAsync : Bool}
    (mode : l.isAsync = isAsync) :
    (l.invocation element c.snapshot isAsync).Twin roles
      (l'.invocation element c'.snapshot isAsync) := by
  constructor
  case opening =>
    intro now now'
    have row : c'.snapshot.action.map (·.row.id) = c.snapshot.action.map (·.row.id) := by
      have action := context.action
      change c'.action.map (·.row.id) = c.action.map (·.row.id)
      generalize c.action = a at action
      generalize c'.action = a' at action
      cases action with
      | none => rfl
      | some same => exact congrArg some same.row.id_eq
    have id : c'.snapshot.process.id = c.snapshot.process.id := context.process.id_eq
    have name : c'.snapshot.process.name = c.snapshot.process.name := context.process.name_eq
    have displayName : c'.snapshot.process.displayName = c.snapshot.process.displayName :=
      context.process.displayName_eq
    simp only [Invocation.opening, Listener.invocation, twin.name_eq, twin.event_eq, row, id, name,
      displayName, context.groupId_eq]
  case role =>
    have mode' : l'.isAsync = isAsync := twin.isAsync_eq.trans mode
    obtain ⟨spec, spec', role, variant, built, built'⟩ := twin
    exact ⟨spec, spec', role, variant, spec.invocation_of built element _ mode,
      spec'.invocation_of built' element _ mode'⟩

theorem Invocation.Twin.listener_eq {i i' : Invocation} (twin : i.Twin roles i') :
    i'.listener = i.listener :=
  congrArg EventRow.listener (twin.opening default default)

theorem Invocation.Twin.outcome_eq {i i' : Invocation} (twin : i.Twin roles i')
    (inLine : i.isAsync = false) : i'.outcome = i.outcome := by
  obtain ⟨l, l', -, variant, own, own'⟩ := twin.role
  rw [own.outcome, own'.outcome]
  unfold ListenerSpec.outcome
  rw [variant.inLine (own.isAsync.symm.trans inLine)]

theorem Invocation.inTurn_twin {is is' : List Invocation}
    (twins : List.Forall₂ (Invocation.Twin roles) is is') (inLine : ∀ i ∈ is, i.isAsync = false) :
    (inTurn is').1 = (inTurn is).1 ∧
      List.Forall₂ (Effect.Twin roles) (inTurn is).2 (inTurn is').2 := by
  induction twins with
  | nil => exact ⟨rfl, .nil⟩
  | @cons i i' rest rest' first _ ih =>
      obtain ⟨here, later⟩ := List.forall_mem_cons.1 inLine
      unfold inTurn
      rw [first.outcome_eq here, first.listener_eq]
      rcases i.outcome.toResult i.listener with err | ⟨⟩
      · exact ⟨rfl, .cons (.ran first) .nil⟩
      · exact ⟨(ih later).1, .cons (.ran first) (ih later).2⟩

namespace Engine

variable {σ : Type} {e e' : Engine TaskTable σ} {fx fx' : List Effect}

theorem Twin.of_heard {e₁ e₁' : Engine TaskTable σ} (twin : e.Twin roles e')
    {about about' : Observation → Prop} {events events' : List Dispatch}
    (left : Heard about events e e₁) (right : Heard about' events' e' e₁') :
    e₁.Twin roles e₁' := by
  refine ⟨?_, ?_, ?_⟩
  · rw [left.settings, right.settings]
    exact twin.settings
  · rw [left.catalogue, right.catalogue]
    exact twin.catalogue
  · rw [left.tasks, right.tasks]
    exact twin.tasks

variable [EventStore σ]

theorem Twin.perform (twin : e.Twin roles e') {f f' : Effect} (both : f.Twin roles f') :
    (e.perform f).Twin roles (e'.perform f') := by
  cases both with
  | noted => exact ⟨twin.settings, twin.catalogue, twin.tasks⟩
  | stored alike => exact { twin with tasks := alike }
  | ran => exact twin.of_heard (heard_perform_ran e _) (heard_perform_ran e' _)
  | submitted => exact twin.of_heard (heard_perform_submitted e _) (heard_perform_submitted e' _)

theorem Twin.performAll (twin : e.Twin roles e') (both : List.Forall₂ (Effect.Twin roles) fx fx') :
    (e.performAll fx).Twin roles (e'.performAll fx') := by
  induction both generalizing e e' with
  | nil => exact twin
  | cons first _ ih => exact ih (twin.perform first)

theorem notification_twin {managed managed' own own' left left' : List Invocation}
    (first : List.Forall₂ (Invocation.Twin roles) managed managed')
    (second : List.Forall₂ (Invocation.Twin roles) own own')
    (last : List.Forall₂ (Invocation.Twin roles) left left')
    (managedInLine : ∀ i ∈ managed, i.isAsync = false) (ownInLine : ∀ i ∈ own, i.isAsync = false)
    (announced announced' : Observation) (consulted consulted' : List Observation) :
    (notification announced' consulted' managed' own' left').1 =
        (notification announced consulted managed own left).1 ∧
      List.Forall₂ (Effect.Twin roles) (notification announced consulted managed own left).2
        (notification announced' consulted' managed' own' left').2 := by
  obtain ⟨answer, fx⟩ := Invocation.inTurn_twin first managedInLine
  obtain ⟨answer', gx⟩ := Invocation.inTurn_twin second ownInLine
  unfold notification
  generalize Invocation.inTurn managed = x at answer fx ⊢
  generalize Invocation.inTurn managed' = x' at answer fx ⊢
  generalize Invocation.inTurn own = y at answer' gx ⊢
  generalize Invocation.inTurn own' = y' at answer' gx ⊢
  obtain ⟨_, _⟩ := x'
  obtain ⟨_, _⟩ := y'
  cases answer
  cases answer'
  obtain ⟨err | ⟨⟩, _⟩ := x
  · exact ⟨rfl, .cons (.noted ..) fx⟩
  · obtain ⟨err | ⟨⟩, _⟩ := y
    · exact ⟨rfl, List.rel_append (.cons (.noted ..) fx) (.cons (.noted ..) gx)⟩
    · refine ⟨rfl, List.rel_append
        (List.rel_append (.cons (.noted ..) fx) (.cons (.noted ..) gx)) ?_⟩
      rw [List.forall₂_map_left_iff, List.forall₂_map_right_iff]
      exact last.imp fun _ _ twin => .submitted twin

variable {ε : Type} [EventScope ε]

omit [EventStore σ] in
theorem invocations_twin {ls ls' : List (Listener ε)}
    (twins : List.Forall₂ (Listener.Twin roles) ls ls') (context : c.Twin roles c')
    (element : Element) {isAsync : Bool} (mode : ∀ l ∈ ls, l.isAsync = isAsync) :
    List.Forall₂ (Invocation.Twin roles) (ls.map (·.invocation element c.snapshot isAsync))
      (ls'.map (·.invocation element c'.snapshot isAsync)) := by
  induction twins with
  | nil => exact .nil
  | cons first _ ih =>
      obtain ⟨here, later⟩ := List.forall_mem_cons.1 mode
      exact .cons (first.invocation context element here) (ih later)

/-- Two notifications. -/
theorem notify_twin [SharedScope ε] (twin : e.Twin roles e') (context : c.Twin roles c')
    (event : ε) :
    ∃ answer fx fx', e.Does fx (·.notify event c) (answer, ·) ∧
      e'.Does fx' (·.notify event c') (answer, ·) ∧ List.Forall₂ (Effect.Twin roles) fx fx' := by
  have same := SharedScope.element (ε := ε) context
  cases there : EventScope.element ε c with
  | error err =>
      have fails : ∀ (e : Engine TaskTable σ) (c : Context),
          EventScope.element ε c = .error err →
            e.Does [] (·.notify event c) (Except.error (α := Unit) err, ·) := by
        intro e c nowhere x
        unfold notify
        rw [nowhere]
        rfl
      exact ⟨.error err, [], [], fails e c there, fails e' c' (same.trans there), .nil⟩
  | ok element =>
      have manager := SharedScope.manager (ε := ε) twin.settings
      obtain ⟨g, g', found, found', groups⟩ :=
        SharedScope.groups event context twin.catalogue there
      have first := does_notify there found
      have second := does_notify (same.trans there) found'
      obtain ⟨answer, effects⟩ := notification_twin
        (invocations_twin (manager.sync event) context element (manager.inLine event))
        (invocations_twin groups.sync context element groups.inLine)
        (invocations_twin (List.rel_append (manager.async event) groups.async) context element
          (List.forall_mem_append.2 ⟨manager.inPool event, groups.inPool⟩))
        (List.forall_mem_map.2 fun _ _ => rfl) (List.forall_mem_map.2 fun _ _ => rfl)
        (.dispatched (EventFamily.family ε) (EventFamily.name event) c.snapshot)
        (.dispatched (EventFamily.family ε) (EventFamily.name event) c'.snapshot)
        ((EventScope.groups e.catalogue c event).consultations.map .consulted)
        ((EventScope.groups e'.catalogue c' event).consultations.map .consulted)
      dsimp only at second
      rw [answer] at second
      exact ⟨_, _, _, first, second, effects⟩

end Engine

/-! ## User tasks -/

/-- Two results that fail alike, or are related. -/
inductive Except.Rel {ε α β : Type} (R : α → β → Prop) : Except ε α → Except ε β → Prop
  | error (err : ε) : Rel R (.error err) (.error err)
  | ok {a : α} {b : β} : R a b → Rel R (.ok a) (.ok b)

theorem Except.Rel.same {ε α : Type} (x : Except ε α) : Except.Rel Eq x x := by
  cases x with
  | error err => exact .error err
  | ok a => exact .ok rfl

theorem Except.Rel.bind {ε α β γ δ : Type} {R : α → β → Prop} {S : γ → δ → Prop}
    {x : Except ε α} {y : Except ε β} {f : α → Except ε γ} {g : β → Except ε δ}
    (first : Except.Rel R x y) (next : ∀ a b, R a b → Except.Rel S (f a) (g b)) :
    Except.Rel S (x >>= f) (y >>= g) := by
  cases first with
  | error err => exact .error err
  | ok related => exact next _ _ related

theorem Except.Rel.eq_or_eq {ε α β : Type} {R : α → β → Prop} {x : Except ε α} {y : Except ε β}
    (related : Except.Rel R x y) :
    (∃ err, x = .error err ∧ y = .error err) ∨ ∃ a b, x = .ok a ∧ y = .ok b ∧ R a b := by
  cases related with
  | error err => exact Or.inl ⟨err, rfl, rfl⟩
  | ok same => exact Or.inr ⟨_, _, rfl, rfl, same⟩

variable {t t' : Task}

theorem Context.Twin.task_rel (context : c.Twin roles c') :
    Except.Rel (Task.Twin roles) c.task c'.task := by
  have current := context.current
  have name : c'.definition.name = c.definition.name := by rw [context.definition.same]
  unfold Context.task
  rw [name]
  generalize c.current = here at current
  generalize c'.current = here' at current
  cases current with
  | none => exact .error _
  | some twin => exact .ok twin

theorem Context.Twin.request_rel (context : c.Twin roles c') :
    Except.Rel ActionRequest.Alike c.request c'.request := by
  have action := context.action
  have name : c'.definition.name = c.definition.name := by rw [context.definition.same]
  unfold Context.request
  rw [name]
  generalize c.action = here at action
  generalize c'.action = here' at action
  cases action with
  | none => exact .error _
  | some same => exact .ok same

namespace UserTask

theorem part_eq (twin : t.Twin roles t') : part t' = part t := by
  unfold part Task.user?
  rw [twin.same]

theorem checkPending_eq {row row' : TaskRow} (same : row.Alike row') :
    checkPending row' = checkPending row := by
  unfold checkPending
  rw [same.status_eq, same.id_eq]

theorem checkTask_eq (twin : t.Twin roles t') {row row' : TaskRow} (same : row.Alike row') :
    checkTask t' row' = checkTask t row := by
  unfold checkTask
  rw [same.name_eq, same.id_eq, twin.name_eq]

variable {a a' : ActionRequest}

theorem checkOperator_eq (same : a.Alike a') : checkOperator a' = checkOperator a := by
  unfold checkOperator
  rw [same.row.isApprover_eq, same.row.approvers_eq, same.same]

theorem formData_eq (same : a.Alike a') (p : UserPart) : formData p a' = formData p a := by
  unfold formData
  rw [same.row.formData_eq, same.same]

theorem extParams_eq (same : a.Alike a') : extParams a' = extParams a := by
  unfold extParams
  rw [same.row.extParams_eq, same.same]

theorem closedRow_rel (same : a.Alike a') (p : UserPart) (now now' : Instant) :
    Except.Rel TaskRow.Alike (closedRow p a now) (closedRow p a' now') := by
  have action : a'.action = a.action := by rw [same.same]
  have operator : a'.operator = a.operator := by rw [same.same]
  have remark : a'.remark = a.remark := by rw [same.same]
  unfold closedRow
  rw [formData_eq same, extParams_eq same, action, operator, remark]
  cases a.action.taskStatus with
  | none => exact .error _
  | some status =>
      refine (Except.Rel.same (formData p a)).bind fun formData _ => ?_
      rintro rfl
      refine (Except.Rel.same (extParams a)).bind fun extParams _ => ?_
      rintro rfl
      exact .ok (same.row.rewrite status _ _ formData _ now now')

/-- Two plans for an action. -/
theorem plan_rel (context : c.Twin roles c') (now now' : Instant) :
    Except.Rel (fun plan plan' => plan'.1 = plan.1 ∧ plan.2.Alike plan'.2)
      (plan c now) (plan c' now') := by
  unfold plan
  refine context.task_rel.bind fun t t' twin => ?_
  rw [part_eq twin]
  refine (Except.Rel.same _).bind fun p _ => ?_
  rintro rfl
  refine context.request_rel.bind fun a a' same => ?_
  have action : a'.action = a.action := by rw [same.same]
  rw [checkPending_eq same.row, checkTask_eq twin same.row, checkOperator_eq same, action]
  dsimp only
  by_cases unsupported : (!supported.contains a.action) = true
  · rw [if_pos unsupported, if_pos unsupported]
    exact .error _
  · rw [if_neg unsupported, if_neg unsupported]
    refine (Except.Rel.same (checkPending a.row)).bind fun _ _ _ => ?_
    refine (Except.Rel.same (checkTask t a.row)).bind fun _ _ _ => ?_
    refine (Except.Rel.same (checkOperator a)).bind fun _ _ _ => ?_
    cases a.action.taskEvent with
    | none => exact .error _
    | some event =>
        refine (closedRow_rel same p now now').bind fun row row' alike => ?_
        exact .ok ⟨rfl, alike⟩

section

variable {σ : Type} [EventStore σ] {e e' : Engine TaskTable σ}

theorem insertRows_twin {rows rows' : List TaskRow} (twin : e.Twin roles e')
    (context : c.Twin roles c') (alike : List.Forall₂ TaskRow.Alike rows rows') :
    ∃ d d' fx fx', e.Does fx (insertRows c · rows) (Reply.mk (.ok ()) d) ∧
      e'.Does fx' (insertRows c' · rows') (Reply.mk (.ok ()) d') ∧
      List.Forall₂ (Effect.Twin roles) fx fx' ∧ d.Twin roles d' := by
  induction alike generalizing c c' e e' with
  | nil => exact ⟨c, c', [], [], fun _ => rfl, fun _ => rfl, .nil, context⟩
  | @cons row row' _ _ first _ ih =>
      have stored := stored_twin roles (twin.tasks.insert first)
      obtain ⟨d, d', gx, gx', does, does', twins, contexts⟩ :=
        ih (twin.performAll stored) (context.withNewTask (twin.tasks.fresh first))
      exact ⟨d, d', _ ++ gx, _ ++ gx', does.after _, does'.after _, List.rel_append stored twins,
        contexts⟩

theorem create_of_rows {p : UserPart} (isUser : part t = .ok p)
    (somebody :
      ¬ (usableNames (p.assign ({ c with current := some t } : Context).snapshot)).isEmpty)
    {d : Context} {e₁ : Engine TaskTable σ}
    (stored : insertRows { c with current := some t } e
      ((rowApprovers p.needAll (usableNames (p.assign
        ({ c with current := some t } : Context).snapshot))).map fun approvers =>
          TaskRow.waiting Task.userType c.process t.name t.displayName approvers e.now) =
        ⟨.ok (), d, e₁⟩) :
    create t c e = ⟨(e₁.notify TaskEvent.create d).1, d, (e₁.notify TaskEvent.create d).2⟩ := by
  unfold create
  rw [isUser]
  dsimp only
  rw [if_neg somebody, stored]

/-- Entering two user tasks. -/
theorem create_twin (twin : e.Twin roles e') (context : c.Twin roles c') (task : t.Twin roles t') :
    ∃ answer d d' fx fx', e.Does fx (create t c) (Reply.mk answer d) ∧
      e'.Does fx' (create t' c') (Reply.mk answer d') ∧
      List.Forall₂ (Effect.Twin roles) fx fx' ∧ d.Twin roles d' := by
  have same := part_eq task
  cases isUser : part t with
  | error err =>
      refine ⟨.error err, c, c', [], [], fun x => ?_, fun x => ?_, .nil, context⟩
      · simp only [create, isUser]
        rfl
      · simp only [create, same, isUser]
        rfl
  | ok p =>
      let here : Context := { c with current := some t }
      let here' : Context := { c' with current := some t' }
      have there : here.Twin roles here' := context.at_task task
      have names : p.assign here'.snapshot = p.assign here.snapshot := assign_eq task isUser _ _
      by_cases nobody : (usableNames (p.assign here.snapshot)).isEmpty = true
      · refine ⟨.error (.emptyApprovers t.displayName), here, here', [], [], fun x => ?_,
          fun x => ?_, .nil, there⟩
        · simp only [create, isUser]
          exact if_pos nobody
        · have displayName : t'.displayName = t.displayName := by rw [task.same]
          simp only [create, same, isUser, displayName]
          exact if_pos (names ▸ nobody)
      · have rows : List.Forall₂ TaskRow.Alike
            ((rowApprovers p.needAll (usableNames (p.assign here.snapshot))).map fun approvers =>
              TaskRow.waiting Task.userType here.process t.name t.displayName approvers e.now)
            ((rowApprovers p.needAll (usableNames (p.assign here'.snapshot))).map fun approvers =>
              TaskRow.waiting Task.userType here'.process t'.name t'.displayName approvers
                e'.now) := by
          rw [names, List.forall₂_map_left_iff, List.forall₂_map_right_iff, task.same]
          exact List.forall₂_same.2 fun approvers _ => .waiting there.process ..
        obtain ⟨d, d', fx, fx', stores, stores', stored, contexts⟩ :=
          insertRows_twin twin there rows
        obtain ⟨answer, gx, gx', tells, tells', told⟩ :=
          Engine.notify_twin (twin.performAll stored) contexts TaskEvent.create
        refine ⟨answer, d, d', fx ++ gx, fx' ++ gx', fun x => ?_, fun x => ?_,
          List.rel_append stored told, contexts⟩
        · rw [create_of_rows isUser nobody (stores x), tells.after fx x]
        · rw [create_of_rows (same.trans isUser) (names ▸ nobody) (stores' x), tells'.after fx' x]

theorem complete_of_refused {err : WorkflowError} (refused : plan c e.now = .error err) :
    complete c e = ⟨.error err, c, e⟩ := by
  unfold complete
  rw [refused]

theorem complete_of_conflict {event : TaskEvent} {row : TaskRow} {err : WorkflowError}
    {e₁ : Engine TaskTable σ} (planned : plan c e.now = .ok (event, row))
    (conflict : e.updateTask row = (.error err, e₁)) : complete c e = ⟨.error err, c, e₁⟩ := by
  unfold complete
  rw [planned]
  dsimp only
  rw [conflict]

theorem complete_of_stored {event : TaskEvent} {row saved : TaskRow} {e₁ : Engine TaskTable σ}
    (planned : plan c e.now = .ok (event, row)) (stored : e.updateTask row = (.ok saved, e₁)) :
    complete c e = ⟨(e₁.notify event (c.withRow saved)).1.map fun _ => true, c.withRow saved,
      (e₁.notify event (c.withRow saved)).2⟩ := by
  unfold complete
  rw [planned]
  dsimp only
  rw [stored]
  dsimp only
  rcases e₁.notify event (c.withRow saved) with ⟨err | ⟨⟩, e₂⟩ <;> rfl

/-- Completing two user tasks. -/
theorem complete_twin (twin : e.Twin roles e') (context : c.Twin roles c') :
    ∃ answer d d' fx fx', e.Does fx (complete c) (Reply.mk answer d) ∧
      e'.Does fx' (complete c') (Reply.mk answer d') ∧
      List.Forall₂ (Effect.Twin roles) fx fx' ∧ d.Twin roles d' := by
  rcases (plan_rel context e.now e'.now).eq_or_eq with
    ⟨err, refused, refused'⟩ | ⟨⟨event, row⟩, ⟨event', row'⟩, planned, planned', same, alike⟩
  · exact ⟨.error err, c, c', [], [], fun x => complete_of_refused refused,
      fun x => complete_of_refused refused', .nil, context⟩
  · dsimp only at same alike
    rw [same] at planned'
    rcases twin.tasks.update alike with ⟨err, conflict, conflict'⟩ | ⟨updated, updated'⟩
    · exact ⟨.error (.store err), c, c', [], [],
        fun x => complete_of_conflict (e := e.against x) planned
          (Engine.updateTask_against_of_error e x conflict),
        fun x => complete_of_conflict (e := e'.against x) planned'
          (Engine.updateTask_against_of_error e' x conflict'), .nil, context⟩
    · have stored := stored_twin roles (twin.tasks.replace alike.bumped)
      obtain ⟨answer, fx, fx', tells, tells', told⟩ :=
        Engine.notify_twin (twin.performAll stored) (context.withRow alike.bumped) event
      refine ⟨answer.map fun _ => true, _, _, _ ++ fx, _ ++ fx', fun x => ?_, fun x => ?_,
        List.rel_append stored told, context.withRow alike.bumped⟩
      · rw [complete_of_stored (e := e.against x) planned
          (Engine.updateTask_against e x updated),
          tells.after _ x]
      · rw [complete_of_stored (e := e'.against x) planned'
          (Engine.updateTask_against e' x updated'),
          tells'.after _ x]

/-- The tasks that follow two user tasks. -/
theorem next_twin (twin : e.Twin roles e') (context : c.Twin roles c') (task : t.Twin roles t') :
    ∃ answer, e.Does [] (next t c) (answer, ·) ∧ e'.Does [] (next t' c') (answer, ·) := by
  have same := part_eq task
  cases isUser : part t with
  | error err =>
      refine ⟨.error err, fun x => ?_, fun x => ?_⟩
      · simp only [next, isUser]
        rfl
      · simp only [next, same, isUser]
        rfl
  | ok p =>
      have count := twin.tasks.count_eq c.process.id t.name .pending
      by_cases all : p.needAll = true
      · refine ⟨.ok (if e.tasks.count c.process.id t.name .pending > 0 then [] else t.next),
          fun x => ?_, fun x => ?_⟩
        · simp only [next, isUser, all]
          rfl
        · simp only [next, same, isUser, all, context.process.id_eq, task.name_eq, task.next_eq,
            ← count]
          rfl
      · refine ⟨.ok t.next, fun x => ?_, fun x => ?_⟩
        · simp only [next, isUser, all]
          rfl
        · simp only [next, same, isUser, all, task.next_eq]
          rfl

end

end UserTask

/-! ## Service tasks -/

theorem Except.Rel.map_const {ε α β γ : Type} {R : α → β → Prop} {x : Except ε α} {y : Except ε β}
    (related : Except.Rel R x y) (value : γ) : y.map (fun _ => value) = x.map fun _ => value := by
  cases related <;> rfl

namespace ServiceTask

theorem check_eq (twin : t.Twin roles t') : check t' = check t := by
  unfold check Task.service?
  rw [twin.same]

theorem ensureAction_rel (context : c.Twin roles c') (task : t.Twin roles t') (operator : String) :
    Except.Rel (Context.Twin roles) (ensureAction t c operator) (ensureAction t' c' operator) := by
  have last : Option.Rel TaskRow.Alike (lastRow t c) (lastRow t' c') := by
    refine forall₂_find? ?_ (List.forall₂_reverse_iff.2 context.newTasks)
    intro row row' same
    rw [same.name_eq, task.name_eq]
  have action := context.action
  unfold ensureAction
  rw [task.name_eq]
  generalize lastRow t c = row at last
  generalize lastRow t' c' = row' at last
  cases here : c.action with
  | some a =>
      rw [here] at action
      cases here' : c'.action with
      | some a' => exact .ok context
      | none =>
          rw [here'] at action
          cases action
  | none =>
      rw [here] at action
      cases here' : c'.action with
      | some a' =>
          rw [here'] at action
          cases action
      | none =>
          cases last with
          | none => exact .error _
          | some same => exact .ok { context with action := .some ⟨rfl, same⟩ }

theorem prepare_twin (context : c.Twin roles c') (operator : String) :
    (prepare c' operator).1 = (prepare c operator).1 ∧
      (prepare c operator).2.Twin roles (prepare c' operator).2 := by
  unfold prepare
  rcases context.task_rel.eq_or_eq with ⟨err, here, here'⟩ | ⟨t, t', here, here', task⟩
  · rw [here, here']
    exact ⟨rfl, context⟩
  · rw [here, here']
    dsimp only
    rw [check_eq task]
    cases check t with
    | error err => exact ⟨rfl, context⟩
    | ok =>
        dsimp only
        rcases (ensureAction_rel context task operator).eq_or_eq with
          ⟨err, ready, ready'⟩ | ⟨d, d', ready, ready', contexts⟩
        · rw [ready, ready']
          exact ⟨rfl, context⟩
        · rw [ready, ready']
          refine ⟨?_, contexts⟩
          dsimp only
          rcases contexts.request_rel.eq_or_eq with ⟨err, acts, acts'⟩ | ⟨a, a', acts, acts', same⟩
          · rw [acts, acts']
            rfl
          · rw [acts, acts']
            change (do UserTask.checkPending a'.row; UserTask.checkTask t' a'.row) =
              (do UserTask.checkPending a.row; UserTask.checkTask t a.row)
            rw [UserTask.checkPending_eq same.row, UserTask.checkTask_eq task same.row]

section

variable {σ : Type} [EventStore σ] {e e' : Engine TaskTable σ}

theorem create_of_check (isService : check t = .ok ()) {row : TaskRow} {e₁ e₂ : Engine TaskTable σ}
    {answer : Except WorkflowError Unit}
    (stored : e.insertTask (TaskRow.waiting Task.serviceType c.process t.name t.displayName
      e.settings.systemOperator e.now) = (.ok row, e₁))
    (told : e₁.notify TaskEvent.create (({ c with current := some t } : Context).withNewTask row) =
      (answer, e₂)) :
    create t c e = ⟨answer, ({ c with current := some t } : Context).withNewTask row, e₂⟩ := by
  unfold create
  rw [isService]
  dsimp only
  rw [stored]
  dsimp only
  rw [told]

/-- Entering two service tasks. -/
theorem create_twin (twin : e.Twin roles e') (context : c.Twin roles c') (task : t.Twin roles t') :
    ∃ answer d d' fx fx', e.Does fx (create t c) (Reply.mk answer d) ∧
      e'.Does fx' (create t' c') (Reply.mk answer d') ∧
      List.Forall₂ (Effect.Twin roles) fx fx' ∧ d.Twin roles d' := by
  have same := check_eq task
  cases isService : check t with
  | error err =>
      refine ⟨.error err, c, c', [], [], fun x => ?_, fun x => ?_, .nil, context⟩
      · simp only [create, isService]
        rfl
      · simp only [create, same, isService]
        rfl
  | ok =>
      have row : (TaskRow.waiting Task.serviceType c.process t.name t.displayName
          e.settings.systemOperator e.now).Alike (TaskRow.waiting Task.serviceType c'.process
            t'.name t'.displayName e'.settings.systemOperator e'.now) := by
        rw [twin.settings.systemOperator, task.same]
        exact .waiting context.process ..
      have stored := stored_twin roles (twin.tasks.insert row)
      have contexts := (context.at_task task).withNewTask (twin.tasks.fresh row)
      obtain ⟨answer, fx, fx', tells, tells', told⟩ :=
        Engine.notify_twin (twin.performAll stored) contexts TaskEvent.create
      exact ⟨answer, _, _, _ ++ fx, _ ++ fx',
        fun x => create_of_check (e := e.against x) isService (Engine.insertTask_against e x _)
          (tells.after _ x),
        fun x => create_of_check (e := e'.against x) (same.trans isService)
          (Engine.insertTask_against e' x _) (tells'.after _ x),
        List.rel_append stored told, contexts⟩

omit [EventStore σ] in
theorem finish_of_conflict {status : TaskStatus} {remark : Option String} {a : ActionRequest}
    {err : WorkflowError} {e₁ : Engine TaskTable σ} (acts : c.request = .ok a)
    (conflict : e.updateTask (closedRow a.row status e.settings.systemOperator remark e.now) =
      (.error err, e₁)) : finish status remark c e = ⟨.error err, c, e₁⟩ := by
  unfold finish
  rw [acts]
  dsimp only
  rw [conflict]

omit [EventStore σ] in
theorem finish_of_updated {status : TaskStatus} {remark : Option String} {a : ActionRequest}
    {row : TaskRow} {e₁ : Engine TaskTable σ} (acts : c.request = .ok a)
    (updated : e.updateTask (closedRow a.row status e.settings.systemOperator remark e.now) =
      (.ok row, e₁)) : finish status remark c e = ⟨.ok row, c.withRow row, e₁⟩ := by
  unfold finish
  rw [acts]
  dsimp only
  rw [updated]

/-- Closing the rows of two service tasks. -/
theorem finish_twin (twin : e.Twin roles e') (context : c.Twin roles c') (status : TaskStatus)
    (remark : Option String) :
    ∃ result result' d d' fx fx', e.Does fx (finish status remark c) (Reply.mk result d) ∧
      e'.Does fx' (finish status remark c') (Reply.mk result' d') ∧
      List.Forall₂ (Effect.Twin roles) fx fx' ∧ d.Twin roles d' ∧
      Except.Rel TaskRow.Alike result result' := by
  rcases context.request_rel.eq_or_eq with ⟨err, acts, acts'⟩ | ⟨a, a', acts, acts', same⟩
  · refine ⟨.error err, .error err, c, c', [], [], fun x => ?_, fun x => ?_, .nil, context,
      .error err⟩
    · unfold finish
      rw [acts]
      rfl
    · unfold finish
      rw [acts']
      rfl
  · have row : (closedRow a.row status e.settings.systemOperator remark e.now).Alike
        (closedRow a'.row status e'.settings.systemOperator remark e'.now) := by
      have closed := same.row.rewrite status (some e.settings.systemOperator) remark
        a.row.formData a.row.extParams e.now e'.now
      rw [twin.settings.systemOperator]
      unfold closedRow
      rw [same.row.same] at closed ⊢
      exact closed
    rcases twin.tasks.update row with ⟨err, conflict, conflict'⟩ | ⟨updated, updated'⟩
    · exact ⟨.error (.store err), .error (.store err), c, c', [], [],
        fun x => finish_of_conflict (e := e.against x) acts
          (Engine.updateTask_against_of_error e x conflict),
        fun x => finish_of_conflict (e := e'.against x) acts'
          (Engine.updateTask_against_of_error e' x conflict'), .nil, context, .error _⟩
    · exact ⟨_, _, _, _, _, _,
        fun x => finish_of_updated (e := e.against x) acts (Engine.updateTask_against e x updated),
        fun x => finish_of_updated (e := e'.against x) acts'
          (Engine.updateTask_against e' x updated'),
        stored_twin roles (twin.tasks.replace row.bumped), context.withRow row.bumped,
        .ok row.bumped⟩

theorem complete_of_refused {err : WorkflowError} {ready : Context}
    (refused : prepare c e.settings.systemOperator = (.error err, ready)) :
    complete c e = ⟨.error err, ready, e⟩ := by
  unfold complete
  rw [refused]

theorem complete_of_success {ready d : Context} {result : Except WorkflowError TaskRow}
    {e₁ e₂ : Engine TaskTable σ}
    (prepared : prepare c e.settings.systemOperator = (.ok (), ready))
    (told : e.notify TaskEvent.complete ready = (.ok (), e₁))
    (finished : finish .completed none ready e₁ = ⟨result, d, e₂⟩) :
    complete c e = ⟨result.map fun _ => true, d, e₂⟩ := by
  unfold complete
  rw [prepared]
  dsimp only
  rw [told]
  dsimp only
  rw [finished]
  cases result <;> rfl

theorem complete_of_failure {ready d : Context} {err : WorkflowError}
    {result : Except WorkflowError TaskRow} {answer : Except WorkflowError Unit}
    {e₁ e₂ e₃ : Engine TaskTable σ}
    (prepared : prepare c e.settings.systemOperator = (.ok (), ready))
    (told : e.notify TaskEvent.complete ready = (.error err, e₁))
    (finished : finish .failed (some err.message) ready e₁ = ⟨result, d, e₂⟩)
    (failed : e₂.notify TaskEvent.fail d = (answer, e₃)) :
    complete c e = ⟨.error err, d, e₃⟩ := by
  unfold complete
  rw [prepared]
  dsimp only
  rw [told]
  dsimp only
  rw [finished, failed]

/-- Completing two service tasks. -/
theorem complete_twin (twin : e.Twin roles e') (context : c.Twin roles c') :
    ∃ answer d d' fx fx', e.Does fx (complete c) (Reply.mk answer d) ∧
      e'.Does fx' (complete c') (Reply.mk answer d') ∧
      List.Forall₂ (Effect.Twin roles) fx fx' ∧ d.Twin roles d' := by
  obtain ⟨same, contexts⟩ := prepare_twin context e.settings.systemOperator
  rcases prepared : prepare c e.settings.systemOperator with ⟨answer, ready⟩
  rcases prepared' : prepare c' e.settings.systemOperator with ⟨answer', ready'⟩
  rw [prepared, prepared'] at same contexts
  dsimp only at same contexts
  rw [same, ← twin.settings.systemOperator] at prepared'
  cases answer with
  | error err =>
      exact ⟨.error err, ready, ready', [], [],
        fun x => complete_of_refused (e := e.against x) prepared,
        fun x => complete_of_refused (e := e'.against x) prepared', .nil, contexts⟩
  | ok =>
      obtain ⟨answer, fx, fx', tells, tells', told⟩ :=
        Engine.notify_twin twin contexts TaskEvent.complete
      have later := twin.performAll told
      cases answer with
      | ok =>
          obtain ⟨result, result', d, d', gx, gx', closes, closes', closed, after, both⟩ :=
            finish_twin later contexts .completed none
          refine ⟨result.map fun _ => true, d, d', fx ++ gx, fx' ++ gx', fun x => ?_, fun x => ?_,
            List.rel_append told closed, after⟩
          · exact complete_of_success (e := e.against x) prepared (tells x) (closes.after fx x)
          · rw [← both.map_const true]
            exact complete_of_success (e := e'.against x) prepared' (tells' x)
              (closes'.after fx' x)
      | error err =>
          obtain ⟨result, result', d, d', gx, gx', closes, closes', closed, after, -⟩ :=
            finish_twin later contexts .failed (some err.message)
          have more := List.rel_append told closed
          obtain ⟨answer, hx, hx', fails, fails', failed⟩ :=
            Engine.notify_twin (twin.performAll more) after TaskEvent.fail
          exact ⟨.error err, d, d', fx ++ gx ++ hx, fx' ++ gx' ++ hx',
            fun x => complete_of_failure (e := e.against x) prepared (tells x) (closes.after fx x)
              (fails.after _ x),
            fun x => complete_of_failure (e := e'.against x) prepared' (tells' x)
              (closes'.after fx' x) (fails'.after _ x),
            List.rel_append more failed, after⟩

end

end ServiceTask

/-! ## Both ways -/

namespace Processor

theorem ofTask_eq (twin : t.Twin roles t') : ofTask t' = ofTask t := by
  unfold ofTask
  rw [twin.same]

variable {σ : Type} [EventStore σ] {e e' : Engine TaskTable σ}

theorem create_twin (p : Processor) (twin : e.Twin roles e') (context : c.Twin roles c')
    (task : t.Twin roles t') :
    ∃ answer d d' fx fx', e.Does fx (p.create t c) (Reply.mk answer d) ∧
      e'.Does fx' (p.create t' c') (Reply.mk answer d') ∧
      List.Forall₂ (Effect.Twin roles) fx fx' ∧ d.Twin roles d' := by
  cases p with
  | user => exact UserTask.create_twin twin context task
  | service => exact ServiceTask.create_twin twin context task

theorem complete_twin (p : Processor) (twin : e.Twin roles e') (context : c.Twin roles c') :
    ∃ answer d d' fx fx', e.Does fx (p.complete c) (Reply.mk answer d) ∧
      e'.Does fx' (p.complete c') (Reply.mk answer d') ∧
      List.Forall₂ (Effect.Twin roles) fx fx' ∧ d.Twin roles d' := by
  cases p with
  | user => exact UserTask.complete_twin twin context
  | service => exact ServiceTask.complete_twin twin context

theorem next_twin (p : Processor) (twin : e.Twin roles e') (context : c.Twin roles c')
    (task : t.Twin roles t') :
    ∃ answer, e.Does [] (p.next t c) (answer, ·) ∧ e'.Does [] (p.next t' c') (answer, ·) := by
  cases p with
  | user => exact UserTask.next_twin twin context task
  | service =>
      refine ⟨.ok t.next, fun x => rfl, fun x => ?_⟩
      unfold next ServiceTask.next
      rw [task.next_eq]
      rfl

end Processor

end ApprovalFlow
