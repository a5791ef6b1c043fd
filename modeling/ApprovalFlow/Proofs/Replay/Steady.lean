import ApprovalFlow.Proofs.Replay.Ending
import ApprovalFlow.Proofs.Scenario.Lookups

/-!
# What stays the same throughout a replay

Running listeners and storing rows leaves the settings, the clock and the catalogue alone, and the
definition and the form do not change either. So the listeners of a replay are those of its scenario
at every time (`Replay.Scripted`), and two times of a replay differ only in rows, events and what
has been observed (`Replay.Kin`).
-/

namespace ApprovalFlow

variable {roles : ListenerSpec → ListenerSpec → Prop}

/-- A context in a scenario is its own twin. -/
theorem Context.twin_self {c : Context} (definition : c.definition.Twin roles c.definition)
    (current : ∀ t, c.current = some t → t.Twin roles t) : c.Twin roles c := by
  refine ⟨rfl, definition, rfl, ⟨rfl, rfl⟩, ?_, ?_, ?_⟩
  · cases here : c.current with
    | none => exact .none
    | some t => exact .some (current t here)
  · cases c.action with
    | none => exact .none
    | some a => exact .some (ActionRequest.Alike.refl a)
  · exact List.forall₂_same.2 fun row _ => TaskRow.Alike.refl row

namespace Engine

variable {τ σ : Type}

/-- What running listeners and storing rows leave alone. -/
structure Steady (e e' : Engine τ σ) : Prop where
  settings : e'.settings = e.settings
  now : e'.now = e.now
  catalogue : e'.catalogue = e.catalogue

variable {e e' e'' : Engine τ σ}

theorem Steady.refl (e : Engine τ σ) : e.Steady e :=
  ⟨rfl, rfl, rfl⟩

theorem Steady.trans (left : e.Steady e') (right : e'.Steady e'') : e.Steady e'' :=
  ⟨right.settings.trans left.settings, right.now.trans left.now,
    right.catalogue.trans left.catalogue⟩

theorem Steady.symm (steady : e.Steady e') : e'.Steady e :=
  ⟨steady.settings.symm, steady.now.symm, steady.catalogue.symm⟩

theorem Heard.steady {about : Observation → Prop} {events : List Dispatch}
    (heard : Heard about events e e') : e.Steady e' :=
  ⟨heard.settings, heard.now, heard.catalogue⟩

theorem steady_insertTask [TaskStore τ] (e : Engine τ σ) (row : TaskRow) :
    e.Steady (e.insertTask row).2 :=
  ⟨rfl, rfl, rfl⟩

theorem steady_updateTask [TaskStore τ] (e : Engine τ σ) (row : TaskRow) :
    e.Steady (e.updateTask row).2 :=
  ⟨rfl, rfl, rfl⟩

/-- An engine whose listeners come from a scenario. -/
structure Scripted (roles : ListenerSpec → ListenerSpec → Prop) (e : Engine τ σ) : Prop where
  settings : e.settings.Twin roles e.settings
  catalogue : e.catalogue.Twin roles e.catalogue

theorem Scripted.of_steady (scripted : e.Scripted roles) (steady : e.Steady e') :
    e'.Scripted roles := by
  refine ⟨?_, ?_⟩
  · rw [steady.settings]
    exact scripted.settings
  · rw [steady.catalogue]
    exact scripted.catalogue

end Engine

/-! ## Steady operations -/

section Steady

variable {τ σ : Type} [TaskStore τ] [EventStore σ]

omit [EventStore σ] in
theorem UserTask.steady_insertRows (c : Context) (e : Engine τ σ) (rows : List TaskRow) :
    e.Steady (insertRows c e rows).engine := by
  induction rows generalizing c e with
  | nil => exact Engine.Steady.refl e
  | cons row rest ih =>
      have first := Engine.steady_insertTask e row
      unfold insertRows
      rcases stored : e.insertTask row with ⟨err | saved, e'⟩
      · rw [stored] at first
        exact first
      · rw [stored] at first
        exact first.trans (ih (c.withNewTask saved) e')

theorem UserTask.steady_create (t : Task) (c : Context) (e : Engine τ σ) :
    e.Steady (create t c e).engine := by
  unfold create
  cases part t with
  | error err => exact Engine.Steady.refl e
  | ok p =>
      dsimp only
      split
      · exact Engine.Steady.refl e
      · have stored := steady_insertRows { c with current := some t } e
          ((rowApprovers p.needAll (usableNames (p.assign
            { c with current := some t : Context }.snapshot))).map fun approvers =>
              TaskRow.waiting Task.userType c.process t.name t.displayName approvers e.now)
        rcases inserted : insertRows { c with current := some t } e _ with ⟨err | ⟨⟩, c', e'⟩
        · rw [inserted] at stored
          exact stored
        · rw [inserted] at stored
          exact stored.trans (Engine.heard_notify e' TaskEvent.create c').steady

theorem ServiceTask.steady_create (t : Task) (c : Context) (e : Engine τ σ) :
    e.Steady (create t c e).engine := by
  unfold create
  cases check t with
  | error err => exact Engine.Steady.refl e
  | ok =>
      have first := Engine.steady_insertTask e (TaskRow.waiting Task.serviceType c.process t.name
        t.displayName e.settings.systemOperator e.now)
      dsimp only
      rcases stored : e.insertTask _ with ⟨err | saved, e'⟩
      · rw [stored] at first
        exact first
      · rw [stored] at first
        exact first.trans (Engine.heard_notify e' TaskEvent.create _).steady

theorem Processor.steady_create (p : Processor) (t : Task) (c : Context) (e : Engine τ σ) :
    e.Steady (p.create t c e).engine := by
  cases p with
  | user => exact UserTask.steady_create t c e
  | service => exact ServiceTask.steady_create t c e

theorem UserTask.steady_complete (c : Context) (e : Engine τ σ) :
    e.Steady (complete c e).engine := by
  unfold complete
  rcases plan c e.now with err | ⟨event, row⟩
  · exact Engine.Steady.refl e
  · have first := Engine.steady_updateTask e row
    dsimp only
    rcases stored : e.updateTask row with ⟨err | saved, e'⟩
    · rw [stored] at first
      exact first
    · rw [stored] at first
      have told := (Engine.heard_notify e' event (c.withRow saved)).steady
      dsimp only
      rcases answer : e'.notify event (c.withRow saved) with ⟨err | ⟨⟩, e''⟩
      · rw [answer] at told
        exact first.trans told
      · rw [answer] at told
        exact first.trans told

omit [EventStore σ] in
theorem ServiceTask.steady_finish (status : TaskStatus) (remark : Option String) (c : Context)
    (e : Engine τ σ) : e.Steady (finish status remark c e).engine := by
  unfold finish
  cases c.request with
  | error err => exact Engine.Steady.refl e
  | ok a =>
      have first := Engine.steady_updateTask e
        (closedRow a.row status e.settings.systemOperator remark e.now)
      dsimp only
      rcases stored : e.updateTask _ with ⟨err | row, e'⟩
      · rw [stored] at first
        exact first
      · rw [stored] at first
        exact first

theorem ServiceTask.steady_complete (c : Context) (e : Engine τ σ) :
    e.Steady (complete c e).engine := by
  unfold complete
  rcases prepare c e.settings.systemOperator with ⟨err | ⟨⟩, ready⟩
  · exact Engine.Steady.refl e
  · have told := (Engine.heard_notify e TaskEvent.complete ready).steady
    dsimp only
    rcases answer : e.notify TaskEvent.complete ready with ⟨err | ⟨⟩, e'⟩
    · rw [answer] at told
      have closed := steady_finish .failed (some err.message) ready e'
      exact (told.trans closed).trans (Engine.heard_notify _ TaskEvent.fail _).steady
    · rw [answer] at told
      have closed := steady_finish .completed none ready e'
      dsimp only
      rcases finished : finish .completed none ready e' with ⟨err | row, c', e''⟩
      · rw [finished] at closed
        exact told.trans closed
      · rw [finished] at closed
        exact told.trans closed

theorem Processor.steady_complete (p : Processor) (c : Context) (e : Engine τ σ) :
    e.Steady (p.complete c e).engine := by
  cases p with
  | user => exact UserTask.steady_complete c e
  | service => exact ServiceTask.steady_complete c e

end Steady

namespace Replay

theorem steady_notifyProcess (r : Replay) (event : ProcessEvent) (c : Context) :
    r.engine.Steady (r.notifyProcess event c).2.engine :=
  (Engine.heard_notify r.engine event c).steady

theorem steady_enter (r : Replay) (t : Task) : r.engine.Steady (r.enter t).2.engine := by
  have entered := Processor.steady_create (Processor.ofTask t) t
    { r.context with current := some t } r.engine
  unfold enter
  dsimp only
  rcases created : (Processor.ofTask t).create t _ r.engine with ⟨err | ⟨⟩, c, e⟩
  · rw [created] at entered
    exact entered
  · rw [created] at entered
    dsimp only
    split
    · exact entered
    · have completed := Processor.steady_complete (Processor.ofTask t) c e
      rcases done : (Processor.ofTask t).complete c e with ⟨err | done, c', e'⟩
      · rw [done] at completed
        exact (entered.trans completed).trans
          (steady_notifyProcess { r with engine := e' } .fail c')
      · rw [done] at completed
        dsimp only
        rw [engine_next]
        exact entered.trans completed

theorem steady_visit (r : Replay) (name : String) : r.engine.Steady (r.visit name).2.engine := by
  unfold visit
  split
  · exact steady_notifyProcess _ .complete _
  · split
    · exact Engine.Steady.refl r.engine
    · exact steady_enter r _

theorem steady_transfer (r : Replay) (t : Task) (c : Context) (users : List String) :
    r.engine.Steady (r.transfer t c users).2.engine := by
  unfold transfer
  split
  · exact Engine.Steady.refl r.engine
  · exact (Engine.steady_insertTask r.engine _).trans
      (Engine.heard_notify _ TaskEvent.create _).steady

end Replay

theorem Moment.steady_next {m m' : Moment} (h : m.next = some m') :
    m.replay.engine.Steady m'.replay.engine := by
  have settled : ∀ (r : Replay) (actions : List ActionSpec) (step : String)
      (result : Except WorkflowError String),
      (settle r actions step result).replay.engine = r.engine := by
    intro r actions step result
    obtain ⟨steps, phase, same, -⟩ := settle_eq r actions step result
    rw [same]
  match m, h with
  | ⟨r, .opening, actions⟩, h =>
      have told := Replay.steady_notifyProcess r .create r.context
      rcases answer : r.notifyProcess .create r.context with ⟨err | ⟨⟩, r'⟩
      · simp only [next, answer] at h
        cases h
        rw [answer] at told
        rw [settled]
        exact told
      · simp only [next, answer] at h
        cases h
        rw [answer] at told
        exact told
  | ⟨r, .walking step before [] entered, actions⟩, h =>
      cases h
      rw [settled]
      exact Engine.Steady.refl r.engine
  | ⟨r, .walking step before (name :: rest) entered, actions⟩, h =>
      cases h
      obtain ⟨steps, same⟩ := visited_replay actions step before rest (entered ++ [name])
        (r.visit name)
      rw [same]
      exact Replay.steady_visit r name
  | ⟨r, .resting, []⟩, h => cases h
  | ⟨r, .resting, spec :: actions⟩, h =>
      rcases target : r.target spec with err | ⟨t, row⟩
      · simp only [next, target] at h
        cases h
        rw [settled]
        exact Engine.Steady.refl r.engine
      · simp only [next, target] at h
        cases h
        obtain ⟨steps, same⟩ := applied_replay r actions spec t
          ((Processor.ofTask t).complete (r.actionContext spec t row) r.engine)
        rw [same]
        exact Processor.steady_complete _ _ r.engine
  | ⟨r, .following spec t c taskId, actions⟩, h =>
      cases followed_of_next h with
      | goesOn =>
          obtain ⟨steps, same⟩ := approved_replay r actions spec t c taskId
          rw [same]
          exact Engine.Steady.refl r.engine
      | handsOver =>
          rw [settled]
          exact Replay.steady_transfer r t c spec.transferTo
      | closes =>
          unfold closed
          rw [settled]
          exact Replay.steady_notifyProcess _ _ _
      | refuses =>
          rw [settled]
          exact Engine.Steady.refl r.engine
  | ⟨r, .broken failure, actions⟩, h => cases h

/-! ## Two times of a replay -/

namespace Replay

/-- A replay whose listeners, tasks and selectors come from a scenario. -/
structure Scripted (roles : ListenerSpec → ListenerSpec → Prop) (r : Replay) : Prop where
  engine : r.engine.Scripted roles
  definition : r.definition.Twin roles r.definition

/-- One replay at two times, or two replays whose listeners hear of the same things. -/
structure Kin (r r' : Replay) : Prop where
  definition : r'.definition = r.definition
  form : r'.form = r.form
  engine : r.engine.Steady r'.engine

variable {r r' r'' : Replay} {t : Task}

theorem Kin.refl (r : Replay) : r.Kin r :=
  ⟨rfl, rfl, Engine.Steady.refl _⟩

theorem Kin.symm (kin : r.Kin r') : r'.Kin r :=
  ⟨kin.definition.symm, kin.form.symm, kin.engine.symm⟩

theorem Kin.trans (left : r.Kin r') (right : r'.Kin r'') : r.Kin r'' :=
  ⟨right.definition.trans left.definition, right.form.trans left.form,
    left.engine.trans right.engine⟩

theorem kin_notifyProcess (r : Replay) (event : ProcessEvent) (c : Context) :
    r.Kin (r.notifyProcess event c).2 :=
  ⟨rfl, rfl, steady_notifyProcess r event c⟩

theorem kin_visit (r : Replay) (name : String) : r.Kin (r.visit name).2 :=
  ⟨(onward_visit r name).definition, (onward_visit r name).form, steady_visit r name⟩

theorem Scripted.of_kin (scripted : r.Scripted roles) (kin : r.Kin r') : r'.Scripted roles :=
  ⟨scripted.engine.of_steady kin.engine, kin.definition ▸ scripted.definition⟩

theorem Scripted.task (scripted : r.Scripted roles) {name : String}
    (there : r.definition.task? name = some t) : t.Twin roles t := by
  have related := scripted.definition.task? name
  rw [there] at related
  cases related with
  | some own => exact own

theorem Scripted.actionContext (scripted : r.Scripted roles)
    (has : r.definition.Has t) (spec : ActionSpec) (row : TaskRow) :
    (r.actionContext spec t row).Twin roles (r.actionContext spec t row) := by
  refine Context.twin_self scripted.definition ?_
  rintro t' ⟨⟩
  exact scripted.task has

theorem sound_visit (sound : r.engine.tasks.Sound) (name : String) :
    (r.visit name).2.engine.tasks.Sound := by
  by_cases goesOn : name = ProcessDefinition.endName
  · rw [goesOn, (ended_visit r).tasks]
    exact sound
  · exact ((worked_visit sound goesOn).engine.moves.grows sound).1

end Replay

/-! ## Accepted scenarios -/

theorem Scenario.scripted_of_build {s : Scenario} {now : Instant} {b : BuiltScenario}
    (built : s.build now = .ok b) (config : WorkflowConfig) (time : Instant) :
    (b.replay config time).Scripted fun l l' => (l, l') ∈ s.listeners.zip s.listeners := by
  obtain ⟨b', built', twin, -, -⟩ := twin_of_build (Variant.refl s) built now
  have same : b' = b := Except.ok.inj (built'.symm.trans built)
  rw [same] at twin
  exact ⟨⟨⟨twin.processManager, twin.taskManager, rfl⟩, twin.catalogue⟩, twin.definition⟩

theorem Moment.Leads.scripted {m m' : Moment} (leads : Leads m m') (orderly : m.Orderly)
    (scripted : m.replay.Scripted roles) : m'.replay.Scripted roles := by
  induction leads with
  | refl => exact scripted
  | tail on h ih =>
      have now := Leads.orderly on orderly
      have kept := ((next_cases now.sound h).keeps now.sound).1
      exact ⟨ih.engine.of_steady (steady_next h), kept ▸ ih.definition⟩

end ApprovalFlow
