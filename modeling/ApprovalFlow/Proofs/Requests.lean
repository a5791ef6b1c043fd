import ApprovalFlow.Proofs.Effects
import ApprovalFlow.Proofs.Replay.Course
import ApprovalFlow.Proofs.Tasks.Completion

/-!
# What a replay asks of the engine

Whatever is done in a replay, two things are asked of the engine: to store rows, and to notify of an
event, of the process itself or of one of its tasks. All contexts in which it is asked are about the
same process and the same group, from the first moment to the last.

* `Engine.Request`: one thing that is asked of the engine.
* `Processor.fair_create`, `Processor.fair_complete`: what entering and completing a task asks.
* `Moment.Follows.of_next`: what a move asks, and the context that it carries on.
* `Moment.Leads.follows`, `Replay.served_goes`: what a replay asks as far as it goes.
-/

namespace ApprovalFlow

/-- What all that is done for a process is about: the process itself and the group it works on. -/
structure Concern where
  definition : ProcessDefinition
  groupId : Option String

/-- A context is about a concern: it is at the process, or at one of its tasks. -/
structure Context.Within (c : Context) (d : Concern) : Prop where
  definition : c.definition = d.definition
  groupId : c.groupId = d.groupId
  current : ∀ t, c.current = some t → d.definition.Has t

theorem Context.Within.at_task {c : Context} {d : Concern} (within : c.Within d)
    {t : Task} (has : d.definition.Has t) :
    ({ c with current := some t } : Context).Within d := by
  refine ⟨within.definition, within.groupId, ?_⟩
  rintro t' ⟨⟩
  exact has

theorem Context.within_base (definition : ProcessDefinition) (process : ProcessRow)
    (form : Option ProcessForm) : (Context.base definition process form).Within
      ⟨definition, (Context.base definition process form).groupId⟩ := by
  refine ⟨rfl, rfl, ?_⟩
  rintro t ⟨⟩

variable {d : Concern}

namespace Engine

/-- One thing that is asked of the engine on behalf of a process. -/
inductive Request (d : Concern) (e : Engine TaskTable EventLog) :
    Engine TaskTable EventLog → Prop
  | stores (tasks : TaskTable) : Request d e { e with tasks := tasks }
  | notifiesProcess (event : ProcessEvent) {c : Context} : c.Within d →
    Request d e (e.notify event c).2
  | notifiesTask (event : TaskEvent) {c : Context} : c.Within d →
    Request d e (e.notify event c).2

/-- Some things are asked of the engine, one after the other. -/
abbrev Served (d : Concern) : Engine TaskTable EventLog → Engine TaskTable EventLog → Prop :=
  Relation.ReflTransGen (Request d)

variable {e e' : Engine TaskTable EventLog}

theorem served_updateTask (served : Served d e e') (row : TaskRow) :
    Served d e (e'.updateTask row).2 :=
  served.tail (.stores _)

end Engine

/-- What an operation asks of the engine, and the context that it leaves. -/
structure Reply.Fair {α : Type} (d : Concern) (e : Engine TaskTable EventLog)
    (reply : Reply TaskTable EventLog α) : Prop where
  served : Engine.Served d e reply.engine
  within : reply.context.Within d

/-! ## Entering tasks -/

section Operations

variable {c : Context} {e : Engine TaskTable EventLog} {t : Task}

theorem UserTask.fair_insertRows (within : c.Within d) (rows : List TaskRow) :
    (insertRows c e rows).Fair d e := by
  induction rows generalizing c e with
  | nil => exact ⟨Relation.ReflTransGen.refl, within⟩
  | cons row rest ih =>
      have later := ih (c := c.withNewTask (e.tasks.fresh row))
        (e := { e with tasks := e.tasks.insert row })
        ⟨within.definition, within.groupId, within.current⟩
      exact ⟨.head (.stores _) later.served, later.within⟩

theorem UserTask.fair_create (within : c.Within d) (has : d.definition.Has t) :
    (create t c e).Fair d e := by
  unfold create
  cases part t with
  | error err => exact ⟨Relation.ReflTransGen.refl, within⟩
  | ok p =>
      dsimp only
      split
      · exact ⟨Relation.ReflTransGen.refl, within.at_task has⟩
      · generalize List.map _ _ = rows
        have stored := fair_insertRows (e := e) (within.at_task has) rows
        rcases inserted : insertRows { c with current := some t } e rows with ⟨err | ⟨⟩, c', e'⟩
        · rw [inserted] at stored
          exact stored
        · rw [inserted] at stored
          exact ⟨stored.served.tail (.notifiesTask .create stored.within), stored.within⟩

theorem ServiceTask.fair_create (within : c.Within d) (has : d.definition.Has t) :
    (create t c e).Fair d e := by
  unfold create
  cases check t with
  | error err => exact ⟨Relation.ReflTransGen.refl, within⟩
  | ok =>
      dsimp only
      generalize TaskRow.waiting .. = row
      have ready : (({ c with current := some t } : Context).withNewTask
          (e.tasks.fresh row)).Within d :=
        ⟨(within.at_task has).definition, within.groupId, (within.at_task has).current⟩
      exact ⟨.tail (.single (.stores _)) (.notifiesTask .create ready), ready⟩

theorem Processor.fair_create (p : Processor) (within : c.Within d) (has : d.definition.Has t) :
    (p.create t c e).Fair d e := by
  cases p with
  | user => exact UserTask.fair_create within has
  | service => exact ServiceTask.fair_create within has

/-! ## Completing tasks -/

theorem Context.Within.withRow (within : c.Within d) (row : TaskRow) : (c.withRow row).Within d :=
  ⟨within.definition, within.groupId, within.current⟩

theorem UserTask.fair_complete (within : c.Within d) : (complete c e).Fair d e := by
  unfold complete
  rcases plan c e.now with err | ⟨event, row⟩
  · exact ⟨Relation.ReflTransGen.refl, within⟩
  · have asked := Engine.served_updateTask (d := d) (e := e) Relation.ReflTransGen.refl row
    dsimp only
    rcases updated : e.updateTask row with ⟨err | stored, e'⟩
    · rw [updated] at asked
      exact ⟨asked, within⟩
    · rw [updated] at asked
      have ready := within.withRow stored
      have told := asked.tail (.notifiesTask event ready)
      dsimp only
      rcases answer : e'.notify event (c.withRow stored) with ⟨err | ⟨⟩, e''⟩
      · rw [answer] at told
        exact ⟨told, ready⟩
      · rw [answer] at told
        exact ⟨told, ready⟩

theorem ServiceTask.within_prepare (within : c.Within d) (operator : String) :
    (prepare c operator).2.Within d := by
  rcases prepare_cases c operator with ⟨t, row, -, answer⟩ |
    ⟨err, c', -, answer, rfl | ⟨row, rfl⟩⟩
  all_goals
    rw [answer]
    exact ⟨within.definition, within.groupId, within.current⟩

theorem ServiceTask.fair_finish (within : c.Within d) (status : TaskStatus)
    (remark : Option String) : (finish status remark c e).Fair d e := by
  unfold finish
  cases c.request with
  | error err => exact ⟨Relation.ReflTransGen.refl, within⟩
  | ok a =>
      have asked := Engine.served_updateTask (d := d) (e := e) Relation.ReflTransGen.refl
        (closedRow a.row status e.settings.systemOperator remark e.now)
      dsimp only
      rcases updated : e.updateTask _ with ⟨err | stored, e'⟩
      · rw [updated] at asked
        exact ⟨asked, within⟩
      · rw [updated] at asked
        exact ⟨asked, within.withRow stored⟩

theorem ServiceTask.fair_complete (within : c.Within d) : (complete c e).Fair d e := by
  have prepared := within_prepare within e.settings.systemOperator
  unfold complete
  rcases checked : prepare c e.settings.systemOperator with ⟨err | ⟨⟩, ready⟩
  · rw [checked] at prepared
    exact ⟨Relation.ReflTransGen.refl, prepared⟩
  · rw [checked] at prepared
    have told : Engine.Served d e (e.notify TaskEvent.complete ready).2 :=
      .single (.notifiesTask .complete prepared)
    dsimp only
    rcases answer : e.notify TaskEvent.complete ready with ⟨err | ⟨⟩, e'⟩
    · rw [answer] at told
      have closed := fair_finish (e := e') prepared .failed (some err.message)
      exact ⟨(told.trans closed.served).tail (.notifiesTask .fail closed.within), closed.within⟩
    · rw [answer] at told
      have closed := fair_finish (e := e') prepared .completed none
      dsimp only
      rcases finished : finish .completed none ready e' with ⟨err | row, c', e''⟩
      · rw [finished] at closed
        exact ⟨told.trans closed.served, closed.within⟩
      · rw [finished] at closed
        exact ⟨told.trans closed.served, closed.within⟩

theorem Processor.fair_complete (p : Processor) (within : c.Within d) :
    (p.complete c e).Fair d e := by
  cases p with
  | user => exact UserTask.fair_complete within
  | service => exact ServiceTask.fair_complete within

end Operations

/-! ## Replays -/

namespace Replay

/-- What a replay is about. -/
def concern (r : Replay) : Concern :=
  ⟨r.definition, r.context.groupId⟩

/-- A replay has gone on, and has asked some things of the engine. -/
structure Served (r r' : Replay) : Prop where
  concern : r'.concern = r.concern
  engine : Engine.Served r.concern r.engine r'.engine

variable {r r' r'' : Replay}

theorem Served.refl (r : Replay) : r.Served r :=
  ⟨rfl, Relation.ReflTransGen.refl⟩

theorem Served.trans (left : r.Served r') (right : r'.Served r'') : r.Served r'' := by
  have later := right.engine
  rw [left.concern] at later
  exact ⟨right.concern.trans left.concern, left.engine.trans later⟩

theorem served_notifyProcess (r : Replay) (event : ProcessEvent) {c : Context}
    (within : c.Within r.concern) : r.Served (r.notifyProcess event c).2 :=
  ⟨rfl, .single (.notifiesProcess event within)⟩

theorem served_close (r : Replay) (status : ProcessStatus) (event : ProcessEvent) :
    r.Served (r.close status event).2 :=
  ⟨rfl, .single (.notifiesProcess event (Context.within_base ..))⟩

theorem served_enter {t : Task} (has : r.definition.Has t) : r.Served (r.enter t).2 := by
  have created := (Processor.ofTask t).fair_create (e := r.engine)
    ((Context.within_base r.definition r.process r.form).at_task has) has
  unfold enter
  dsimp only
  change (Reply.Fair r.concern r.engine ((Processor.ofTask t).create t
    { r.context with current := some t } r.engine)) at created
  rcases entered : (Processor.ofTask t).create t _ r.engine with ⟨err | ⟨⟩, c, e⟩
  · rw [entered] at created
    exact ⟨rfl, created.served⟩
  · rw [entered] at created
    dsimp only
    split
    · exact ⟨rfl, created.served⟩
    · have completed := (Processor.ofTask t).fair_complete (e := e) created.within
      rcases answer : (Processor.ofTask t).complete c e with ⟨err | done, c', e'⟩
      · rw [answer] at completed
        have both : r.Served { r with engine := e' } :=
          ⟨rfl, created.served.trans completed.served⟩
        exact both.trans (served_notifyProcess _ .fail completed.within)
      · rw [answer] at completed
        dsimp only
        rw [engine_next]
        exact ⟨rfl, created.served.trans completed.served⟩

theorem served_visit (r : Replay) (name : String) : r.Served (r.visit name).2 := by
  unfold visit
  split
  · exact served_close r .completed .complete
  · unfold task
    cases found : r.definition.task? name with
    | none => exact Served.refl r
    | some t => exact served_enter (ProcessDefinition.has_of_task? found).1

theorem served_transfer {t : Task} {c : Context} (within : c.Within r.concern)
    (users : List String) : r.Served (r.transfer t c users).2 := by
  unfold transfer
  split
  · exact Served.refl r
  · exact ⟨rfl, .tail (.single (.stores _))
      (.notifiesTask .create ⟨within.definition, within.groupId, within.current⟩)⟩

theorem within_actionContext {t : Task} (has : r.definition.Has t) (spec : ActionSpec)
    (row : TaskRow) : (r.actionContext spec t row).Within r.concern := by
  refine ⟨rfl, rfl, ?_⟩
  rintro t' ⟨⟩
  exact has

end Replay

/-! ## Every move goes on with the same concern -/

/-- The context that what follows from an action is to be done in. -/
def Phase.context? : Phase → Option Context
  | .following _ _ c _ => some c
  | _ => none

theorem Phase.Settled.context? {phase : Phase} (settled : phase.Settled) :
    phase.context? = none := by
  cases settled <;> rfl

namespace Moment

/-- A moment comes after a replay: some things have been asked of the engine, and the context that
is carried on, if there is one, is about what the replay is about. -/
structure Follows (r : Replay) (m : Moment) : Prop where
  served : r.Served m.replay
  carried : ∀ c, m.phase.context? = some c → c.Within r.concern

variable {r r' : Replay} {m m' : Moment}

theorem Follows.of_served (served : r.Served m.replay) (none : m.phase.context? = none) :
    Follows r m := by
  refine ⟨served, ?_⟩
  intro c carried
  rw [none] at carried
  cases carried

theorem follows_settle (served : r.Served r') (actions : List ActionSpec) (step : String)
    (result : Except WorkflowError String) : Follows r (settle r' actions step result) := by
  obtain ⟨steps, phase, same, settled⟩ := settle_eq r' actions step result
  rw [same]
  exact .of_served ⟨served.concern, served.engine⟩ settled.context?

theorem follows_visited (r : Replay) (actions : List ActionSpec) (step before name : String)
    (rest entered : List String) :
    Follows r (visited actions step before rest entered (r.visit name)) := by
  have served := r.served_visit name
  rcases answer : r.visit name with ⟨err | names, r'⟩
  · rw [answer] at served
    exact follows_settle served actions step _
  · rw [answer] at served
    exact .of_served served rfl

theorem follows_applied {t : Task} (has : r.definition.Has t) (spec : ActionSpec) (row : TaskRow)
    (actions : List ActionSpec) : Follows r (applied r actions spec t
      ((Processor.ofTask t).complete (r.actionContext spec t row) r.engine)) := by
  have completed := (Processor.ofTask t).fair_complete (e := r.engine)
    (Replay.within_actionContext has spec row)
  rcases answer : (Processor.ofTask t).complete (r.actionContext spec t row) r.engine with
    ⟨err | done, c, e⟩
  all_goals
    rw [answer] at completed
    have served : r.Served { r with engine := e } := ⟨rfl, completed.served⟩
  · exact follows_settle served actions _ _
  · unfold applied
    dsimp only
    cases c.request with
    | error err => exact follows_settle served actions _ _
    | ok a =>
        refine ⟨served, ?_⟩
        rintro c' ⟨⟩
        exact completed.within

theorem follows_approved (r : Replay) (actions : List ActionSpec) (spec : ActionSpec) (t : Task)
    (c : Context) (taskId : Int) :
    Follows r (approved r actions spec taskId ((Processor.ofTask t).next t c r.engine)) := by
  have kept := Replay.engine_next (Processor.ofTask t) t c r.engine
  rcases answer : (Processor.ofTask t).next t c r.engine with ⟨err | ⟨_ | ⟨name, rest⟩⟩, e⟩
  all_goals
    rw [answer] at kept
    cases kept
  · exact follows_settle (Replay.Served.refl r) actions _ (.error err)
  · exact follows_settle (Replay.Served.refl r) actions _ (.ok _)
  · exact .of_served (Replay.Served.refl r) rfl

/-- What follows from an action is done in the context that is carried on. -/
theorem Followed.follows {spec : ActionSpec} {t : Task} {c : Context} {taskId : Int}
    {actions : List ActionSpec} (within : c.Within r.concern)
    (followed : Followed r spec t c taskId actions m) : Follows r m := by
  cases followed with
  | goesOn => exact follows_approved r actions spec t c taskId
  | handsOver => exact follows_settle (Replay.served_transfer within spec.transferTo) actions _ _
  | closes => exact follows_settle (r.served_close _ _) actions _ _
  | refuses => exact follows_settle (Replay.Served.refl r) actions _ _

theorem Follows.of_next (carried : ∀ c, m.phase.context? = some c → c.Within m.replay.concern)
    (h : m.next = some m') : Follows m.replay m' := by
  match m, h with
  | ⟨r, .opening, actions⟩, h =>
      have told := r.served_notifyProcess .create (c := r.context) (Context.within_base ..)
      rcases answer : r.notifyProcess .create r.context with ⟨err | ⟨⟩, r'⟩
      · simp only [next, answer] at h
        cases h
        rw [answer] at told
        exact follows_settle told actions _ _
      · simp only [next, answer] at h
        cases h
        rw [answer] at told
        exact .of_served told rfl
  | ⟨r, .walking step before [] entered, actions⟩, h =>
      cases h
      exact follows_settle (Replay.Served.refl r) actions _ _
  | ⟨r, .walking step before (name :: rest) entered, actions⟩, h =>
      cases h
      exact follows_visited r actions step before name rest _
  | ⟨r, .resting, []⟩, h => cases h
  | ⟨r, .resting, spec :: actions⟩, h =>
      rcases target : r.target spec with err | ⟨t, row⟩
      · simp only [next, target] at h
        cases h
        exact follows_settle (Replay.Served.refl r) actions _ _
      · simp only [next, target] at h
        cases h
        exact follows_applied (Replay.targets_of_target target).task spec row actions
  | ⟨r, .following spec t c taskId, actions⟩, h =>
      exact (followed_of_next h).follows (carried c rfl)
  | ⟨r, .broken failure, actions⟩, h => cases h

/-- All moments of a replay are about what it is about. -/
theorem Leads.follows {actions : List ActionSpec} (leads : Leads (.begun r actions) m) :
    Follows r m := by
  induction leads with
  | refl => exact .of_served (Replay.Served.refl r) rfl
  | tail _ h ih =>
      have carried := ih.carried
      rw [← ih.served.concern] at carried
      have step := Follows.of_next carried h
      refine ⟨ih.served.trans step.served, ?_⟩
      rw [← ih.served.concern]
      exact step.carried

end Moment

/-- What is asked of the engine as far as a replay goes. -/
theorem Replay.served_goes {r r' : Replay} {actions : List ActionSpec} (goes : r.Goes actions r') :
    r.Served r' :=
  (Moment.leads_goes goes []).follows.served

end ApprovalFlow
