import ApprovalFlow.Proofs.Audit.Notices
import ApprovalFlow.Proofs.Replay.Refusals
import ApprovalFlow.Proofs.Requests
import ApprovalFlow.Proofs.Scenario.Posts
import ApprovalFlow.Proofs.Scenario.Runs

/-!
# Whose answers are on record

Names of listeners are unique within a registry only, so the name in a row of the event log does not
yet say whose answer the row records. It is the answer of a listener of the scenario that listens
where the row says that the event happened.

* `Engine.runs_notify`: a notification runs, or leaves to a pool, what it finds for its event.
* `Engine.Request.runs`: whatever is asked of the engine of a scenario, it runs the listeners of the
  scenario, each in its place.
* `Scenario.exists_listener_of_goes`: the rows in the report of a replay.
-/

namespace ApprovalFlow

/-! ## What is run -/

namespace Engine

/-- Between two states of the engine some listeners are run or left to a pool, and all these runs
have a property. -/
def Runs (own : Invocation → Prop) (e e' : Engine TaskTable EventLog) : Prop :=
  ∃ fx, e' = e.performAll fx ∧ ∀ i ∈ fx.filterMap Effect.run?, own i

variable {own : Invocation → Prop} {e e' e'' : Engine TaskTable EventLog}

theorem Runs.refl (e : Engine TaskTable EventLog) : Runs own e e :=
  ⟨[], rfl, fun _ member => by cases member⟩

theorem Runs.trans (left : Runs own e e') (right : Runs own e' e'') : Runs own e e'' := by
  obtain ⟨fx, rfl, first⟩ := left
  obtain ⟨gx, rfl, last⟩ := right
  refine ⟨fx ++ gx, (performAll_append e fx gx).symm, ?_⟩
  intro i member
  rw [List.filterMap_append] at member
  rcases List.mem_append.1 member with early | late
  · exact first i early
  · exact last i late

/-- Storing rows and noting observations runs nothing. -/
theorem runs_of_silent {x : Effect} (silent : x.run? = none) : Runs own e (e.perform x) := by
  refine ⟨[x], rfl, ?_⟩
  intro i member
  rw [List.filterMap_cons, silent] at member
  cases member

/-- A notification runs, or leaves to a pool, nothing but what it finds. -/
theorem runs_notify {ε : Type} [EventScope ε] (event : ε) (c : Context)
    (all : ∀ element, EventScope.element ε c = .ok element → ∀ l isAsync,
      EventScope.Finds e.settings e.catalogue c event l isAsync →
        own (l.invocation element c.snapshot isAsync)) :
    Runs own e (e.notify event c).2 := by
  rw [notify_eq_play]
  refine ⟨_, rfl, fun i member => ?_⟩
  obtain ⟨x, done, run⟩ := List.mem_filterMap.1 member
  obtain ⟨os, rfl, -⟩ | ⟨element, l, isAsync, here, finds, rfl⟩ := Script.mem_ofEvent done
  · cases run
  · rw [Invocation.run?_effect] at run
    cases run
    exact all element here l isAsync finds

end Engine

/-! ## Where a listener listens -/

/-- A listener with this target listens to what a row of the event log is about. -/
def ListenerTarget.Hears (d : ProcessDefinition) (eventType element : String) :
    ListenerTarget → Prop
  | managerProcess | process => eventType = Family.process.name ∧ element = d.name
  | managerTask => eventType = Family.task.name ∧ ∃ t, d.Has t ∧ element = t.name
  | task name => eventType = Family.task.name ∧ element = name
  | service category _ => eventType = Family.task.name ∧ ∃ t part, d.Has t ∧ element = t.name ∧
      t.kind = .service part ∧ category ∈ part.types.map (·.category)

/-- A run of a listener of the scenario where it listens. -/
def Scenario.Casts (s : Scenario) (d : ProcessDefinition) (i : Invocation) : Prop :=
  ∃ l ∈ s.listeners, l.target.Hears d i.family.name i.element.name ∧ i.Of l

section Casts

variable {ε : Type} [EventFamily ε] {s : Scenario} {target : ListenerTarget} {l : Listener ε}
  {isAsync : Bool} {d : ProcessDefinition}

theorem Listener.From.casts (own : l.From s target) (mode : l.isAsync = isAsync)
    {element : Element} (hears : target.Hears d (EventFamily.family ε).name element.name)
    (snapshot : Snapshot) : s.Casts d (l.invocation element snapshot isAsync) := by
  obtain ⟨spec, member, rfl, built⟩ := own
  exact ⟨spec, member, hears, spec.invocation_of built element snapshot mode⟩

/-- What a registry of the scenario's listeners has for an event. -/
theorem Registry.Posted.from {r : Registry ε} (posted : r.Posted s target) {event : ε}
    (offers : (r.groups event).Offers l isAsync) : l.From s target ∧ l.isAsync = isAsync := by
  cases isAsync with
  | false =>
      have there : l ∈ r.sync event := offers
      obtain ⟨l', twin⟩ := Engine.exists_twin_of_mem (posted.sync event) there
      exact ⟨twin.from, posted.inLine event l there⟩
  | true =>
      have there : l ∈ r.async event := offers
      obtain ⟨l', twin⟩ := Engine.exists_twin_of_mem (posted.async event) there
      exact ⟨twin.from, posted.inPool event l there⟩

end Casts

/-- What the catalogue supplies to a task. -/
theorem Catalogue.Posted.from {catalogue : Catalogue} {s : Scenario}
    (posted : catalogue.Posted s) {t : Task} {snapshot : Snapshot} {l : Listener TaskEvent}
    (supplied : l ∈ t.catalogued catalogue snapshot) :
    ∃ part category selector, t.kind = .service part ∧ category ∈ part.types.map (·.category) ∧
      l.From s (.service category selector) := by
  unfold Task.catalogued at supplied
  cases kind : t.kind with
  | user part =>
      rw [kind] at supplied
      cases supplied
  | service part =>
      rw [kind] at supplied
      obtain ⟨taskType, listed, accepted⟩ := List.mem_flatMap.1 supplied
      rw [catalogue.accepted_eq] at accepted
      obtain ⟨g, gated, rfl⟩ := List.mem_map.1 accepted
      obtain ⟨selector, own⟩ := posted taskType.category g (List.mem_filter.1 gated).1
      exact ⟨part, taskType.category, selector, rfl,
        List.mem_map.2 ⟨taskType, listed, rfl⟩, own⟩

/-! ## The engine of a scenario -/

namespace Engine

/-- The engine holds the listeners of an accepted scenario. -/
structure Holds (b : BuiltScenario) (e : Engine TaskTable EventLog) : Prop where
  processManager : e.settings.processManager = b.processManager
  taskManager : e.settings.taskManager = b.taskManager
  catalogue : e.catalogue = b.catalogue

variable {b : BuiltScenario} {e e' : Engine TaskTable EventLog} {s : Scenario} {now : Instant}
  {c : Context} {d : Concern}

theorem Holds.of_steady (holds : e.Holds b) (steady : e.Steady e') : e'.Holds b := by
  refine ⟨?_, ?_, steady.catalogue.trans holds.catalogue⟩
  · rw [steady.settings]
    exact holds.processManager
  · rw [steady.settings]
    exact holds.taskManager

theorem casts_process (holds : e.Holds b) (posted : b.Posted s) (within : c.Within d)
    (about : d.definition = b.definition) {event : ProcessEvent} {element : Element}
    (there : EventScope.element ProcessEvent c = .ok element) {l : Listener ProcessEvent}
    {isAsync : Bool} (finds : EventScope.Finds e.settings e.catalogue c event l isAsync) :
    s.Casts b.definition (l.invocation element c.snapshot isAsync) := by
  cases there
  have definition := within.definition.trans about
  have name : c.definition.name = b.definition.name := congrArg _ definition
  rcases finds with managed | ⟨g, found, served⟩
  · have manager : (e.settings.processManager.groups event).Offers l isAsync := managed
    rw [holds.processManager] at manager
    obtain ⟨own, mode⟩ := posted.processManager.from manager
    exact own.casts mode ⟨rfl, name⟩ _
  · cases found
    rw [definition] at served
    obtain ⟨own, mode⟩ := posted.process.from served
    exact own.casts mode ⟨rfl, name⟩ _

theorem casts_task (built : s.build now = .ok b) (holds : e.Holds b)
    (within : c.Within d) (about : d.definition = b.definition) {event : TaskEvent}
    {element : Element} (there : EventScope.element TaskEvent c = .ok element)
    {l : Listener TaskEvent} {isAsync : Bool}
    (finds : EventScope.Finds e.settings e.catalogue c event l isAsync) :
    s.Casts b.definition (l.invocation element c.snapshot isAsync) := by
  have posted := Scenario.posted_of_build built
  obtain ⟨t, task, at_task⟩ : ∃ t, c.task = .ok t ∧ element = ⟨t.name, t.displayName⟩ := by
    simp only [EventScope.element] at there
    cases task : c.task with
    | error err =>
        rw [task] at there
        cases there
    | ok t =>
        rw [task] at there
        cases there
        exact ⟨t, rfl, rfl⟩
  have has := about ▸ within.current t (Context.task_eq_ok_iff.1 task)
  have name : element.name = t.name := by rw [at_task]
  rcases finds with managed | ⟨g, found, served⟩
  · have manager : (e.settings.taskManager.groups event).Offers l isAsync := managed
    rw [holds.taskManager] at manager
    obtain ⟨own, mode⟩ := posted.taskManager.from manager
    exact own.casts mode ⟨rfl, t, has, name⟩ _
  · have member := List.mem_of_find?_eq_some has
    obtain ⟨spec, -, kind⟩ := Scenario.kind_of_build built member
    have groups : g = t.groups event (t.catalogued e.catalogue c.snapshot) := by
      simp only [EventScope.groups, task, Task.lookupGroups, Task.listeners_supply,
        Task.supplied_of_scripted (TaskKindSpec.scripted_of_build kind)] at found
      exact (Except.ok.inj found).symm
    rw [groups] at served
    rcases Task.offers_groups served with registered | ⟨supplied, -, mode⟩
    · obtain ⟨own, mode⟩ := (posted.tasks t member).from registered
      exact own.casts mode ⟨rfl, name⟩ _
    · rw [holds.catalogue] at supplied
      obtain ⟨part, category, selector, kind, listed, own⟩ := posted.catalogue.from supplied
      exact own.casts mode ⟨rfl, t, part, has, name, kind, listed⟩ _

theorem Request.steady (request : Request d e e') : e.Steady e' := by
  cases request with
  | stores tasks => exact ⟨rfl, rfl, rfl⟩
  | notifiesProcess event => exact (heard_notify e event _).steady
  | notifiesTask event => exact (heard_notify e event _).steady

theorem Request.runs (request : Request d e e') (about : d.definition = b.definition)
    (built : s.build now = .ok b) (holds : e.Holds b) : Runs (s.Casts b.definition) e e' := by
  cases request with
  | stores tasks => exact runs_of_silent (x := .stored tasks) rfl
  | notifiesProcess event within =>
      exact runs_notify event _ fun element there l isAsync finds =>
        casts_process holds (Scenario.posted_of_build built) within about there finds
  | notifiesTask event within =>
      exact runs_notify event _ fun element there l isAsync finds =>
        casts_task built holds within about there finds

theorem Served.runs (served : Served d e e') (about : d.definition = b.definition)
    (built : s.build now = .ok b) (holds : e.Holds b) :
    e'.Holds b ∧ Runs (s.Casts b.definition) e e' := by
  induction served with
  | refl => exact ⟨holds, Runs.refl e⟩
  | tail _ request ih =>
      obtain ⟨holds, runs⟩ := ih
      exact ⟨holds.of_steady request.steady, runs.trans (request.runs about built holds)⟩

/-- What is in the log when the pools have been drained. -/
theorem Runs.exists_of_mem {own : Invocation → Prop} (runs : Runs own e e')
    (opening : Floor.Opening e) {row : EventRow} (member : row ∈ e'.drain.events.rows) :
    ∃ i, own i ∧ i.record = row.erased := by
  obtain ⟨fx, rfl, all⟩ := runs
  obtain ⟨steps, done⟩ := opening.steps_sequential fx
  have log := (opening.of_done steps done).2
  obtain ⟨i, ran, same⟩ := List.mem_map.1 (log.subset (List.mem_map_of_mem member))
  exact ⟨i, all i ran, same⟩

end Engine

theorem Invocation.family_record (i : Invocation) : i.record.eventType = i.family.name := by
  unfold record
  cases i.outcome <;> rfl

theorem Invocation.groupId_record (i : Invocation) : i.record.groupId = i.snapshot.groupId := by
  unfold record
  cases i.outcome <;> rfl

theorem Invocation.element_record (i : Invocation) : i.record.elementName = i.element.name := by
  unfold record
  cases i.outcome <;> rfl

/-- A row in the report of a replay records what a listener of the scenario has answered that
listens where the row says. -/
theorem Scenario.exists_listener_of_goes {s : Scenario} {now : Instant} {b : BuiltScenario}
    (built : s.build now = .ok b) {config : WorkflowConfig} {time : Instant}
    {actions : List ActionSpec} {last : Replay}
    (goes : (b.replay config time).Goes actions last) {row : EventRow}
    (member : row ∈ last.report.events) :
    ∃ l ∈ s.listeners, l.target.Hears b.definition row.eventType row.elementName ∧
      row.Records l := by
  obtain ⟨-, runs⟩ := (Replay.served_goes goes).engine.runs rfl built ⟨rfl, rfl, rfl⟩
  have listed : row ∈ last.engine.drain.events.rows := (List.mem_filter.1 member).1
  obtain ⟨i, ⟨l, listener, hears, own⟩, same⟩ :=
    runs.exists_of_mem (b.opening_replay config time) listed
  have records := own.records
  rw [i.family_record.symm, i.element_record.symm, same] at hears
  rw [same] at records
  exact ⟨l, listener, hears, records.of_erased⟩

end ApprovalFlow
