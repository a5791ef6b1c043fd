import ApprovalFlow.Proofs.Replay.Hindrances
import ApprovalFlow.Proofs.Walk.Paths

/-!
# Names that a walk gets past

In a scenario it depends on the name alone whether taking it off the queue succeeds: listeners
answer the same every time, selectors look at nothing but the form, and the rows that are there
already make no difference. So a name that a walk has got past once is no obstacle later, and a name
that stops a walk would have done so before.

* `Engine.notify_of_steady`: a notification that succeeds once succeeds at every time.
* `Replay.Serves`: what entering a task depends on.
* `Replay.Passes.of_kin`: a name that a walk gets past once it always gets past.
-/

namespace ApprovalFlow

variable {roles : ListenerSpec → ListenerSpec → Prop}

/-! ## Notifications at two times -/

/-- A listener of a scenario answers the same whatever it sees. -/
theorem Listener.Twin.respond_eq {ε : Type} [EventFamily ε] {l l' : Listener ε}
    (twin : l.Twin roles l') (s s' : Snapshot) : l.respond s' = l.respond s := by
  obtain ⟨spec, -, -, -, built, -⟩ := twin
  obtain ⟨event, -, rfl⟩ := ListenerSpec.build_eq_ok_iff.1 built
  rfl

/-- The selectors of a scenario look at nothing but the form. -/
theorem Catalogue.Twin.accepted_eq {catalogue : Catalogue} (twin : catalogue.Twin roles catalogue)
    {s s' : Snapshot} (form : s'.form = s.form) (category : Category) :
    catalogue.accepted s' category = catalogue.accepted s category := by
  rw [catalogue.accepted_eq, catalogue.accepted_eq]
  congr 1
  refine List.filter_congr fun g listed => ?_
  obtain ⟨g', gated⟩ := Engine.exists_twin_of_mem (twin category) listed
  exact (gated.selector s' s' rfl).symm.trans (gated.selector s s' form)

theorem Task.catalogued_eq {t : Task} {catalogue : Catalogue}
    (twin : catalogue.Twin roles catalogue) {s s' : Snapshot} (form : s'.form = s.form) :
    t.catalogued catalogue s' = t.catalogued catalogue s := by
  unfold Task.catalogued
  cases t.kind with
  | user => rfl
  | service part =>
      dsimp only
      congr 1
      funext taskType
      exact twin.accepted_eq form taskType.category

namespace Engine

variable {τ σ : Type} [EventStore σ] {e e' : Engine τ σ} {c c' : Context}

/-- A notification that succeeds once succeeds at every time, if the same listeners are found. -/
theorem notify_of_steady {ε : Type} [EventScope ε] [SharedScope ε] (event : ε)
    (scripted : e.Scripted roles) (steady : e.Steady e') (twin : c.Twin roles c)
    (element : EventScope.element ε c' = EventScope.element ε c)
    (groups : (EventScope.groups e.catalogue c' event).found =
      (EventScope.groups e.catalogue c event).found)
    (succeeds : (e.notify event c).1 = .ok ()) : (e'.notify event c').1 = .ok () := by
  obtain ⟨there, found, here, supplied, all⟩ := (notify_eq_ok_iff e event c).1 succeeds
  refine (notify_eq_ok_iff e' event c').2 ⟨there, found, element.trans here, ?_, ?_⟩
  · rw [steady.catalogue, groups]
    exact supplied
  · intro l listed
    rw [steady.settings] at listed
    have own : ∃ l', l.Twin roles l' := by
      rcases List.mem_append.1 listed with managed | served
      · have managers := SharedScope.manager (ε := ε) scripted.settings
        exact exists_twin_of_mem (managers.sync event) managed
      · obtain ⟨groups', _, found', -, twins⟩ :=
          SharedScope.groups event twin scripted.catalogue here
        have same : found = groups' := Except.ok.inj (supplied.symm.trans found')
        rw [same] at served
        exact exists_twin_of_mem twins.sync served
    obtain ⟨l', twin⟩ := own
    rw [twin.respond_eq c.snapshot c'.snapshot]
    exact all l listed

/-- At a task the listeners that are found depend on the task and the form. -/
theorem notifyTask_of_steady {t : Task} (event : TaskEvent) (scripted : e.Scripted roles)
    (steady : e.Steady e') (definition : c.definition.Twin roles c.definition)
    (twin : t.Twin roles t) (current : c.current = some t) (current' : c'.current = some t)
    (form : c'.form = c.form) (succeeds : (e.notify event c).1 = .ok ()) :
    (e'.notify event c').1 = .ok () := by
  refine notify_of_steady event scripted steady (Context.twin_self definition ?_) ?_ ?_ succeeds
  · intro t' there
    rw [current] at there
    cases there
    exact twin
  · simp only [EventScope.element, Context.task_eq_ok_iff.2 current,
      Context.task_eq_ok_iff.2 current']
  · have snapshot : c'.snapshot.form = c.snapshot.form := form
    simp only [EventScope.groups, Context.task_eq_ok_iff.2 current,
      Context.task_eq_ok_iff.2 current', Task.lookupGroups, Task.listeners_supply,
      Task.supplied_of_scripted twin.scripted, Task.catalogued_eq scripted.catalogue snapshot]

end Engine

/-! ## Entering a task -/

/-- Nobody is missing for a user task. -/
def Task.Manned (t : Task) : Prop :=
  ∀ p, UserTask.part t = .ok p → ∀ s, UserTask.usableNames (p.assign s) ≠ []

namespace Replay

variable {r r' r'' : Replay} {t : Task} {name : String}

/-- The listeners of a task let an event pass. -/
def Admits (r : Replay) (event : TaskEvent) (t : Task) : Prop :=
  ∃ (e : Engine TaskTable EventLog) (c : Context), r.engine.Steady e ∧ c.current = some t ∧
    c.definition = r.definition ∧ c.form = r.form ∧ (e.notify event c).1 = .ok ()

theorem Admits.of_kin {event : TaskEvent} (admits : r.Admits event t) (kin : r.Kin r') :
    r'.Admits event t := by
  obtain ⟨e, c, steady, current, definition, form, succeeds⟩ := admits
  exact ⟨e, c, kin.symm.engine.trans steady, current, definition.trans kin.definition.symm,
    form.trans kin.form.symm, succeeds⟩

/-- What is admitted once is admitted at every time. -/
theorem Admits.notify {event : TaskEvent} (admits : r.Admits event t)
    (scripted : r.Scripted roles) (twin : t.Twin roles t) {e : Engine TaskTable EventLog}
    {c : Context} (presents : r.Presents t e c) : (e.notify event c).1 = .ok () := by
  obtain ⟨e', c', steady', current', definition', form', succeeds⟩ := admits
  exact Engine.notifyTask_of_steady event (scripted.engine.of_steady steady')
    (steady'.symm.trans presents.steady) (definition'.symm ▸ scripted.definition) twin current'
    presents.current (presents.form.trans form'.symm) succeeds

theorem Presents.admits {event : TaskEvent} {e : Engine TaskTable EventLog} {c : Context}
    (presents : r.Presents t e c) (succeeds : (e.notify event c).1 = .ok ()) : r.Admits event t :=
  ⟨e, c, presents.steady, presents.current, presents.definition, presents.form, succeeds⟩

/-- Everybody that entering a task depends on lets it happen. -/
structure Serves (r : Replay) (t : Task) : Prop where
  manned : t.Manned
  entered : r.Admits .create t
  completed : (Processor.ofTask t).waits = false → r.Admits .complete t

theorem Serves.of_kin (serves : r.Serves t) (kin : r.Kin r') : r'.Serves t :=
  ⟨serves.manned, serves.entered.of_kin kin, fun goesOn => (serves.completed goesOn).of_kin kin⟩

/-- A task that is served is entered, and a walk goes on from it unless somebody has to act on
it. -/
theorem Serves.enter_eq (serves : r.Serves t) (scripted : r.Scripted roles)
    (sound : r.engine.tasks.Sound) (twin : t.Twin roles t) :
    (r.enter t).1 = .ok (if (Processor.ofTask t).waits then [] else t.next) := by
  have entry := entry_enter sound t
  generalize (r.enter t).1 = answer at entry ⊢
  cases entry with
  | @nobody p kind none => exact (serves.manned p (UserTask.part_of_kind kind) _ none).elim
  | user kind somebody presents =>
      rw [serves.entered.notify scripted twin presents, Processor.ofTask, kind]
      rfl
  | service kind first later =>
      have completed := serves.completed (by rw [Processor.ofTask, kind]; rfl)
      rw [serves.entered.notify scripted twin first, completed.notify scripted twin later,
        Processor.ofTask, kind]
      rfl

/-- A task that is entered is served. -/
theorem serves_of_enter {names : List String} (sound : r.engine.tasks.Sound)
    (twin : t.Twin roles t) (entered : (r.enter t).1 = .ok names) : r.Serves t := by
  have entry := entry_enter sound t
  generalize (r.enter t).1 = answer at entry entered
  cases entry with
  | nobody => cases entered
  | user kind somebody presents =>
      have isUser := UserTask.part_of_kind kind
      obtain ⟨⟨⟩, told, -⟩ := exists_of_map entered
      refine ⟨?_, presents.admits told, ?_⟩
      · intro p' isUser' s nobody
        rw [isUser] at isUser'
        cases isUser'
        rw [UserTask.assign_eq twin isUser
          ({ r.context with current := some t } : Context).snapshot s] at nobody
        exact somebody nobody
      · rw [Processor.ofTask, kind]
        rintro ⟨⟩
  | @service _ e _ c _ kind first later =>
      cases created : (e.notify TaskEvent.create c).1 with
      | error err =>
          rw [created] at entered
          cases entered
      | ok =>
          rw [created] at entered
          obtain ⟨⟨⟩, told, -⟩ := exists_of_map entered
          refine ⟨?_, first.admits created, fun _ => later.admits told⟩
          intro p isUser
          unfold UserTask.part Task.user? at isUser
          rw [kind] at isUser
          cases isUser

/-- Taking a name off the queue succeeds. -/
def Passes (r : Replay) (name : String) : Prop :=
  ∃ names, (r.visit name).1 = .ok names

/-- A walk goes on from a name as the definition says, if it gets past it. -/
theorem visit_of_passes (passes : r.Passes name) (scripted : r.Scripted roles)
    (sound : r.engine.tasks.Sound) : (r.visit name).1 = .ok (r.definition.onward name) := by
  obtain ⟨names, visited⟩ := passes
  unfold visit at visited ⊢
  unfold ProcessDefinition.onward
  split
  · rename_i ends
    rw [if_pos ends] at visited
    dsimp only at visited ⊢
    cases closed : (r.close .completed .complete).1 with
    | error err =>
        rw [closed] at visited
        cases visited
    | ok => rfl
  · rename_i inner
    rw [if_neg inner] at visited
    unfold task at visited ⊢
    cases found : r.definition.task? name with
    | none =>
        rw [found] at visited
        cases visited
    | some t =>
        rw [found] at visited
        have twin := scripted.task found
        exact (serves_of_enter sound twin visited).enter_eq scripted sound twin

/-- Closing the process succeeds every time if it does once. -/
theorem close_of_kin (status : ProcessStatus) (event : ProcessEvent) (kin : r.Kin r')
    (scripted : r.Scripted roles) (closes : (r.close status event).1 = .ok ()) :
    (r'.close status event).1 = .ok () := by
  unfold close notifyProcess at closes ⊢
  refine Engine.notify_of_steady event scripted.engine kin.engine
    (Context.twin_self scripted.definition ?_) ?_ ?_ closes
  · rintro t ⟨⟩
  · simp only [EventScope.element, context, Context.base, kin.definition]
  · simp only [EventScope.groups, context, Context.base, kin.definition]

/-- A name that a walk gets past once it always gets past. -/
theorem Passes.of_kin (passes : r.Passes name) (kin : r.Kin r') (scripted : r.Scripted roles)
    (sound : r.engine.tasks.Sound) (sound' : r'.engine.tasks.Sound) : r'.Passes name := by
  obtain ⟨names, visited⟩ := passes
  unfold Passes
  unfold visit at visited ⊢
  split
  · rename_i ends
    rw [if_pos ends] at visited
    dsimp only at visited ⊢
    have closes : (r.close .completed .complete).1 = .ok () := by
      cases closed : (r.close .completed .complete).1 with
      | error err =>
          rw [closed] at visited
          cases visited
      | ok => rfl
    have closes' : (r'.close .completed .complete).1 = .ok () :=
      close_of_kin .completed .complete kin scripted closes
    rw [closes']
    exact ⟨[], rfl⟩
  · rename_i inner
    rw [if_neg inner] at visited
    unfold task at visited ⊢
    rw [kin.definition]
    cases found : r.definition.task? name with
    | none =>
        rw [found] at visited
        cases visited
    | some t =>
        rw [found] at visited
        have twin := scripted.task found
        exact ⟨_, ((serves_of_enter sound twin visited).of_kin kin).enter_eq
          (scripted.of_kin kin) sound' twin⟩

end Replay

end ApprovalFlow
