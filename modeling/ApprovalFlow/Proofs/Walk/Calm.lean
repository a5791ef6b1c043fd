import ApprovalFlow.Proofs.Replay.Refusals
import ApprovalFlow.Proofs.Replay.Unanimity
import ApprovalFlow.Proofs.Scenario.Posts
import ApprovalFlow.Proofs.Walk.Passing

/-!
# Scenarios in which nothing fails

If no listener in line fails and every user task has somebody to approve it, then no visit of a walk
fails either: the end and user tasks put nothing into the queue, and a service task puts the names
that follow it there.

* `Engine.notify_of_calm`: every notification succeeds.
* `Replay.Unhindered.visit_eq`: every visit succeeds, and a walk goes on as the definition says.
-/

namespace ApprovalFlow

/-! ## Accepted scenarios -/

/-- Somebody is there to do the task. -/
def TaskKind.Staffed : TaskKind → Prop
  | user part => ∀ s, ∃ name ∈ part.assign s, Text.trim name ≠ ""
  | service _ => True

/-- Every user task is assigned to somebody. -/
def ProcessDefinition.Staffed (p : ProcessDefinition) : Prop :=
  ∀ t ∈ p.tasks, t.kind.Staffed

/-- No listener in line fails. -/
def Scenario.Quiet (s : Scenario) : Prop :=
  ∀ l ∈ s.listeners, l.isAsync = false → l.fail = none

instance (s : Scenario) : Decidable s.Quiet :=
  inferInstanceAs (Decidable (∀ l ∈ s.listeners, l.isAsync = false → l.fail = none))

/-- A user task lists an approver whose name is not blank. -/
def TaskKindSpec.Staffed : TaskKindSpec → Prop
  | user approvers _ _ => ∃ name ∈ approvers, Text.trim name ≠ ""
  | service _ => True

instance : DecidablePred TaskKindSpec.Staffed
  | .user approvers _ _ =>
    inferInstanceAs (Decidable (∃ name ∈ approvers, Text.trim name ≠ ""))
  | .service _ => inferInstanceAs (Decidable True)

/-- Every user task lists an approver whose name is not blank. -/
def Scenario.Staffed (s : Scenario) : Prop :=
  ∀ t ∈ s.tasks, t.kind.Staffed

instance (s : Scenario) : Decidable s.Staffed :=
  inferInstanceAs (Decidable (∀ t ∈ s.tasks, t.kind.Staffed))

theorem TaskKindSpec.Staffed.build {spec : TaskKindSpec} (staffed : spec.Staffed) {kind : TaskKind}
    (built : spec.build = .ok kind) : kind.Staffed := by
  cases spec with
  | user approvers needAll formKind =>
      cases built
      exact fun _ => staffed
  | service types =>
      obtain ⟨types', -, built⟩ := Except.bind_eq_ok.1 built
      cases built
      trivial

theorem Scenario.Staffed.definition {s : Scenario} (staffed : s.Staffed) {now : Instant}
    {b : BuiltScenario} (built : s.build now = .ok b) : b.definition.Staffed := by
  intro t member
  obtain ⟨spec, there, made⟩ := kind_of_build built member
  exact (staffed spec there).build made

/-! ## Where no listener in line fails -/

variable {roles : ListenerSpec → ListenerSpec → Prop}

/-- The listeners that are run in line do not fail. -/
def Calm (roles : ListenerSpec → ListenerSpec → Prop) : Prop :=
  ∀ l l', roles l l' → l.isAsync = false → l.fail = none

theorem Scenario.Quiet.calm {s : Scenario} (quiet : s.Quiet) :
    Calm fun l l' => (l, l') ∈ s.listeners.zip s.listeners :=
  fun l _ role inLine => quiet l (List.of_mem_zip role).1 inLine

theorem Listener.success_of_calm {ε : Type} [EventFamily ε] (calm : Calm roles)
    {l l' : Listener ε} (twin : l.Twin roles l') (inLine : l.isAsync = false) (s : Snapshot) :
    l.respond s = .success := by
  obtain ⟨spec, spec', role, -, built, -⟩ := twin
  obtain ⟨event, -, rfl⟩ := ListenerSpec.build_eq_ok_iff.1 built
  have fine := calm spec spec' role inLine
  simp only [ListenerSpec.outcome, fine]

namespace Engine

variable {τ σ : Type} [EventStore σ]

/-- A notification succeeds wherever it is at an element. -/
theorem notify_of_calm {ε : Type} [EventScope ε] [SharedScope ε] (calm : Calm roles) (event : ε)
    {e : Engine τ σ} {c : Context} (scripted : e.Scripted roles) (context : c.Twin roles c)
    {element : Element} (there : EventScope.element ε c = .ok element) :
    (e.notify event c).1 = .ok () := by
  obtain ⟨groups, _, found, -, twins⟩ :=
    SharedScope.groups event context scripted.catalogue there
  refine (notify_eq_ok_iff e event c).2 ⟨element, groups, there, found, ?_⟩
  intro l listed
  rcases List.mem_append.1 listed with managed | own
  · have managers := SharedScope.manager (ε := ε) scripted.settings
    obtain ⟨l', twin⟩ := exists_twin_of_mem (managers.sync event) managed
    exact Listener.success_of_calm calm twin (managers.inLine event l managed) c.snapshot
  · obtain ⟨l', twin⟩ := exists_twin_of_mem twins.sync own
    exact Listener.success_of_calm calm twin (twins.inLine l own) c.snapshot

end Engine

/-- Notifying of a task event succeeds in a context that is at a task of a scenario. -/
theorem Engine.notifyTask_of_calm {σ : Type} [EventStore σ] {e : Engine TaskTable σ} {c : Context}
    {t : Task} (calm : Calm roles) (event : TaskEvent) (scripted : e.Scripted roles)
    (definition : c.definition.Twin roles c.definition) (twin : t.Twin roles t)
    (current : c.current = some t) : (e.notify event c).1 = .ok () := by
  refine notify_of_calm calm event scripted (Context.twin_self definition ?_)
    (Context.element_of_current current)
  intro t' there
  rw [current] at there
  cases there
  exact twin

theorem Task.manned_of_staffed {t : Task} (staffed : t.kind.Staffed) : t.Manned := by
  intro p isUser s nobody
  unfold UserTask.part Task.user? at isUser
  cases kind : t.kind with
  | service part =>
      rw [kind] at isUser
      cases isUser
  | user part =>
      rw [kind] at isUser staffed
      cases isUser
      obtain ⟨name, listed, given⟩ := staffed s
      have usable : Text.trim name ∈ UserTask.usableNames (p.assign s) :=
        List.mem_filter.2 ⟨List.mem_map_of_mem listed, by simpa using given⟩
      rw [nobody] at usable
      cases usable

namespace Replay

variable {r : Replay}

theorem close_of_calm (calm : Calm roles) (scripted : r.Scripted roles) (status : ProcessStatus)
    (event : ProcessEvent) : (r.close status event).1 = .ok () := by
  refine Engine.notify_of_calm calm event scripted.engine (Context.twin_self
    (c := .base r.definition { r.process with status := status, endTime := some r.engine.now }
      r.form)
    scripted.definition ?_) rfl
  rintro t ⟨⟩

/-- A task is entered, and a walk goes on from it unless somebody has to act on it. -/
theorem enter_of_calm (calm : Calm roles) (scripted : r.Scripted roles)
    (sound : r.engine.tasks.Sound) {t : Task} (twin : t.Twin roles t)
    (staffed : t.kind.Staffed) :
    (r.enter t).1 = .ok (if (Processor.ofTask t).waits then [] else t.next) := by
  have admits : ∀ event, r.Admits event t := by
    intro event
    refine ⟨r.engine, { r.context with current := some t }, Engine.Steady.refl _, rfl, rfl, rfl, ?_⟩
    exact Engine.notifyTask_of_calm calm event scripted.engine scripted.definition twin rfl
  have serves : r.Serves t :=
    ⟨Task.manned_of_staffed staffed, admits .create, fun _ => admits .complete⟩
  exact serves.enter_eq scripted sound twin

/-- A replay in which no visit can fail: the listeners in line do not, there is somebody for every
user task, and everything is there that the definition names. -/
structure Unhindered (roles : ListenerSpec → ListenerSpec → Prop) (r : Replay) : Prop where
  calm : Calm roles
  scripted : r.Scripted roles
  sound : r.engine.tasks.Sound
  staffed : r.definition.Staffed
  valid : r.definition.validate = .ok ()

/-- No visit fails, and a walk goes on from a name as the definition says. -/
theorem Unhindered.visit_eq (free : r.Unhindered roles) {name : String}
    (known : name = ProcessDefinition.endName ∨ r.definition.knows name = true) :
    (r.visit name).1 = .ok (r.definition.onward name) := by
  unfold visit ProcessDefinition.onward
  split
  · dsimp only
    rw [close_of_calm free.calm free.scripted]
    rfl
  · rename_i inner
    have there := known.resolve_left inner
    rw [ProcessDefinition.knows_eq_isSome] at there
    obtain ⟨t, found⟩ := Option.isSome_iff_exists.1 there
    unfold task
    rw [found]
    exact enter_of_calm free.calm free.scripted free.sound (free.scripted.task found)
      (free.staffed t (ProcessDefinition.mem_of_task? found))

end Replay

/-- A replay of an accepted scenario stays unhindered, whatever is done. -/
theorem Scenario.unhindered_of_build {s : Scenario} {now : Instant} {b : BuiltScenario}
    (built : s.build now = .ok b) (quiet : s.Quiet) (staffed : s.Staffed) (config : WorkflowConfig)
    (time : Instant) (actions : List ActionSpec) {m : Moment}
    (leads : Moment.Leads (.begun (b.replay config time) actions) m) :
    m.replay.definition = b.definition ∧
      m.replay.Unhindered fun l l' => (l, l') ∈ s.listeners.zip s.listeners := by
  obtain ⟨orderly, -⟩ := Moment.orderly_begun built config time actions
  obtain ⟨-, -, -, -, -, -, valid, -⟩ := parts_of_build built
  have same : m.replay.definition = b.definition := (leads.keeps orderly).1
  exact ⟨same, quiet.calm, leads.scripted orderly (scripted_of_build built config time),
    (leads.orderly orderly).sound, same ▸ staffed.definition built, same ▸ valid⟩

end ApprovalFlow
