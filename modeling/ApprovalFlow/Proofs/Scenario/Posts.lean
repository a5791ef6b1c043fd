import ApprovalFlow.Proofs.Definition
import ApprovalFlow.Proofs.Scenario.Twins

/-!
# Where the listeners of a scenario are

An accepted scenario is wired up listener by listener, each in the place that its target names. So
whatever is found in a place later is a listener of the scenario with that target.

* `Wiring.Adds`: all that adding a listener can do.
* `Wiring.keeps_of_wired`: wiring changes nothing about who does a task.
* `Wiring.Posted.add`: a listener is registered where its target says, and nowhere else.
* `Scenario.posted_of_build`: whose the listeners of an accepted scenario are.
-/

namespace ApprovalFlow

/-! ## One listener -/

namespace Wiring

/-- All that adding a listener can do. -/
inductive Adds (w : Wiring) (l : ListenerSpec) : Wiring → Prop
  | managerProcess {x : Listener ProcessEvent} {r : Registry ProcessEvent} :
    l.target = .managerProcess → l.build ProcessEvent = .ok x →
    w.processManager.register x = .ok r → Adds w l { w with processManager := r }
  | managerTask {x : Listener TaskEvent} {r : Registry TaskEvent} :
    l.target = .managerTask → l.build TaskEvent = .ok x →
    w.taskManager.register x = .ok r → Adds w l { w with taskManager := r }
  | process {x : Listener ProcessEvent} {r : Registry ProcessEvent} :
    l.target = .process → l.build ProcessEvent = .ok x →
    w.process.listeners.register x = .ok r →
    Adds w l { w with process := { w.process with listeners := r } }
  | task {name : String} {t : Task} {x : Listener TaskEvent} {r : Registry TaskEvent} :
    l.target = .task name → w.tasks.reverse.find? (·.name == name) = some t →
    l.build TaskEvent = .ok x → t.listeners.register x = .ok r →
    Adds w l { w with tasks := replaceLastTask { t with listeners := r } w.tasks }
  | service {category : Category} {spec : SelectorSpec} {x : Listener TaskEvent}
    {selector : Selector} :
    l.target = .service category spec → l.build TaskEvent = .ok x → spec.build = .ok selector →
    Adds w l { w with catalogue := w.catalogue.register category ⟨x, selector⟩ }

theorem add_eq_ok_iff {w w' : Wiring} {l : ListenerSpec} : w.add l = .ok w' ↔ w.Adds l w' := by
  constructor
  · intro ok
    unfold add at ok
    split at ok
    · rename_i target
      obtain ⟨x, built, ok⟩ := Except.bind_eq_ok.1 ok
      obtain ⟨r, registered, ok⟩ := Except.bind_eq_ok.1 ok
      cases ok
      exact .managerProcess target built (ScenarioError.lift_eq_ok_iff.1 registered)
    · rename_i target
      obtain ⟨x, built, ok⟩ := Except.bind_eq_ok.1 ok
      obtain ⟨r, registered, ok⟩ := Except.bind_eq_ok.1 ok
      cases ok
      exact .managerTask target built (ScenarioError.lift_eq_ok_iff.1 registered)
    · rename_i target
      obtain ⟨x, built, ok⟩ := Except.bind_eq_ok.1 ok
      obtain ⟨d, added, ok⟩ := Except.bind_eq_ok.1 ok
      cases ok
      obtain ⟨r, registered, added⟩ := Except.bind_eq_ok.1 (ScenarioError.lift_eq_ok_iff.1 added)
      cases added
      exact .process target built registered
    · rename_i target
      split at ok
      · cases ok
      · rename_i found
        obtain ⟨x, built, ok⟩ := Except.bind_eq_ok.1 ok
        obtain ⟨t, added, ok⟩ := Except.bind_eq_ok.1 ok
        cases ok
        obtain ⟨r, registered, added⟩ := Except.bind_eq_ok.1 (ScenarioError.lift_eq_ok_iff.1 added)
        cases added
        exact .task target found built registered
    · rename_i target
      obtain ⟨x, built, ok⟩ := Except.bind_eq_ok.1 ok
      obtain ⟨selector, selected, ok⟩ := Except.bind_eq_ok.1 ok
      cases ok
      exact .service target built selected
  · intro adds
    unfold add
    cases adds with
    | managerProcess target built registered =>
        rw [target]
        exact Except.bind_eq_ok.2 ⟨_, built,
          Except.bind_eq_ok.2 ⟨_, ScenarioError.lift_eq_ok_iff.2 registered, rfl⟩⟩
    | managerTask target built registered =>
        rw [target]
        exact Except.bind_eq_ok.2 ⟨_, built,
          Except.bind_eq_ok.2 ⟨_, ScenarioError.lift_eq_ok_iff.2 registered, rfl⟩⟩
    | process target built registered =>
        rw [target]
        refine Except.bind_eq_ok.2 ⟨_, built, Except.bind_eq_ok.2 ⟨_, ?_, rfl⟩⟩
        exact ScenarioError.lift_eq_ok_iff.2 (Except.bind_eq_ok.2 ⟨_, registered, rfl⟩)
    | task target found built registered =>
        rw [target]
        dsimp only
        rw [found]
        refine Except.bind_eq_ok.2 ⟨_, built, Except.bind_eq_ok.2 ⟨_, ?_, rfl⟩⟩
        exact ScenarioError.lift_eq_ok_iff.2 (Except.bind_eq_ok.2 ⟨_, registered, rfl⟩)
    | service target built selected =>
        rw [target]
        exact Except.bind_eq_ok.2 ⟨_, built, Except.bind_eq_ok.2 ⟨_, selected, rfl⟩⟩

end Wiring

/-! ## The tasks -/

theorem mem_replaceLastTask {t u : Task} {ts : List Task} (member : u ∈ replaceLastTask t ts) :
    u = t ∨ u ∈ ts := by
  induction ts with
  | nil => cases member
  | cons first rest ih =>
      unfold replaceLastTask at member
      split at member
      · rcases List.mem_cons.1 member with rfl | later
        · exact Or.inr (List.mem_cons_self ..)
        · exact (ih later).imp id (List.mem_cons_of_mem _)
      · split at member
        · exact (List.mem_cons.1 member).imp id (List.mem_cons_of_mem _)
        · exact Or.inr member

/-- The same tasks are done by the same people or listeners, and none has moved to the process. -/
structure Wiring.Keeps (w w' : Wiring) : Prop where
  process : w'.process.tasks = w.process.tasks
  kind : ∀ t ∈ w'.tasks, ∃ u ∈ w.tasks, t.kind = u.kind

theorem Wiring.Keeps.of_tasks {w w' : Wiring} (process : w'.process.tasks = w.process.tasks)
    (tasks : w'.tasks = w.tasks) : w.Keeps w' :=
  ⟨process, fun t member => ⟨t, tasks ▸ member, rfl⟩⟩

theorem Wiring.Keeps.trans {w w' w'' : Wiring} (left : w.Keeps w') (right : w'.Keeps w'') :
    w.Keeps w'' := by
  refine ⟨right.process.trans left.process, ?_⟩
  intro t member
  obtain ⟨u, there, same⟩ := right.kind t member
  obtain ⟨v, there', same'⟩ := left.kind u there
  exact ⟨v, there', same.trans same'⟩

theorem Wiring.keeps_of_add {w w' : Wiring} {l : ListenerSpec} (ok : w.add l = .ok w') :
    w.Keeps w' := by
  cases add_eq_ok_iff.1 ok with
  | task target found =>
      refine ⟨rfl, fun t member => ?_⟩
      rcases mem_replaceLastTask member with rfl | old
      · exact ⟨_, List.mem_reverse.1 (List.mem_of_find?_eq_some found), rfl⟩
      · exact ⟨t, old, rfl⟩
  | _ => exact .of_tasks rfl rfl

theorem Wiring.keeps_of_wired {w w' : Wiring} {ls : List ListenerSpec}
    (ok : ls.foldlM add w = .ok w') : w.Keeps w' := by
  induction ls generalizing w with
  | nil =>
      cases ok
      exact .of_tasks rfl rfl
  | cons l rest ih =>
      rw [List.foldlM_cons] at ok
      obtain ⟨w₁, first, ok⟩ := Except.bind_eq_ok.1 ok
      exact (keeps_of_add first).trans (ih ok)

/-- The tasks that were wired up make a definition if no two of them have one name. -/
theorem Scenario.defined_iff {s : Scenario} {w : Wiring} {tasks : List Task}
    {d : ProcessDefinition} (wired : s.listeners.foldlM Wiring.add
      ⟨s.bareProcess, tasks, .empty, .empty, .empty⟩ = .ok w) :
    w.tasks.foldlM ProcessDefinition.addTask w.process = .ok d ↔
      (w.tasks.map (·.name)).Nodup ∧ d = { w.process with tasks := w.tasks } :=
  ProcessDefinition.addTasks_bare_eq_ok_iff (Wiring.keeps_of_wired wired).process w.tasks

/-- A task of an accepted scenario is done by whom the scenario says. -/
theorem Scenario.kind_of_build {s : Scenario} {now : Instant} {b : BuiltScenario}
    (built : s.build now = .ok b) {t : Task} (member : t ∈ b.definition.tasks) :
    ∃ spec ∈ s.tasks, spec.kind.build = .ok t.kind := by
  obtain ⟨-, tasks, wiring, made, wired, defined, -, -⟩ := parts_of_build built
  rw [((defined_iff wired).1 defined).2] at member
  obtain ⟨u, there, same⟩ := (Wiring.keeps_of_wired wired).kind t member
  obtain ⟨spec, listed, made⟩ := exists_of_forall₂_right (mapM_eq_ok_iff.1 made) there
  obtain ⟨kind, done, made⟩ := Except.bind_eq_ok.1 made
  cases made
  rw [same]
  exact ⟨spec, listed, done⟩

/-! ## The listeners -/

/-- A listener of the scenario with a target, in one place with itself. -/
def Scenario.Post (s : Scenario) (target : ListenerTarget) (l l' : ListenerSpec) : Prop :=
  l' = l ∧ l ∈ s.listeners ∧ l.target = target

/-- A listener that was made from one of the scenario with a target. -/
def Listener.From {ε : Type} [EventFamily ε] (l : Listener ε) (s : Scenario)
    (target : ListenerTarget) : Prop :=
  ∃ spec ∈ s.listeners, spec.target = target ∧ spec.build ε = .ok l

/-- The listeners of a registry are the scenario's with a target. -/
abbrev Registry.Posted {ε : Type} [EventFamily ε] (r : Registry ε) (s : Scenario)
    (target : ListenerTarget) : Prop :=
  r.Twin (s.Post target) r

/-- The listeners of a catalogue are the scenario's for service tasks, each in its category. -/
def Catalogue.Posted (c : Catalogue) (s : Scenario) : Prop :=
  ∀ category, ∀ g ∈ c.get category, ∃ selector, g.listener.From s (.service category selector)

/-- Every listener that has been registered is in the place that its target names. -/
structure Wiring.Posted (w : Wiring) (s : Scenario) : Prop where
  process : w.process.listeners.Posted s .process
  tasks : ∀ t ∈ w.tasks, t.listeners.Posted s (.task t.name)
  processManager : w.processManager.Posted s .managerProcess
  taskManager : w.taskManager.Posted s .managerTask
  catalogue : w.catalogue.Posted s

section Posts

variable {ε : Type} [EventFamily ε] {s : Scenario} {target : ListenerTarget}

theorem Listener.Twin.from {l l' : Listener ε} (twin : l.Twin (s.Post target) l') :
    l.From s target := by
  obtain ⟨spec, -, ⟨-, member, there⟩, -, built, -⟩ := twin
  exact ⟨spec, member, there, built⟩

theorem ListenerSpec.twin_of_build {spec : ListenerSpec} {l : Listener ε}
    (member : spec ∈ s.listeners) (built : spec.build ε = .ok l) :
    l.Twin (s.Post spec.target) l :=
  ⟨spec, spec, ⟨rfl, member, rfl⟩, .refl spec, built, built⟩

/-- Registering a listener where its target says. -/
theorem Registry.Posted.register [DecidableEq ε] {r r' : Registry ε} {l : Listener ε}
    (posted : r.Posted s target) (new : l.Twin (s.Post target) l) (ok : r.register l = .ok r') :
    r'.Posted s target := by
  obtain ⟨r₁, same, twin⟩ := Registry.Twin.register posted new ok
  rw [ok] at same
  cases same
  exact twin

end Posts

theorem Wiring.Posted.add {s : Scenario} {w w' : Wiring} {l : ListenerSpec} (posted : w.Posted s)
    (member : l ∈ s.listeners) (ok : w.add l = .ok w') : w'.Posted s := by
  have new : ∀ {ε : Type} [EventFamily ε] {x : Listener ε} {target : ListenerTarget},
      l.target = target → l.build ε = .ok x → x.Twin (s.Post target) x := by
    rintro ε _ x - rfl built
    exact ListenerSpec.twin_of_build member built
  cases add_eq_ok_iff.1 ok with
  | managerProcess target built registered =>
      exact { posted with
        processManager := posted.processManager.register (new target built) registered }
  | managerTask target built registered =>
      exact { posted with taskManager := posted.taskManager.register (new target built) registered }
  | process target built registered =>
      exact { posted with process := posted.process.register (new target built) registered }
  | @task name t _ _ target found built registered =>
      have here : t ∈ w.tasks := List.mem_reverse.1 (List.mem_of_find?_eq_some found)
      have named : t.name = name := by simpa using List.find?_some found
      rw [← named] at target
      refine { posted with tasks := fun u listed => ?_ }
      rcases mem_replaceLastTask listed with rfl | old
      · exact (posted.tasks t here).register (new target built) registered
      · exact posted.tasks u old
  | @service category selector _ _ target built selected =>
      refine { posted with catalogue := fun other g listed => ?_ }
      rw [Catalogue.get_register] at listed
      split at listed
      · rename_i same
        rcases List.mem_append.1 listed with old | last
        · exact posted.catalogue other g old
        · rw [List.mem_singleton.1 last, same]
          exact ⟨selector, l, member, target, built⟩
      · exact posted.catalogue other g listed

theorem Wiring.Posted.wired {s : Scenario} {w w' : Wiring} {ls : List ListenerSpec}
    (posted : w.Posted s) (members : ls ⊆ s.listeners) (ok : ls.foldlM Wiring.add w = .ok w') :
    w'.Posted s := by
  induction ls generalizing w with
  | nil =>
      cases ok
      exact posted
  | cons l rest ih =>
      rw [List.foldlM_cons] at ok
      obtain ⟨w₁, first, ok⟩ := Except.bind_eq_ok.1 ok
      obtain ⟨member, others⟩ := List.cons_subset.1 members
      exact ih (posted.add member first) others ok

/-- Every listener of an accepted scenario is in the place that its target names. -/
structure BuiltScenario.Posted (b : BuiltScenario) (s : Scenario) : Prop where
  process : b.definition.listeners.Posted s .process
  tasks : ∀ t ∈ b.definition.tasks, t.listeners.Posted s (.task t.name)
  processManager : b.processManager.Posted s .managerProcess
  taskManager : b.taskManager.Posted s .managerTask
  catalogue : b.catalogue.Posted s

theorem Scenario.posted_of_build {s : Scenario} {now : Instant} {b : BuiltScenario}
    (built : s.build now = .ok b) : b.Posted s := by
  obtain ⟨-, tasks, wiring, made, wired, defined, -, same⟩ := parts_of_build built
  have bare : (⟨s.bareProcess, tasks, .empty, .empty, .empty⟩ : Wiring).Posted s := by
    refine ⟨Registry.twin_empty, ?_, Registry.twin_empty, Registry.twin_empty, ?_⟩
    · intro t member
      obtain ⟨spec, -, made⟩ := exists_of_forall₂_right (mapM_eq_ok_iff.1 made) member
      obtain ⟨kind, -, made⟩ := Except.bind_eq_ok.1 made
      cases made
      exact Registry.twin_empty
    · intro category g member
      cases category <;> cases member
  have posted := bare.wired (List.Subset.refl _) wired
  have definition : b.definition = { wiring.process with tasks := wiring.tasks } := by
    rw [same]
    exact ((defined_iff wired).1 defined).2
  refine ⟨?_, ?_, ?_, ?_, ?_⟩
  · rw [definition]
    exact posted.process
  · rw [definition]
    exact posted.tasks
  all_goals rw [same]
  · exact posted.processManager
  · exact posted.taskManager
  · exact posted.catalogue

end ApprovalFlow
