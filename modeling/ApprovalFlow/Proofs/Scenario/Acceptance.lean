import ApprovalFlow.Proofs.Scenario.Filing

/-!
# Which scenarios are accepted

`Scenario.build` goes through the form, the tasks, the listeners and the definition in turn and
stops at the first thing that is wrong. What it asks for altogether does not depend on that order,
nor on how the scenario is wired up.

* `Scenario.WellFormed`: what has to be right about a scenario.
* `BuiltScenario.Reflects`: everything of the scenario is there, in its place and order.
* `Scenario.accepted_iff_wellFormed`: a scenario is accepted exactly if it is well-formed, and what
  is built reflects it.
-/

namespace ApprovalFlow

/-- Everything that is named is there, names that have to tell things apart do so, and every
listener fits. -/
structure Scenario.WellFormed (s : Scenario) : Prop extends Fitting s.tasks s.listeners where
  form : ∀ form, s.form = some form → form.validate = .ok ()
  types : ∀ t ∈ s.tasks, ∀ names, t.kind = .service names → ∀ name ∈ names, IsTypeName name
  distinct : (s.tasks.map (·.name)).Nodup
  somewhere : s.process.start ≠ []
  starts : ∀ name ∈ s.process.start, name ∈ s.tasks.map (·.name)
  follows : ∀ t ∈ s.tasks, ∀ name ∈ t.next, name = "end" ∨ name ∈ s.tasks.map (·.name)

/-- What was built is the scenario, with every listener in the place that it is for and everything
in its order. -/
structure BuiltScenario.Reflects (b : BuiltScenario) (s : Scenario) (now : Instant) : Prop where
  definition : b.definition = { s.bareProcess with
    listeners := b.definition.listeners, tasks := b.definition.tasks }
  start : b.definition.start = s.process.start
  tasks : List.Forall₂ (·.Describes s.listeners ·) s.tasks b.definition.tasks
  listeners : b.definition.listeners.Files (listenersAt s.listeners .process)
  processManager : b.processManager.Files (listenersAt s.listeners .managerProcess)
  taskManager : b.taskManager.Files (listenersAt s.listeners .managerTask)
  catalogue : ∀ category,
    List.Forall₂ ListenerSpec.Gates (listenersFor s.listeners category) (b.catalogue.get category)
  process : b.process = s.processRow now
  form : b.form = s.form
  actions : b.actions = s.actions

namespace Scenario

variable {s : Scenario} {now : Instant}

theorem exists_tasks_iff : (∃ tasks, s.tasks.mapM TaskSpec.build = .ok tasks) ↔
    ∀ t ∈ s.tasks, ∀ names, t.kind = .service names → ∀ name ∈ names, IsTypeName name := by
  simp only [exists_mapM_iff, TaskSpec.exists_build_iff]

/-- Before the first listener every place is empty. -/
theorem files_bare {tasks : List Task} (made : s.tasks.mapM TaskSpec.build = .ok tasks) :
    Wiring.Files ⟨s.bareProcess, tasks, .empty, .empty, .empty⟩ s.bareProcess s.tasks [] where
  bare := rfl
  tasks := (mapM_eq_ok_iff.1 made).imp fun _ _ => TaskSpec.describes_of_build
  process := Registry.files_empty
  processManager := Registry.files_empty
  taskManager := Registry.files_empty
  catalogue category := by cases category <;> exact .nil

/-- A definition of tasks that are what a scenario says is valid if the scenario's names are. -/
theorem validate_eq_ok_iff {d : ProcessDefinition} (start : d.start = s.process.start)
    (tasks : List.Forall₂ (·.Describes s.listeners ·) s.tasks d.tasks) :
    d.validate = .ok () ↔ s.process.start ≠ [] ∧
      (∀ name ∈ s.process.start, name ∈ s.tasks.map (·.name)) ∧
      ∀ t ∈ s.tasks, ∀ name ∈ t.next, name = "end" ∨ name ∈ s.tasks.map (·.name) := by
  rw [ProcessDefinition.validate_eq_ok_iff, start, TaskSpec.task_names_eq tasks]
  refine and_congr_right fun _ => and_congr_right fun _ => ?_
  generalize s.tasks.map (·.name) = names
  generalize s.tasks = specs at tasks
  generalize d.tasks = ts at tasks
  induction tasks with
  | nil => simp
  | cons first _ ih => rw [List.forall_mem_cons, List.forall_mem_cons, ih, first.next]; rfl

/-- What is accepted is well-formed and reflected. -/
theorem reflects_of_build {b : BuiltScenario} (built : s.build now = .ok b) :
    s.WellFormed ∧ b.Reflects s now := by
  obtain ⟨form, tasks, w, made, wired, defined, valid, same⟩ := parts_of_build built
  have bare := files_bare made
  obtain ⟨distinct, definition⟩ := (defined_iff wired).1 defined
  rw [Wiring.task_names_of_wired wired, TaskSpec.task_names_eq bare.tasks] at distinct
  obtain ⟨accepted, filed⟩ := bare.wired distinct s.listeners
  have files := filed w wired
  have start : b.definition.start = s.process.start := by
    rw [definition, files.bare]
    rfl
  have listed : b.definition.tasks = w.tasks := by rw [definition]
  have described := listed ▸ files.tasks
  obtain ⟨somewhere, starts, follows⟩ := (validate_eq_ok_iff start described).1 valid
  constructor
  · exact ⟨accepted.1 ⟨w, wired⟩, form, exists_tasks_iff.1 ⟨tasks, made⟩, distinct, somewhere,
      starts, follows⟩
  · rw [same]
    refine ⟨?_, start, described, ?_, files.processManager, files.taskManager, files.catalogue, rfl,
      rfl, rfl⟩
    · dsimp only
      rw [definition, files.bare]
    · dsimp only
      rw [definition]
      exact files.process

/-- What is well-formed is accepted. -/
theorem WellFormed.exists_build (formed : s.WellFormed) (now : Instant) :
    ∃ b, s.build now = .ok b := by
  obtain ⟨tasks, made⟩ := exists_tasks_iff.2 formed.types
  have bare := files_bare made
  obtain ⟨accepted, filed⟩ := bare.wired formed.distinct s.listeners
  obtain ⟨w, wired⟩ := accepted.2 formed.toFitting
  have files := filed w wired
  have distinct : (w.tasks.map (·.name)).Nodup := by
    rw [TaskSpec.task_names_eq files.tasks]
    exact formed.distinct
  have defined := (defined_iff wired).2 ⟨distinct, rfl⟩
  refine ⟨_, build_of_parts formed.form made wired defined ?_ now⟩
  refine (validate_eq_ok_iff ?_ files.tasks).2 ⟨formed.somewhere, formed.starts, formed.follows⟩
  rw [files.bare]
  rfl

/-- A scenario is accepted exactly if it is well-formed, and what is built has all that the scenario
says, and nothing else, in the order in which the scenario says it. -/
theorem accepted_iff_wellFormed (s : Scenario) (now : Instant) :
    ((∃ b, s.build now = .ok b) ↔ s.WellFormed) ∧
      ∀ b, s.build now = .ok b → b.Reflects s now :=
  ⟨⟨fun ⟨_, built⟩ => (reflects_of_build built).1, fun formed => formed.exists_build now⟩,
    fun _ built => (reflects_of_build built).2⟩

/-! ## A scenario with one name twice -/

/-- Two listeners of one name, which the catalogue takes. -/
def doubled : Scenario where
  process := ⟨1, "P", none, "carol", none, ["deploy"]⟩
  form := none
  tasks := [⟨"deploy", none, .service ["init_mq"], ["end"]⟩]
  listeners := [⟨"topic", .service .queue .always, "complete", false, none⟩,
    ⟨"mail", .task "deploy", "create", true, none⟩,
    ⟨"topic", .service .queue .lightGroup, "Fail", true, some "no topic"⟩]
  actions := []

theorem wellFormed_doubled : doubled.WellFormed where
  events := by decide +kernel
  names := by
    rintro (_ | _ | _ | name | _) place
    case service => cases place
    all_goals simp [listenersAt, doubled]
    case task => by_cases here : "deploy" = name <;> simp [here]
  tasks := by simp [doubled]
  selectors := by simp [doubled]
  form := by simp [doubled]
  types := by
    have known : IsTypeName "init_mq" :=
      ⟨.initMq, Text.equalsIgnoringAsciiCase_iff.1 (by decide +kernel)⟩
    simp [doubled, known]
  distinct := by decide
  somewhere := by decide
  starts := by decide
  follows := by decide

/-- A light group with one stream. -/
def lit : Option ProcessForm :=
  some (.lightGroupResource none [⟨"g", "s", []⟩] .init)

/-- It is accepted, and both are in the catalogue, in their order, with their modes. The first
succeeds and is for every process, the second refuses and is for light groups with streams. -/
theorem doubled_accepted : doubled.WellFormed ∧ ∃ b, doubled.build default = .ok b ∧
    ∃ topic again, b.catalogue.get .queue = [topic, again] ∧
      [topic, again].map (fun g => (g.listener.name, g.listener.isAsync)) =
        [("topic", false), ("topic", true)] ∧
      ∀ s, topic.selector s = true ∧ (s.form = lit → again.selector s = true) ∧
        (s.form = none → again.selector s = false) ∧
        topic.listener.respond s = .success ∧ again.listener.respond s = .refusal "no topic" := by
  obtain ⟨b, built⟩ := (accepted_iff_wellFormed doubled default).1.2 wellFormed_doubled
  have filed := ((accepted_iff_wellFormed doubled default).2 b built).catalogue .queue
  have listed : listenersFor doubled.listeners .queue =
      [⟨"topic", .service .queue .always, "complete", false, none⟩,
        ⟨"topic", .service .queue .lightGroup, "Fail", true, some "no topic"⟩] := rfl
  rw [listed] at filed
  obtain ⟨topic, others, first, later, same⟩ := List.forall₂_cons_left_iff.1 filed
  obtain ⟨again, none, second, last, rfl⟩ := List.forall₂_cons_left_iff.1 later
  obtain rfl := List.forall₂_nil_left_iff.1 last
  obtain ⟨_, _, ⟨⟩, everywhere⟩ := first.selector
  obtain ⟨_, _, ⟨⟩, light⟩ := second.selector
  refine ⟨wellFormed_doubled, b, built, topic, again, same, ?_, fun s => ⟨?_, ?_, ?_, ?_, ?_⟩⟩
  · rw [List.map_cons, List.map_cons, first.listener.name, first.listener.mode,
      second.listener.name, second.listener.mode]
    rfl
  · exact (everywhere s).2 (.always s.form)
  · intro form
    rw [light s, form]
    exact .lightGroup ..
  · intro form
    rw [← Bool.not_eq_true, light s, form]
    rintro ⟨⟩
  · exact first.listener.answer s
  · exact second.listener.answer s

end Scenario

end ApprovalFlow
