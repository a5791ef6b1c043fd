import ApprovalFlow.Proofs.Registering
import ApprovalFlow.Proofs.Scenario.Posts
import ApprovalFlow.Proofs.Scenario.Selectors

/-!
# Wiring listener by listener

A scenario is wired up by going through its listeners once. After some of them every place holds
the listeners among these whose target names the place, in their order, and the next one goes in if
it fits: its event is one of its family, its name is free in its place, its task is there and its
selector can select.

* `Wiring.Files`: what each place holds. `Wiring.Files.add` and `Wiring.Files.exists_adds_iff`:
  what one listener changes about that, and when it is added.
* `Wiring.Files.wired`: the same for all listeners of a scenario. `Fitting` says which listeners
  are accepted together.
-/

namespace ApprovalFlow

/-- Something comes of a list if something comes of each of its elements. -/
theorem exists_mapM_iff {α β ε : Type} {f : α → Except ε β} {xs : List α} :
    (∃ ys, xs.mapM f = .ok ys) ↔ ∀ x ∈ xs, ∃ y, f x = .ok y := by
  simp only [mapM_eq_ok_iff]
  induction xs with
  | nil => simp
  | cons x rest ih =>
      rw [List.forall_mem_cons, ← ih]
      constructor
      · rintro ⟨ys, related⟩
        obtain ⟨y, zs, first, later, rfl⟩ := List.forall₂_cons_left_iff.1 related
        exact ⟨⟨y, first⟩, zs, later⟩
      · rintro ⟨⟨y, first⟩, zs, later⟩
        exact ⟨y :: zs, .cons first later⟩

/-! ## Listeners -/

/-- The family whose events a listener with a target hears of. -/
def ListenerTarget.family : ListenerTarget → Family
  | .managerProcess | .process => .process
  | .managerTask | .task _ | .service _ _ => .task

/-- The category of a listener that is for the catalogue. -/
def ListenerTarget.category? : ListenerTarget → Option Category
  | .service category _ => some category
  | _ => none

/-- The names of the events of a family. -/
def Family.eventNames : Family → List String
  | .process => ProcessEvent.all.map ProcessEvent.name
  | .task => TaskEvent.all.map TaskEvent.name

/-- The listeners with a target, in their order. -/
def listenersAt (ls : List ListenerSpec) (target : ListenerTarget) : List ListenerSpec :=
  ls.filter (·.target = target)

/-- The listeners for a category of the catalogue, in their order. -/
def listenersFor (ls : List ListenerSpec) (category : Category) : List ListenerSpec :=
  ls.filter (·.target.category? = some category)

theorem listenersAt_concat (ls : List ListenerSpec) (l : ListenerSpec) (target : ListenerTarget) :
    listenersAt (ls ++ [l]) target =
      if l.target = target then listenersAt ls target ++ [l] else listenersAt ls target := by
  unfold listenersAt
  by_cases here : l.target = target <;> simp [here]

theorem listenersFor_concat (ls : List ListenerSpec) (l : ListenerSpec) (category : Category) :
    listenersFor (ls ++ [l]) category =
      if l.target.category? = some category then listenersFor ls category ++ [l]
      else listenersFor ls category := by
  unfold listenersFor
  by_cases here : l.target.category? = some category <;> simp [here]

/-- A listener does what the scenario says of it: whatever it sees, it refuses with the message
that it is given, and succeeds if it is given none. -/
structure ListenerSpec.Describes {ε : Type} [EventFamily ε] (l : ListenerSpec) (x : Listener ε) :
    Prop where
  name : x.name = l.name
  event : EventFamily.name x.event = Text.toUpper l.event
  mode : x.isAsync = l.isAsync
  answer : ∀ s, x.respond s = l.fail.elim .success .refusal

/-- A registry holds the listeners that some of a scenario's describe, in their order. -/
def Registry.Files {ε : Type} [EventFamily ε] [DecidableEq ε] (r : Registry ε)
    (ls : List ListenerSpec) : Prop :=
  ∃ xs, List.Forall₂ ListenerSpec.Describes ls xs ∧ r.Sorts xs

section Listeners

variable {ε : Type} [EventFamily ε] {l : ListenerSpec} {x : Listener ε}

theorem ListenerSpec.describes_of_build (built : l.build ε = .ok x) : l.Describes x := by
  obtain ⟨event, found, rfl⟩ := build_eq_ok_iff.1 built
  refine ⟨rfl, by simpa using List.find?_some found, rfl, fun _ => ?_⟩
  dsimp only [ListenerSpec.outcome]
  cases l.fail <;> rfl

theorem ListenerSpec.exists_build_iff :
    (∃ x, l.build ε = .ok x) ↔
      Text.toUpper l.event ∈ (EventFamily.all (ε := ε)).map EventFamily.name := by
  simp only [build_eq_ok_iff, exists_comm (α := Listener ε), exists_and_left, exists_eq, and_true]
  rw [← Option.isSome_iff_exists, EventFamily.ofName, List.find?_isSome, List.mem_map]
  simp only [beq_iff_eq]

theorem ListenerSpec.names_eq {ls : List ListenerSpec} {xs : List (Listener ε)}
    (described : List.Forall₂ Describes ls xs) : xs.map (·.name) = ls.map (·.name) := by
  induction described with
  | nil => rfl
  | cons first _ ih => rw [List.map_cons, List.map_cons, ih, first.name]

variable [DecidableEq ε] {r : Registry ε} {ls : List ListenerSpec}

namespace Registry

theorem files_empty : (empty : Registry ε).Files [] :=
  ⟨[], .nil, sorts_empty⟩

/-- A registry takes a listener if its name is free, and then holds it behind the others. -/
theorem Files.register (files : r.Files ls) (described : l.Describes x) :
    ((∃ r', r.register x = .ok r') ↔ l.name ∉ ls.map (·.name)) ∧
      ∀ r', r.register x = .ok r' → r'.Files (ls ++ [l]) := by
  obtain ⟨xs, related, sorts⟩ := files
  have taken : (∃ m ∈ xs, m.name = x.name) ↔ l.name ∈ ls.map (·.name) := by
    rw [← List.mem_map, ListenerSpec.names_eq related, described.name]
  rw [sorts.register_eq]
  by_cases here : ∃ m ∈ xs, m.name = x.name
  · rw [if_pos here]
    exact ⟨iff_of_false (by simp) (not_not_intro (taken.1 here)), by simp⟩
  · rw [if_neg here]
    refine ⟨iff_of_true ⟨_, rfl⟩ (mt taken.2 here), ?_⟩
    rintro r' ⟨⟩
    exact ⟨xs ++ [x], forall₂_concat related described,
      sorts.add fun m member same => here ⟨m, member, same⟩⟩

/-- A listener is registered in the place that it is for. -/
theorem Files.concat {target : ListenerTarget} {r' : Registry ε}
    (files : r.Files (listenersAt ls target)) (here : l.target = target) (built : l.build ε = .ok x)
    (registered : r.register x = .ok r') : r'.Files (listenersAt (ls ++ [l]) target) := by
  rw [listenersAt_concat, if_pos here]
  exact (files.register (ListenerSpec.describes_of_build built)).2 r' registered

/-- A listener that is for another place changes nothing about what is in this one. -/
theorem Files.concat_of_ne {target : ListenerTarget} (files : r.Files (listenersAt ls target))
    (other : l.target ≠ target) : r.Files (listenersAt (ls ++ [l]) target) := by
  rw [listenersAt_concat, if_neg other]
  exact files

/-- Making a listener and registering it. -/
theorem Files.exists_attach (files : r.Files ls) :
    (∃ (x : Listener ε) (r' : Registry ε), l.build ε = .ok x ∧ r.register x = .ok r') ↔
      Text.toUpper l.event ∈ (EventFamily.all (ε := ε)).map EventFamily.name ∧
        l.name ∉ ls.map (·.name) := by
  rw [← ListenerSpec.exists_build_iff]
  constructor
  · rintro ⟨x, r', built, registered⟩
    have described := ListenerSpec.describes_of_build built
    exact ⟨⟨x, built⟩, (files.register described).1.1 ⟨r', registered⟩⟩
  · rintro ⟨⟨x, built⟩, free⟩
    obtain ⟨r', registered⟩ := (files.register (ListenerSpec.describes_of_build built)).1.2 free
    exact ⟨x, r', built, registered⟩

end Registry

end Listeners

/-! ## Tasks -/

/-- A kind of task is what the scenario says of it. A service task does the types of work that the
names stand for, in any case of ASCII letters, and has its listeners from the catalogue. -/
inductive TaskKindSpec.Describes : TaskKindSpec → TaskKind → Prop
  | user (names : List String) (needAll : Bool) (formKind : Option TaskFormKind) :
    Describes (.user names needAll formKind) (.user ⟨fun _ => names, needAll, formKind⟩)
  | service {names : List String} {types : List ServiceTaskType} :
    List.Forall₂ (fun name (type : ServiceTaskType) =>
      Text.Alike type.name name) names types →
    Describes (.service names) (.service ⟨types, [.catalogue]⟩)

/-- A task is what the scenario says of it, with the listeners that are for it. -/
structure TaskSpec.Describes (spec : TaskSpec) (ls : List ListenerSpec) (t : Task) : Prop where
  name : t.name = spec.name
  displayName : t.displayName = spec.displayName.getD spec.name
  kind : spec.kind.Describes t.kind
  next : t.next = spec.next
  listeners : t.listeners.Files (listenersAt ls (.task spec.name))

/-- A name is that of a type of work, in whatever form its ASCII letters are. -/
def IsTypeName (name : String) : Prop :=
  ∃ type : ServiceTaskType, Text.Alike type.name name

theorem ServiceTaskType.name_of_named {name : String} {type : ServiceTaskType}
    (found : named name = .ok type) : Text.Alike type.name name := by
  unfold named at found
  split at found
  · rename_i first
    cases found
    have same := List.find?_some first
    exact Text.equalsIgnoringAsciiCase_iff.1 same
  · cases found

theorem ServiceTaskType.exists_named_iff {name : String} :
    (∃ type, named name = .ok type) ↔ IsTypeName name := by
  constructor
  · rintro ⟨type, found⟩
    exact ⟨type, name_of_named found⟩
  · rintro ⟨type, same⟩
    unfold named
    cases found : all.find? (Text.equalsIgnoringAsciiCase ·.name name) with
    | some type => exact ⟨type, rfl⟩
    | none =>
        have listed : type ∈ all := by cases type <;> decide
        have other := List.find?_eq_none.1 found type listed
        exact (other (Text.equalsIgnoringAsciiCase_iff.2 same)).elim

theorem TaskKindSpec.describes_of_build {spec : TaskKindSpec} {kind : TaskKind}
    (built : spec.build = .ok kind) : spec.Describes kind := by
  cases spec with
  | user names needAll formKind =>
      cases built
      exact .user names needAll formKind
  | service names =>
      obtain ⟨types, made, built⟩ := Except.bind_eq_ok.1 built
      cases built
      refine .service ((mapM_eq_ok_iff.1 (ScenarioError.lift_eq_ok_iff.1 made)).imp ?_)
      exact fun _ _ => ServiceTaskType.name_of_named

theorem TaskKindSpec.exists_build_iff {spec : TaskKindSpec} :
    (∃ kind, spec.build = .ok kind) ↔
      ∀ names, spec = .service names → ∀ name ∈ names, IsTypeName name := by
  cases spec with
  | user => exact iff_of_true ⟨_, rfl⟩ (by simp)
  | service names =>
      simp only [build, Except.bind_eq_ok, ScenarioError.lift_eq_ok_iff,
        TaskKindSpec.service.injEq, forall_eq', ← ServiceTaskType.exists_named_iff,
        ← exists_mapM_iff]
      constructor
      · rintro ⟨-, types, made, -⟩
        exact ⟨types, made⟩
      · rintro ⟨types, made⟩
        exact ⟨_, types, made, rfl⟩

theorem TaskSpec.describes_of_build {spec : TaskSpec} {t : Task} (built : spec.build = .ok t) :
    spec.Describes [] t := by
  obtain ⟨kind, made, built⟩ := Except.bind_eq_ok.1 built
  cases built
  exact ⟨rfl, rfl, TaskKindSpec.describes_of_build made, rfl, Registry.files_empty⟩

theorem TaskSpec.exists_build_iff {spec : TaskSpec} :
    (∃ t, spec.build = .ok t) ↔
      ∀ names, spec.kind = .service names → ∀ name ∈ names, IsTypeName name := by
  rw [← TaskKindSpec.exists_build_iff]
  constructor
  · rintro ⟨t, built⟩
    obtain ⟨kind, made, -⟩ := Except.bind_eq_ok.1 built
    exact ⟨kind, made⟩
  · rintro ⟨kind, made⟩
    exact ⟨_, Except.bind_eq_ok.2 ⟨kind, made, rfl⟩⟩

theorem TaskSpec.task_names_eq {specs : List TaskSpec} {ls : List ListenerSpec} {ts : List Task}
    (described : List.Forall₂ (·.Describes ls ·) specs ts) :
    ts.map (·.name) = specs.map (·.name) := by
  induction described with
  | nil => rfl
  | cons first _ ih => rw [List.map_cons, List.map_cons, ih, first.name]

/-- The task that is put in the place of the last of its name has that name. -/
theorem map_name_replaceLastTask (t : Task) (ts : List Task) :
    (replaceLastTask t ts).map (·.name) = ts.map (·.name) := by
  induction ts with
  | nil => rfl
  | cons first rest ih =>
      unfold replaceLastTask
      split
      · rw [List.map_cons, List.map_cons, ih]
      · split
        · rename_i same
          rw [List.map_cons, List.map_cons, same]
        · rfl

theorem replaceLastTask_of_notMem {t : Task} {ts : List Task} (free : t.name ∉ ts.map (·.name)) :
    replaceLastTask t ts = ts := by
  induction ts with
  | nil => rfl
  | cons first rest ih =>
      rw [List.map_cons, List.mem_cons, not_or] at free
      unfold replaceLastTask
      rw [ih free.2, if_neg (Ne.symm free.1), ite_self]

/-- Among tasks of distinct names it takes the place of the one that has its name. -/
theorem replaceLastTask_eq_map {t : Task} {ts : List Task} (distinct : (ts.map (·.name)).Nodup) :
    replaceLastTask t ts = ts.map fun u => if u.name = t.name then t else u := by
  induction ts with
  | nil => rfl
  | cons first rest ih =>
      obtain ⟨new, distinct⟩ := List.nodup_cons.1 distinct
      have later : (rest.any fun u => u.name == t.name) = true ↔ t.name ∈ rest.map (·.name) := by
        simp
      unfold replaceLastTask
      rw [List.map_cons, ← ih distinct]
      by_cases there : t.name ∈ rest.map (·.name)
      · have other : first.name ≠ t.name := by
          intro same
          rw [← same] at there
          exact new there
        rw [if_pos (later.2 there), if_neg other]
      · rw [if_neg (mt later.1 there), replaceLastTask_of_notMem there]
        split <;> rfl

/-! ## One listener -/

/-- A listener for the catalogue, behind a selector that accepts what the scenario says. -/
structure ListenerSpec.Gates (l : ListenerSpec) (g : Gated) : Prop where
  listener : l.Describes g.listener
  selector : ∃ category selector, l.target = .service category selector ∧
    ∀ s, g.selector s = true ↔ selector.Accepts s.form

namespace Wiring

/-- Wiring keeps the names of the tasks. -/
theorem Adds.task_names_eq {w w' : Wiring} {l : ListenerSpec} (adds : w.Adds l w') :
    w'.tasks.map (·.name) = w.tasks.map (·.name) := by
  cases adds with
  | task => exact map_name_replaceLastTask _ _
  | _ => rfl

theorem task_names_of_wired {w w' : Wiring} {ls : List ListenerSpec}
    (ok : ls.foldlM add w = .ok w') : w'.tasks.map (·.name) = w.tasks.map (·.name) := by
  induction ls generalizing w with
  | nil =>
      cases ok
      rfl
  | cons l rest ih =>
      rw [List.foldlM_cons] at ok
      obtain ⟨w₁, first, ok⟩ := Except.bind_eq_ok.1 ok
      rw [ih ok, (add_eq_ok_iff.1 first).task_names_eq]

/-- What each place holds after some listeners: those of them that are for the place. -/
structure Files (w : Wiring) (bare : ProcessDefinition) (specs : List TaskSpec)
    (ls : List ListenerSpec) : Prop where
  bare : w.process = { bare with listeners := w.process.listeners }
  tasks : List.Forall₂ (·.Describes ls ·) specs w.tasks
  process : w.process.listeners.Files (listenersAt ls .process)
  processManager : w.processManager.Files (listenersAt ls .managerProcess)
  taskManager : w.taskManager.Files (listenersAt ls .managerTask)
  catalogue : ∀ category,
    List.Forall₂ ListenerSpec.Gates (listenersFor ls category) (w.catalogue.get category)

end Wiring

/-- A listener fits behind some others: its event is one of its family, its name is free in its
place unless that is the catalogue, its task is there and its selector can select. -/
structure ListenerSpec.Fits (l : ListenerSpec) (specs : List TaskSpec) (ls : List ListenerSpec) :
    Prop where
  event : Text.toUpper l.event ∈ l.target.family.eventNames
  name : l.target.category? = none → l.name ∉ (listenersAt ls l.target).map (·.name)
  task : ∀ name, l.target = .task name → name ∈ specs.map (·.name)
  selector : ∀ category, l.target ≠ .service category (.sourceOperate .init)

section Step

variable {bare : ProcessDefinition} {specs : List TaskSpec} {ls : List ListenerSpec}
  {l : ListenerSpec} {w w' : Wiring}

/-- A listener for another task changes nothing about a task. -/
theorem TaskSpec.Describes.concat_of_ne {spec : TaskSpec} {t : Task}
    (described : spec.Describes ls t) (other : l.target ≠ .task spec.name) :
    spec.Describes (ls ++ [l]) t :=
  { described with listeners := described.listeners.concat_of_ne other }

namespace Wiring.Files

variable (files : w.Files bare specs ls)

include files

theorem tasks_concat (other : ∀ name, l.target ≠ .task name) :
    List.Forall₂ (·.Describes (ls ++ [l]) ·) specs w.tasks :=
  files.tasks.imp fun _ _ described => described.concat_of_ne (other _)

theorem catalogue_concat (other : l.target.category? = none) (category : Category) :
    List.Forall₂ ListenerSpec.Gates (listenersFor (ls ++ [l]) category)
      (w.catalogue.get category) := by
  rw [listenersFor_concat, other, if_neg (by simp)]
  exact files.catalogue category

theorem exists_find?_iff (name : String) :
    (∃ t, w.tasks.reverse.find? (·.name == name) = some t) ↔ name ∈ specs.map (·.name) := by
  rw [← Option.isSome_iff_exists, List.find?_isSome, ← TaskSpec.task_names_eq files.tasks,
    List.mem_map]
  simp only [List.mem_reverse, beq_iff_eq]

/-- What is found under a name holds the listeners for the task of the name. -/
theorem of_find? {name : String} {t : Task}
    (found : w.tasks.reverse.find? (·.name == name) = some t) :
    t ∈ w.tasks ∧ t.name = name ∧ t.listeners.Files (listenersAt ls (.task name)) := by
  have member : t ∈ w.tasks := List.mem_reverse.1 (List.mem_of_find?_eq_some found)
  have named : t.name = name := by simpa using List.find?_some found
  obtain ⟨spec, -, described⟩ := exists_of_forall₂_right files.tasks member
  rw [← named, described.name]
  exact ⟨member, rfl, described.listeners⟩

/-- Registering a listener with a task. -/
theorem tasks_replaceLastTask (distinct : (specs.map (·.name)).Nodup) {name : String} {t : Task}
    {x : Listener TaskEvent} {r : Registry TaskEvent} (target : l.target = .task name)
    (found : w.tasks.reverse.find? (·.name == name) = some t) (built : l.build TaskEvent = .ok x)
    (registered : t.listeners.register x = .ok r) :
    List.Forall₂ (·.Describes (ls ++ [l]) ·) specs
      (replaceLastTask { t with listeners := r } w.tasks) := by
  obtain ⟨member, rfl, filed⟩ := files.of_find? found
  rw [← TaskSpec.task_names_eq files.tasks] at distinct
  have same : replaceLastTask { t with listeners := r } w.tasks =
      w.tasks.map fun u => if u.name = t.name then { u with listeners := r } else u := by
    rw [replaceLastTask_eq_map distinct]
    refine List.map_congr_left fun u there => if_ctx_congr Iff.rfl (fun here => ?_) fun _ => rfl
    rw [List.inj_on_of_nodup_map distinct there member here]
  rw [same, List.forall₂_map_right_iff]
  refine files.tasks.imp fun spec u described => ?_
  split
  · rename_i here
    rw [described.name] at here
    rw [← here] at filed target
    exact { described with listeners := filed.concat target built registered }
  · rename_i other
    refine described.concat_of_ne ?_
    rw [target, ← described.name]
    exact fun taken => other (ListenerTarget.task.inj taken).symm

/-- What a listener that was added changes about the places. -/
theorem add (distinct : (specs.map (·.name)).Nodup) (adds : w.Adds l w') :
    w'.Files bare specs (ls ++ [l]) := by
  cases adds with
  | managerProcess target built registered =>
      exact ⟨files.bare, files.tasks_concat (by simp [target]),
        files.process.concat_of_ne (by simp [target]),
        files.processManager.concat target built registered,
        files.taskManager.concat_of_ne (by simp [target]),
        files.catalogue_concat (by rw [target]; rfl)⟩
  | managerTask target built registered =>
      exact ⟨files.bare, files.tasks_concat (by simp [target]),
        files.process.concat_of_ne (by simp [target]),
        files.processManager.concat_of_ne (by simp [target]),
        files.taskManager.concat target built registered,
        files.catalogue_concat (by rw [target]; rfl)⟩
  | process target built registered =>
      exact ⟨by rw [files.bare], files.tasks_concat (by simp [target]),
        files.process.concat target built registered,
        files.processManager.concat_of_ne (by simp [target]),
        files.taskManager.concat_of_ne (by simp [target]),
        files.catalogue_concat (by rw [target]; rfl)⟩
  | task target found built registered =>
      exact ⟨files.bare, files.tasks_replaceLastTask distinct target found built registered,
        files.process.concat_of_ne (by simp [target]),
        files.processManager.concat_of_ne (by simp [target]),
        files.taskManager.concat_of_ne (by simp [target]),
        files.catalogue_concat (by rw [target]; rfl)⟩
  | @service category spec x selector target built selected =>
      refine ⟨files.bare, files.tasks_concat (by simp [target]),
        files.process.concat_of_ne (by simp [target]),
        files.processManager.concat_of_ne (by simp [target]),
        files.taskManager.concat_of_ne (by simp [target]), fun other => ?_⟩
      have place : l.target.category? = some category := by rw [target]; rfl
      rw [listenersFor_concat, Catalogue.get_register, place]
      by_cases here : other = category
      · rw [if_pos here, if_pos (here ▸ rfl)]
        exact forall₂_concat (files.catalogue other)
          ⟨ListenerSpec.describes_of_build built, category, spec, target,
            SelectorSpec.accepts_iff selected⟩
      · rw [if_neg here, if_neg fun same => here (Option.some.inj same).symm]
        exact files.catalogue other

/-- A listener is added if and only if it fits behind those that have been added. -/
theorem exists_adds_iff : (∃ w', w.Adds l w') ↔ l.Fits specs ls := by
  constructor
  · rintro ⟨w', adds⟩
    cases adds with
    | managerProcess target built registered =>
        obtain ⟨event, free⟩ := files.processManager.exists_attach.1 ⟨_, _, built, registered⟩
        exact ⟨by rw [target]; exact event, fun _ => by rw [target]; exact free,
          by simp [target], by simp [target]⟩
    | managerTask target built registered =>
        obtain ⟨event, free⟩ := files.taskManager.exists_attach.1 ⟨_, _, built, registered⟩
        exact ⟨by rw [target]; exact event, fun _ => by rw [target]; exact free,
          by simp [target], by simp [target]⟩
    | process target built registered =>
        obtain ⟨event, free⟩ := files.process.exists_attach.1 ⟨_, _, built, registered⟩
        exact ⟨by rw [target]; exact event, fun _ => by rw [target]; exact free,
          by simp [target], by simp [target]⟩
    | @task name _ _ _ target found built registered =>
        obtain ⟨-, -, filed⟩ := files.of_find? found
        obtain ⟨event, free⟩ := filed.exists_attach.1 ⟨_, _, built, registered⟩
        refine ⟨by rw [target]; exact event, fun _ => by rw [target]; exact free, ?_,
          by simp [target]⟩
        intro name' there
        obtain rfl : name = name' := ListenerTarget.task.inj (target.symm.trans there)
        exact (files.exists_find?_iff name).1 ⟨_, found⟩
    | @service category spec _ _ target built selected =>
        have event := ListenerSpec.exists_build_iff.1 ⟨_, built⟩
        refine ⟨by rw [target]; exact event, ?_, by simp [target], ?_⟩
        · intro none
          rw [target] at none
          cases none
        · intro category' there
          rw [target] at there
          cases there
          cases selected
  · intro fits
    have event := fits.event
    have free := fits.name
    cases target : l.target with
    | managerProcess =>
        rw [target] at event free
        obtain ⟨x, r, built, registered⟩ := files.processManager.exists_attach.2 ⟨event, free rfl⟩
        exact ⟨_, .managerProcess target built registered⟩
    | managerTask =>
        rw [target] at event free
        obtain ⟨x, r, built, registered⟩ := files.taskManager.exists_attach.2 ⟨event, free rfl⟩
        exact ⟨_, .managerTask target built registered⟩
    | process =>
        rw [target] at event free
        obtain ⟨x, r, built, registered⟩ := files.process.exists_attach.2 ⟨event, free rfl⟩
        exact ⟨_, .process target built registered⟩
    | task name =>
        rw [target] at event free
        obtain ⟨t, found⟩ := (files.exists_find?_iff name).2 (fits.task name target)
        obtain ⟨-, -, filed⟩ := files.of_find? found
        obtain ⟨x, r, built, registered⟩ := filed.exists_attach.2 ⟨event, free rfl⟩
        exact ⟨_, .task target found built registered⟩
    | service category spec =>
        rw [target] at event
        obtain ⟨x, built⟩ := ListenerSpec.exists_build_iff.2 event
        obtain ⟨selector, selected⟩ : ∃ selector, spec.build = .ok selector := by
          have other := fits.selector category
          rw [target] at other
          unfold SelectorSpec.build
          split
          case h_4 => exact (other rfl).elim
          all_goals exact ⟨_, rfl⟩
        exact ⟨_, .service target built selected⟩

end Wiring.Files

end Step

/-! ## All listeners -/

/-- Listeners that fit behind each other: every event is one of its family, names are distinct in
every place but the catalogue, every task is there and every selector can select. -/
structure Fitting (specs : List TaskSpec) (ls : List ListenerSpec) : Prop where
  events : ∀ l ∈ ls, Text.toUpper l.event ∈ l.target.family.eventNames
  names : ∀ target : ListenerTarget, target.category? = none →
    ((listenersAt ls target).map (·.name)).Nodup
  tasks : ∀ l ∈ ls, ∀ name, l.target = .task name → name ∈ specs.map (·.name)
  selectors : ∀ l ∈ ls, ∀ category, l.target ≠ .service category (.sourceOperate .init)

theorem fitting_nil (specs : List TaskSpec) : Fitting specs [] :=
  ⟨by simp, fun _ _ => List.nodup_nil, by simp, by simp⟩

theorem fitting_concat_iff {specs : List TaskSpec} {ls : List ListenerSpec} {l : ListenerSpec} :
    Fitting specs (ls ++ [l]) ↔ Fitting specs ls ∧ l.Fits specs ls := by
  have names : (∀ target : ListenerTarget, target.category? = none →
      ((listenersAt (ls ++ [l]) target).map (·.name)).Nodup) ↔
      (∀ target : ListenerTarget, target.category? = none →
        ((listenersAt ls target).map (·.name)).Nodup) ∧
      (l.target.category? = none → l.name ∉ (listenersAt ls l.target).map (·.name)) := by
    constructor
    · intro apart
      refine ⟨fun target place => ?_, fun place => ?_⟩
      · refine (apart target place).sublist (List.Sublist.map _ (List.Sublist.filter _ ?_))
        exact List.sublist_append_left _ _
      · have here := apart l.target place
        rw [listenersAt_concat, if_pos rfl, List.map_append, List.map_singleton,
          List.nodup_append] at here
        exact fun taken => here.2.2 _ taken _ (List.mem_singleton_self _) rfl
    · rintro ⟨apart, free⟩ target place
      rw [listenersAt_concat]
      split
      · rename_i here
        rw [← here] at place ⊢
        rw [List.map_append, List.map_singleton, List.nodup_append]
        refine ⟨apart _ place, List.nodup_singleton _, fun name there name' last same => ?_⟩
        obtain rfl := List.mem_singleton.1 last
        exact free place (same ▸ there)
      · exact apart target place
  constructor
  · intro fitting
    obtain ⟨apart, free⟩ := names.1 fitting.names
    obtain ⟨events, event⟩ := List.forall_mem_append.1 fitting.events
    obtain ⟨tasks, task⟩ := List.forall_mem_append.1 fitting.tasks
    obtain ⟨selectors, selector⟩ := List.forall_mem_append.1 fitting.selectors
    exact ⟨⟨events, apart, tasks, selectors⟩, event l (List.mem_singleton_self l), free,
      task l (List.mem_singleton_self l), selector l (List.mem_singleton_self l)⟩
  · rintro ⟨fitting, fits⟩
    exact ⟨List.forall_mem_append.2 ⟨fitting.events, List.forall_mem_singleton.2 fits.event⟩,
      names.2 ⟨fitting.names, fits.name⟩,
      List.forall_mem_append.2 ⟨fitting.tasks, List.forall_mem_singleton.2 fits.task⟩,
      List.forall_mem_append.2 ⟨fitting.selectors, List.forall_mem_singleton.2 fits.selector⟩⟩

/-- Listeners are wired up if and only if they fit, and then every place holds those that are for
it. -/
theorem Wiring.Files.wired {bare : ProcessDefinition} {specs : List TaskSpec} {start : Wiring}
    (files : start.Files bare specs []) (distinct : (specs.map (·.name)).Nodup)
    (ls : List ListenerSpec) :
    ((∃ w, ls.foldlM Wiring.add start = .ok w) ↔ Fitting specs ls) ∧
      ∀ w, ls.foldlM Wiring.add start = .ok w → w.Files bare specs ls := by
  induction ls using List.reverseRecOn with
  | nil =>
      refine ⟨iff_of_true ⟨start, rfl⟩ (fitting_nil specs), ?_⟩
      rintro w ⟨⟩
      exact files
  | append_singleton ls l ih =>
      obtain ⟨accepted, filed⟩ := ih
      have split : ∀ w, (ls ++ [l]).foldlM Wiring.add start = .ok w ↔
          ∃ w₁, ls.foldlM Wiring.add start = .ok w₁ ∧ w₁.Adds l w := by
        intro w
        rw [List.foldlM_append, Except.bind_eq_ok]
        simp only [List.foldlM_cons, List.foldlM_nil, bind_pure, Wiring.add_eq_ok_iff]
      simp only [split]
      constructor
      · rw [fitting_concat_iff, ← accepted]
        constructor
        · rintro ⟨w, w₁, before, adds⟩
          exact ⟨⟨w₁, before⟩, (filed w₁ before).exists_adds_iff.1 ⟨w, adds⟩⟩
        · rintro ⟨⟨w₁, before⟩, fits⟩
          obtain ⟨w, adds⟩ := (filed w₁ before).exists_adds_iff.2 fits
          exact ⟨w, w₁, before, adds⟩
      · rintro w ⟨w₁, before, adds⟩
        exact (filed w₁ before).add distinct adds

end ApprovalFlow
