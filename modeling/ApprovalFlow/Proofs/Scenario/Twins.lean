import ApprovalFlow.Proofs.Checks
import ApprovalFlow.Scenario.Basic
import Mathlib.Data.List.Forall2

/-!
# Scenarios that differ in their asynchronous listeners

Two scenarios are variants of each other if they differ at most in what asynchronous listeners
answer. They are wired up alike: `Scenario.twin_of_build` follows `Scenario.build` through and says
that what it yields has, place by place, the same tasks, selectors and listeners, and that two
listeners in one place come from two listeners of the scenarios that stand in one place too. Of a
scenario and itself it says what every listener, task and selector of an accepted scenario is like.

`roles` relates the listeners of the two scenarios that stand in one place.
-/

namespace ApprovalFlow

/-- Looking for what two lists have in one place. -/
theorem forall₂_find? {α β : Type} {R : α → β → Prop} {p : α → Bool} {q : β → Bool}
    (same : ∀ x y, R x y → q y = p x) {xs : List α} {ys : List β} (related : List.Forall₂ R xs ys) :
    Option.Rel R (xs.find? p) (ys.find? q) := by
  induction related with
  | nil => exact .none
  | @cons x y xs ys first _ ih =>
      rw [List.find?_cons, List.find?_cons, same x y first]
      cases p x with
      | true => exact .some first
      | false => exact ih

theorem isSome_of_rel {α β : Type} {R : α → β → Prop} {x : Option α} {y : Option β}
    (related : Option.Rel R x y) : y.isSome = x.isSome := by
  cases related <;> rfl

theorem exists_of_forall₂_right {α β : Type} {R : α → β → Prop} {xs : List α} {ys : List β}
    (related : List.Forall₂ R xs ys) {y : β} (member : y ∈ ys) : ∃ x ∈ xs, R x y := by
  induction related with
  | nil => cases member
  | @cons x _ _ _ first _ ih =>
      rcases List.mem_cons.1 member with rfl | later
      · exact ⟨x, List.mem_cons_self .., first⟩
      · obtain ⟨x', there, here⟩ := ih later
        exact ⟨x', List.mem_cons_of_mem _ there, here⟩

/-- What comes of a list is what comes of each of its elements. -/
theorem mapM_eq_ok_iff {α β ε : Type} {f : α → Except ε β} {xs : List α} {ys : List β} :
    xs.mapM f = .ok ys ↔ List.Forall₂ (fun x y => f x = .ok y) xs ys := by
  induction xs generalizing ys with
  | nil => simp [pure, Except.pure, eq_comm]
  | cons x rest ih =>
      rw [List.mapM_cons, Except.bind_eq_ok, List.forall₂_cons_left_iff]
      constructor
      · rintro ⟨y, first, made⟩
        obtain ⟨zs, later, made⟩ := Except.bind_eq_ok.1 made
        cases made
        exact ⟨y, zs, first, ih.1 later, rfl⟩
      · rintro ⟨y, zs, first, later, rfl⟩
        exact ⟨y, first, Except.bind_eq_ok.2 ⟨zs, ih.2 later, rfl⟩⟩

/-- Two listeners of scenarios that differ at most in what nobody waits for. -/
structure ListenerSpec.Variant (l l' : ListenerSpec) : Prop where
  same : l' = { l with fail := l'.fail }
  inLine : l.isAsync = false → l'.fail = l.fail

/-- Two scenarios that differ at most in what asynchronous listeners answer. -/
structure Scenario.Variant (s s' : Scenario) : Prop where
  same : s' = { s with listeners := s'.listeners }
  listeners : List.Forall₂ ListenerSpec.Variant s.listeners s'.listeners

theorem ListenerSpec.Variant.refl (l : ListenerSpec) : l.Variant l :=
  ⟨rfl, fun _ => rfl⟩

theorem Scenario.Variant.refl (s : Scenario) : s.Variant s :=
  ⟨rfl, List.forall₂_same.2 fun l _ => ListenerSpec.Variant.refl l⟩

/-! ## Listeners and registries -/

section Listeners

variable {ε : Type} [EventFamily ε]

/-- Two listeners that were made from two listeners of scenarios in one place. -/
def Listener.Twin (roles : ListenerSpec → ListenerSpec → Prop) (l l' : Listener ε) : Prop :=
  ∃ spec spec', roles spec spec' ∧ spec.Variant spec' ∧
    spec.build ε = .ok l ∧ spec'.build ε = .ok l'

theorem ListenerSpec.build_eq_ok_iff {spec : ListenerSpec} {l : Listener ε} :
    spec.build ε = .ok l ↔ ∃ event, EventFamily.ofName ε (Text.toUpper spec.event) = some event ∧
      l = ⟨spec.name, event, spec.isAsync, fun _ => spec.outcome⟩ := by
  unfold build
  cases EventFamily.ofName ε (Text.toUpper spec.event) <;> simp [eq_comm]

/-- A listener of an accepted scenario succeeds or refuses, whatever it sees. -/
theorem ListenerSpec.plain_of_build {spec : ListenerSpec} {l : Listener ε}
    (built : spec.build ε = .ok l) (s : Snapshot) :
    l.respond s = .success ∨ ∃ message, l.respond s = .refusal message := by
  obtain ⟨event, -, rfl⟩ := build_eq_ok_iff.1 built
  unfold outcome
  cases spec.fail with
  | none => exact Or.inl rfl
  | some message => exact Or.inr ⟨message, rfl⟩

variable {roles : ListenerSpec → ListenerSpec → Prop}

/-- A variant of a listener is made where the listener is. -/
theorem ListenerSpec.Variant.build {spec spec' : ListenerSpec} (variant : spec.Variant spec')
    (role : roles spec spec') {l : Listener ε} (built : spec.build ε = .ok l) :
    ∃ l', spec'.build ε = .ok l' ∧ l.Twin roles l' := by
  obtain ⟨event, named, rfl⟩ := build_eq_ok_iff.1 built
  have made : spec'.build ε = .ok ⟨spec'.name, event, spec'.isAsync, fun _ => spec'.outcome⟩ := by
    rw [build_eq_ok_iff, variant.same]
    exact ⟨event, named, rfl⟩
  exact ⟨_, made, spec, spec', role, variant, built, made⟩

namespace Listener.Twin

variable {l l' : Listener ε}

theorem same (twin : l.Twin roles l') : l' = { l with respond := l'.respond } := by
  obtain ⟨spec, spec', -, variant, built, built'⟩ := twin
  obtain ⟨event, named, rfl⟩ := ListenerSpec.build_eq_ok_iff.1 built
  obtain ⟨event', named', rfl⟩ := ListenerSpec.build_eq_ok_iff.1 built'
  rw [variant.same] at named' ⊢
  rw [named] at named'
  cases named'
  rfl

theorem name_eq (twin : l.Twin roles l') : l'.name = l.name := by
  rw [twin.same]

theorem event_eq (twin : l.Twin roles l') : l'.event = l.event := by
  rw [twin.same]

theorem isAsync_eq (twin : l.Twin roles l') : l'.isAsync = l.isAsync := by
  rw [twin.same]

theorem plain (twin : l.Twin roles l') (s : Snapshot) :
    l.respond s = .success ∨ ∃ message, l.respond s = .refusal message := by
  obtain ⟨spec, spec', -, -, built, -⟩ := twin
  exact ListenerSpec.plain_of_build built s

end Listener.Twin

/-- Two registries with twins in every place. -/
structure Registry.Twin (roles : ListenerSpec → ListenerSpec → Prop) (r r' : Registry ε) :
    Prop where
  listeners : List.Forall₂ (Listener.Twin roles) r.listeners r'.listeners
  sync : ∀ event, List.Forall₂ (Listener.Twin roles) (r.sync event) (r'.sync event)
  async : ∀ event, List.Forall₂ (Listener.Twin roles) (r.async event) (r'.async event)
  inLine : ∀ event, ∀ l ∈ r.sync event, l.isAsync = false
  inPool : ∀ event, ∀ l ∈ r.async event, l.isAsync = true

theorem Registry.twin_empty : (Registry.empty : Registry ε).Twin roles .empty :=
  ⟨.nil, fun _ => .nil, fun _ => .nil, (fun _ _ member => by cases member),
    fun _ _ member => by cases member⟩

theorem forall₂_concat {α β : Type} {R : α → β → Prop} {xs : List α} {ys : List β} {x : α} {y : β}
    (front : List.Forall₂ R xs ys) (last : R x y) : List.Forall₂ R (xs ++ [x]) (ys ++ [y]) :=
  List.rel_append front (.cons last .nil)

/-- Registering twins. -/
theorem Registry.Twin.register [DecidableEq ε] {r r' r₁ : Registry ε} {l l' : Listener ε}
    (twin : r.Twin roles r') (new : l.Twin roles l') (ok : r.register l = .ok r₁) :
    ∃ r₁', r'.register l' = .ok r₁' ∧ r₁.Twin roles r₁' := by
  have found : (r'.find? l'.name).isSome = (r.find? l.name).isSome := by
    refine isSome_of_rel (forall₂_find? ?_ twin.listeners)
    intro x y related
    rw [related.name_eq, new.name_eq]
  unfold Registry.register at ok ⊢
  rw [found]
  split at ok
  · cases ok
  · rename_i free
    cases ok
    rw [if_neg free]
    refine ⟨_, rfl, forall₂_concat twin.listeners new, ?_, ?_, ?_, ?_⟩
    · intro event
      unfold Registry.sync Registry.add
      rw [new.event_eq]
      dsimp only
      split
      · unfold Groups.push
        rw [new.isAsync_eq]
        split
        · exact twin.sync event
        · exact forall₂_concat (twin.sync event) new
      · exact twin.sync event
    · intro event
      unfold Registry.async Registry.add
      rw [new.event_eq]
      dsimp only
      split
      · unfold Groups.push
        rw [new.isAsync_eq]
        split
        · exact forall₂_concat (twin.async event) new
        · exact twin.async event
      · exact twin.async event
    · intro event other member
      unfold Registry.sync Registry.add at member
      dsimp only at member
      split at member
      · unfold Groups.push at member
        split at member
        · exact twin.inLine event other member
        · rename_i sync
          rcases List.mem_append.1 member with old | last
          · exact twin.inLine event other old
          · rw [List.mem_singleton.1 last]
            simpa using sync
      · exact twin.inLine event other member
    · intro event other member
      unfold Registry.async Registry.add at member
      dsimp only at member
      split at member
      · unfold Groups.push at member
        split at member
        · rename_i async
          rcases List.mem_append.1 member with old | last
          · exact twin.inPool event other old
          · rw [List.mem_singleton.1 last]
            exact async
        · exact twin.inPool event other member
      · exact twin.inPool event other member

end Listeners

/-! ## Tasks, selectors and definitions -/

/-- Who does a task of a scenario: fixed people, or the listeners of the catalogue. -/
inductive TaskKind.Scripted : TaskKind → Prop
  | user (names : List String) (needAll : Bool) (formKind : Option TaskFormKind) :
    Scripted (.user ⟨fun _ => names, needAll, formKind⟩)
  | service (types : List ServiceTaskType) : Scripted (.service ⟨types, [.catalogue]⟩)

section Places

variable (roles : ListenerSpec → ListenerSpec → Prop)

/-- Two tasks that differ at most in their listeners, which are twins. -/
structure Task.Twin (t t' : Task) : Prop where
  same : t' = { t with listeners := t'.listeners }
  scripted : t.kind.Scripted
  listeners : t.listeners.Twin roles t'.listeners

/-- Two gated listeners behind one selector, which looks at nothing but the form. -/
structure Gated.Twin (g g' : Gated) : Prop where
  listener : g.listener.Twin roles g'.listener
  selector : ∀ s s' : Snapshot, s'.form = s.form → g'.selector s' = g.selector s

/-- Two catalogues with twins in every place. -/
def Catalogue.Twin (c c' : Catalogue) : Prop :=
  ∀ category, List.Forall₂ (Gated.Twin roles) (c.get category) (c'.get category)

/-- Two definitions with twins in every place. -/
structure ProcessDefinition.Twin (d d' : ProcessDefinition) : Prop where
  same : d' = { d with listeners := d'.listeners, tasks := d'.tasks }
  listeners : d.listeners.Twin roles d'.listeners
  tasks : List.Forall₂ (Task.Twin roles) d.tasks d'.tasks

/-- Two wirings with twins in every place. -/
structure Wiring.Twin (w w' : Wiring) : Prop where
  process : w.process.Twin roles w'.process
  tasks : List.Forall₂ (Task.Twin roles) w.tasks w'.tasks
  processManager : w.processManager.Twin roles w'.processManager
  taskManager : w.taskManager.Twin roles w'.taskManager
  catalogue : w.catalogue.Twin roles w'.catalogue

end Places

variable {roles : ListenerSpec → ListenerSpec → Prop}

theorem Task.Twin.name_eq {t t' : Task} (twin : t.Twin roles t') : t'.name = t.name := by
  rw [twin.same]

theorem Task.Twin.next_eq {t t' : Task} (twin : t.Twin roles t') : t'.next = t.next := by
  rw [twin.same]

theorem Task.Twin.addListener {t t' t₁ : Task} {l l' : Listener TaskEvent}
    (twin : t.Twin roles t') (new : l.Twin roles l') (ok : t.addListener l = .ok t₁) :
    ∃ t₁', t'.addListener l' = .ok t₁' ∧ t₁.Twin roles t₁' := by
  obtain ⟨r, registered, ok⟩ := Except.bind_eq_ok.1 ok
  cases ok
  obtain ⟨r', registered', related⟩ := twin.listeners.register new registered
  refine ⟨_, Except.bind_eq_ok.2 ⟨r', registered', rfl⟩, ?_, twin.scripted, related⟩
  rw [twin.same]

theorem forall₂_replaceLastTask {t t' : Task} {ts ts' : List Task} (new : t.Twin roles t')
    (tasks : List.Forall₂ (Task.Twin roles) ts ts') :
    List.Forall₂ (Task.Twin roles) (replaceLastTask t ts) (replaceLastTask t' ts') := by
  induction tasks with
  | nil => exact .nil
  | @cons u u' rest rest' first later ih =>
      have more : rest'.any (·.name == t'.name) = rest.any (·.name == t.name) := by
        rw [new.name_eq]
        clear ih
        induction later with
        | nil => rfl
        | cons same _ ih => rw [List.any_cons, List.any_cons, ih, same.name_eq]
      unfold replaceLastTask
      rw [more, first.name_eq, new.name_eq]
      split
      · exact .cons first ih
      · split
        · exact .cons new later
        · exact .cons first later

theorem TaskKindSpec.scripted_of_build {spec : TaskKindSpec} {kind : TaskKind}
    (built : spec.build = .ok kind) : kind.Scripted := by
  cases spec with
  | user names needAll formKind =>
      cases built
      exact .user names needAll formKind
  | service names =>
      obtain ⟨types, -, built⟩ := Except.bind_eq_ok.1 built
      cases built
      exact .service types

/-- A task of a scenario is its own twin before it has listeners. -/
theorem TaskSpec.twin_of_build {spec : TaskSpec} {t : Task} (built : spec.build = .ok t) :
    t.Twin roles t := by
  obtain ⟨kind, made, built⟩ := Except.bind_eq_ok.1 built
  cases built
  exact ⟨rfl, TaskKindSpec.scripted_of_build made, Registry.twin_empty⟩

/-- The selectors of scenarios look at nothing but the form. -/
theorem SelectorSpec.selector_eq {spec : SelectorSpec} {selector : Selector}
    (built : spec.build = .ok selector) {s s' : Snapshot} (form : s'.form = s.form) :
    selector s' = selector s := by
  unfold build at built
  split at built <;> cases built <;>
    simp only [Selector.always, Selector.mqTypeIs, Selector.zookeeperIs, Selector.operationIs,
      Selector.hasSinkType, Selector.lightGroupWithStreams, Selector.ofResource, form]

theorem ProcessDefinition.Twin.addListener {d d' d₁ : ProcessDefinition}
    {l l' : Listener ProcessEvent} (twin : d.Twin roles d') (new : l.Twin roles l')
    (ok : d.addListener l = .ok d₁) :
    ∃ d₁', d'.addListener l' = .ok d₁' ∧ d₁.Twin roles d₁' := by
  obtain ⟨r, registered, ok⟩ := Except.bind_eq_ok.1 ok
  cases ok
  obtain ⟨r', registered', related⟩ := twin.listeners.register new registered
  refine ⟨_, Except.bind_eq_ok.2 ⟨r', registered', rfl⟩, ?_, related, twin.tasks⟩
  rw [twin.same]

theorem ProcessDefinition.Twin.task? {d d' : ProcessDefinition} (twin : d.Twin roles d')
    (name : String) : Option.Rel (Task.Twin roles) (d.task? name) (d'.task? name) := by
  refine forall₂_find? ?_ twin.tasks
  intro t t' related
  rw [related.name_eq]

theorem ProcessDefinition.Twin.addTask {d d' d₁ : ProcessDefinition} {t t' : Task}
    (twin : d.Twin roles d') (new : t.Twin roles t') (ok : d.addTask t = .ok d₁) :
    ∃ d₁', d'.addTask t' = .ok d₁' ∧ d₁.Twin roles d₁' := by
  unfold ProcessDefinition.addTask at ok ⊢
  rw [new.name_eq, isSome_of_rel (twin.task? t.name)]
  split at ok
  · cases ok
  · rename_i free
    cases ok
    rw [if_neg free]
    refine ⟨_, rfl, ?_, twin.listeners, forall₂_concat twin.tasks new⟩
    rw [twin.same]

/-- A definition is checked without a look at its listeners. -/
theorem ProcessDefinition.Twin.validate_eq {d d' : ProcessDefinition} (twin : d.Twin roles d') :
    d'.validate = d.validate := by
  have knows : d'.knows = d.knows := by
    funext name
    rw [knows_eq_isSome, knows_eq_isSome, isSome_of_rel (twin.task? name)]
  have successions : d'.successions = d.successions := by
    have tasks := twin.tasks
    unfold ProcessDefinition.successions
    generalize d.tasks = ts at tasks
    generalize d'.tasks = ts' at tasks
    induction tasks with
    | nil => rfl
    | cons same _ ih =>
        rw [List.flatMap_cons, List.flatMap_cons, ih, same.name_eq, same.next_eq]
  have start : d'.start = d.start := by rw [twin.same]
  have name : d'.name = d.name := by rw [twin.same]
  unfold validate
  rw [knows, successions, start, name]

/-! ## Wiring -/

theorem ScenarioError.lift_eq_ok_iff {α : Type} {x : Except WorkflowError α} {a : α} :
    ScenarioError.lift x = .ok a ↔ x = .ok a := by
  cases x <;> simp [ScenarioError.lift]

/-- Making a listener and registering it, and the same with its variant. -/
theorem ListenerSpec.Variant.register {ε α β : Type} [EventFamily ε] {l l' : ListenerSpec}
    (variant : l.Variant l') (role : roles l l') {R : α → β → Prop}
    {put : Listener ε → Except WorkflowError α} {put' : Listener ε → Except WorkflowError β}
    (twins : ∀ x x' a, x.Twin roles x' → put x = .ok a → ∃ b, put' x' = .ok b ∧ R a b)
    {wire : α → Wiring} (wire' : β → Wiring) {w : Wiring}
    (ok : (do return wire (← ScenarioError.lift (put (← l.build ε)))) = Except.ok w) :
    ∃ a b, R a b ∧ w = wire a ∧
      (do return wire' (← ScenarioError.lift (put' (← l'.build ε)))) = Except.ok (wire' b) := by
  obtain ⟨x, built, ok⟩ := Except.bind_eq_ok.1 ok
  obtain ⟨a, done, ok⟩ := Except.bind_eq_ok.1 ok
  cases ok
  obtain ⟨x', built', twin⟩ := variant.build role built
  obtain ⟨b, done', related⟩ := twins x x' a twin (ScenarioError.lift_eq_ok_iff.1 done)
  refine ⟨a, b, related, rfl, ?_⟩
  exact Except.bind_eq_ok.2 ⟨x', built', Except.bind_eq_ok.2
    ⟨b, ScenarioError.lift_eq_ok_iff.2 done', rfl⟩⟩

/-- Registering a listener and its variant. -/
theorem Wiring.Twin.add {w w' w₁ : Wiring} {l l' : ListenerSpec} (twin : w.Twin roles w')
    (role : roles l l') (variant : l.Variant l') (ok : w.add l = .ok w₁) :
    ∃ w₁', w'.add l' = .ok w₁' ∧ w₁.Twin roles w₁' := by
  have target : l'.target = l.target := by rw [variant.same]
  unfold Wiring.add at ok ⊢
  rw [target]
  generalize l.target = place at ok ⊢
  cases place with
  | managerProcess =>
      obtain ⟨r, r', related, rfl, ok'⟩ := variant.register role
        (fun _ _ _ => twin.processManager.register)
        (fun r => { w' with processManager := r }) ok
      exact ⟨_, ok', twin.process, twin.tasks, related, twin.taskManager, twin.catalogue⟩
  | managerTask =>
      obtain ⟨r, r', related, rfl, ok'⟩ := variant.register role
        (fun _ _ _ => twin.taskManager.register)
        (fun r => { w' with taskManager := r }) ok
      exact ⟨_, ok', twin.process, twin.tasks, twin.processManager, related, twin.catalogue⟩
  | process =>
      obtain ⟨d, d', related, rfl, ok'⟩ := variant.register role
        (fun _ _ _ => twin.process.addListener)
        (fun d => { w' with process := d }) ok
      exact ⟨_, ok', related, twin.tasks, twin.processManager, twin.taskManager, twin.catalogue⟩
  | task name =>
      have found : Option.Rel (Task.Twin roles) (w.tasks.reverse.find? (·.name == name))
          (w'.tasks.reverse.find? (·.name == name)) := by
        refine forall₂_find? ?_ (List.forall₂_reverse_iff.2 twin.tasks)
        intro t t' related
        rw [related.name_eq]
      dsimp only at ok ⊢
      generalize w.tasks.reverse.find? _ = here at found ok
      generalize w'.tasks.reverse.find? _ = here' at found ⊢
      cases found with
      | none => cases ok
      | some related =>
          obtain ⟨t, t', related', rfl, ok'⟩ := variant.register role
            (fun _ _ _ => related.addListener)
            (fun t => { w' with tasks := replaceLastTask t w'.tasks }) ok
          exact ⟨_, ok', twin.process, forall₂_replaceLastTask related' twin.tasks,
            twin.processManager, twin.taskManager, twin.catalogue⟩
  | service category spec =>
      obtain ⟨listener, built, ok⟩ := Except.bind_eq_ok.1 ok
      obtain ⟨selector, selected, ok⟩ := Except.bind_eq_ok.1 ok
      cases ok
      obtain ⟨listener', built', new⟩ := variant.build role built
      have gated : Gated.Twin roles ⟨listener, selector⟩ ⟨listener', selector⟩ :=
        ⟨new, fun s s' form => SelectorSpec.selector_eq selected form⟩
      refine ⟨{ w' with catalogue := w'.catalogue.register category ⟨listener', selector⟩ }, ?_,
        { twin with catalogue := ?_ }⟩
      · exact Except.bind_eq_ok.2 ⟨listener', built', Except.bind_eq_ok.2 ⟨selector, selected, rfl⟩⟩
      · intro other
        rw [Catalogue.get_register, Catalogue.get_register]
        split
        · exact forall₂_concat (twin.catalogue other) gated
        · exact twin.catalogue other

/-- Two related lists folded alike. -/
theorem foldlM_twin {α β γ δ ε : Type} {R : α → β → Prop} {S : γ → δ → Prop}
    {f : γ → α → Except ε γ} {g : δ → β → Except ε δ}
    (steps : ∀ x y a b a₁, R x y → S a b → f a x = .ok a₁ → ∃ b₁, g b y = .ok b₁ ∧ S a₁ b₁)
    {xs : List α} {ys : List β} (related : List.Forall₂ R xs ys) {a a₁ : γ} {b : δ} (start : S a b)
    (ok : xs.foldlM f a = .ok a₁) : ∃ b₁, ys.foldlM g b = .ok b₁ ∧ S a₁ b₁ := by
  induction related generalizing a b with
  | nil =>
      cases ok
      exact ⟨b, rfl, start⟩
  | cons first _ ih =>
      rw [List.foldlM_cons] at ok ⊢
      obtain ⟨a₂, here, ok⟩ := Except.bind_eq_ok.1 ok
      obtain ⟨b₂, there, on⟩ := steps _ _ _ _ _ first start here
      obtain ⟨b₁, rest, done⟩ := ih on ok
      exact ⟨b₁, Except.bind_eq_ok.2 ⟨b₂, there, rest⟩, done⟩

theorem twins_of_mapM {specs : List TaskSpec} {tasks : List Task}
    (built : specs.mapM TaskSpec.build = .ok tasks) :
    List.Forall₂ (Task.Twin roles) tasks tasks := by
  refine List.forall₂_same.2 fun t member => ?_
  obtain ⟨spec, -, made⟩ := exists_of_forall₂_right (mapM_eq_ok_iff.1 built) member
  exact TaskSpec.twin_of_build made

/-! ## Scenarios -/

/-- Two scenarios wired up with twins in every place. -/
structure BuiltScenario.Twin (roles : ListenerSpec → ListenerSpec → Prop)
    (b b' : BuiltScenario) : Prop where
  definition : b.definition.Twin roles b'.definition
  processManager : b.processManager.Twin roles b'.processManager
  taskManager : b.taskManager.Twin roles b'.taskManager
  catalogue : b.catalogue.Twin roles b'.catalogue
  form : b'.form = b.form
  actions : b'.actions = b.actions

/-- The parts that an accepted scenario is put together of. -/
theorem Scenario.parts_of_build {s : Scenario} {now : Instant} {b : BuiltScenario}
    (built : s.build now = .ok b) :
    (∀ form, s.form = some form → form.validate = .ok ()) ∧
    ∃ tasks wiring, s.tasks.mapM TaskSpec.build = .ok tasks ∧
      s.listeners.foldlM Wiring.add ⟨s.bareProcess, tasks, .empty, .empty, .empty⟩ = .ok wiring ∧
      wiring.tasks.foldlM ProcessDefinition.addTask wiring.process = .ok b.definition ∧
      b.definition.validate = .ok () ∧
      b = ⟨b.definition, wiring.processManager, wiring.taskManager, wiring.catalogue,
        s.processRow now, s.form, s.actions⟩ := by
  unfold build at built
  cases form : s.form with
  | none =>
      rw [form] at built
      obtain ⟨tasks, made, built⟩ := Except.bind_eq_ok.1 built
      obtain ⟨wiring, wired, built⟩ := Except.bind_eq_ok.1 built
      obtain ⟨definition, defined, built⟩ := Except.bind_eq_ok.1 built
      obtain ⟨_, valid, built⟩ := Except.bind_eq_ok.1 built
      cases built
      refine ⟨(by rintro form ⟨⟩), tasks, wiring, made, wired, ?_, ?_, rfl⟩
      · exact ScenarioError.lift_eq_ok_iff.1 defined
      · exact ScenarioError.lift_eq_ok_iff.1 valid
  | some form' =>
      rw [form] at built
      obtain ⟨_, checked, built⟩ := Except.bind_eq_ok.1 built
      obtain ⟨tasks, made, built⟩ := Except.bind_eq_ok.1 built
      obtain ⟨wiring, wired, built⟩ := Except.bind_eq_ok.1 built
      obtain ⟨definition, defined, built⟩ := Except.bind_eq_ok.1 built
      obtain ⟨_, valid, built⟩ := Except.bind_eq_ok.1 built
      cases built
      refine ⟨?_, tasks, wiring, made, wired, ?_, ?_, rfl⟩
      · rintro form ⟨⟩
        exact ScenarioError.lift_eq_ok_iff.1 checked
      · exact ScenarioError.lift_eq_ok_iff.1 defined
      · exact ScenarioError.lift_eq_ok_iff.1 valid

/-- A scenario whose parts are in order is accepted. -/
theorem Scenario.build_of_parts {s : Scenario} {tasks : List Task} {wiring : Wiring}
    {definition : ProcessDefinition} (form : ∀ form, s.form = some form → form.validate = .ok ())
    (made : s.tasks.mapM TaskSpec.build = .ok tasks)
    (wired : s.listeners.foldlM Wiring.add ⟨s.bareProcess, tasks, .empty, .empty, .empty⟩ =
      .ok wiring)
    (defined : wiring.tasks.foldlM ProcessDefinition.addTask wiring.process = .ok definition)
    (valid : definition.validate = .ok ()) (now : Instant) :
    s.build now = .ok ⟨definition, wiring.processManager, wiring.taskManager, wiring.catalogue,
      s.processRow now, s.form, s.actions⟩ := by
  have rest : (do
      let tasks ← s.tasks.mapM TaskSpec.build
      let wiring ← s.listeners.foldlM Wiring.add ⟨s.bareProcess, tasks, .empty, .empty, .empty⟩
      let definition ← ScenarioError.lift
        (wiring.tasks.foldlM ProcessDefinition.addTask wiring.process)
      ScenarioError.lift definition.validate
      return (⟨definition, wiring.processManager, wiring.taskManager, wiring.catalogue,
        s.processRow now, s.form, s.actions⟩ : BuiltScenario)) =
      .ok ⟨definition, wiring.processManager, wiring.taskManager, wiring.catalogue,
        s.processRow now, s.form, s.actions⟩ := by
    refine Except.bind_eq_ok.2 ⟨tasks, made, Except.bind_eq_ok.2 ⟨wiring, wired, ?_⟩⟩
    refine Except.bind_eq_ok.2 ⟨definition, ScenarioError.lift_eq_ok_iff.2 defined, ?_⟩
    exact Except.bind_eq_ok.2 ⟨(), ScenarioError.lift_eq_ok_iff.2 valid, rfl⟩
  unfold build
  cases here : s.form with
  | none =>
      rw [here] at rest
      exact rest
  | some form' =>
      rw [here] at rest
      exact Except.bind_eq_ok.2 ⟨(), ScenarioError.lift_eq_ok_iff.2 (form form' here), rest⟩

/-- A variant of an accepted scenario is accepted, and wired up alike. -/
theorem Scenario.twin_of_build {s s' : Scenario} (variant : s.Variant s') {now : Instant}
    {b : BuiltScenario} (built : s.build now = .ok b) (now' : Instant) :
    ∃ b', s'.build now' = .ok b' ∧ b.Twin (fun l l' => (l, l') ∈ s.listeners.zip s'.listeners) b' ∧
      b.process = s.processRow now ∧ b'.process = s.processRow now' := by
  obtain ⟨form, tasks, wiring, made, wired, defined, valid, same⟩ := parts_of_build built
  let roles : ListenerSpec → ListenerSpec → Prop :=
    fun l l' => (l, l') ∈ s.listeners.zip s'.listeners
  have listeners : List.Forall₂ (fun l l' => roles l l' ∧ l.Variant l') s.listeners s'.listeners :=
    List.forall₂_iff_zip.2 ⟨variant.listeners.length_eq, fun {l l'} member =>
      ⟨member, List.forall₂_zip variant.listeners member⟩⟩
  have bare : (⟨s.bareProcess, tasks, .empty, .empty, .empty⟩ : Wiring).Twin roles
      ⟨s.bareProcess, tasks, .empty, .empty, .empty⟩ :=
    ⟨⟨rfl, Registry.twin_empty, .nil⟩, twins_of_mapM made, Registry.twin_empty,
      Registry.twin_empty, fun category => by cases category <;> exact .nil⟩
  obtain ⟨wiring', wired', wirings⟩ := foldlM_twin
    (fun _ _ _ _ _ both twin ok => twin.add both.1 both.2 ok) listeners bare wired
  obtain ⟨definition', defined', definitions⟩ := foldlM_twin
    (fun _ _ _ _ _ new twin ok => twin.addTask new ok) wirings.tasks wirings.process defined
  have made' : s'.tasks.mapM TaskSpec.build = .ok tasks := by rw [variant.same]; exact made
  have bareProcess : s'.bareProcess = s.bareProcess := by rw [variant.same]; rfl
  have row : s'.processRow now' = s.processRow now' := by rw [variant.same]; rfl
  have form' : s'.form = s.form := by rw [variant.same]
  have actions : s'.actions = s.actions := by rw [variant.same]
  refine ⟨_, build_of_parts (by rw [form']; exact form) made' (by rw [bareProcess]; exact wired')
    defined' (by rw [definitions.validate_eq]; exact valid) now', ?_, ?_, row⟩
  · rw [same]
    exact ⟨definitions, wirings.processManager, wirings.taskManager, wirings.catalogue, form',
      actions⟩
  · rw [same]

end ApprovalFlow
