import ApprovalFlow.Proofs.Pass
import ApprovalFlow.Proofs.Registering

/-!
# A notification by name

Listeners can be asked for by name instead of by event. The manager may have a listener of the
name, and so may the element; each is dispatched once, whatever its event.

* `NamedScope`: the listener of a name is the element's own, or else the first that is supplied to
  it. `Task.supplied` has the order in which a task is supplied.
* `Engine.dispatchFound_of_stop`, `Engine.dispatchFound_of_calm`: what becomes of one listener.
* `Engine.notifyByName_pass`: the whole notification. A name is found if and only if some event
  finds a listener of that name.
-/

namespace ApprovalFlow

/-! ## Which listener a name finds -/

/-- The listener of a name among an element's own and those supplied to it, which are asked for
only if it has none itself. -/
def namedBy {ε : Type} (name : String) (own : List (Listener ε))
    (supplied : Except WorkflowError (List (Listener ε))) :
    Except WorkflowError (Option (Listener ε)) :=
  match own.find? (·.name == name) with
  | some l => .ok (some l)
  | none => supplied.map (List.find? (·.name == name))

theorem namedBy_ok {ε : Type} (name : String) (own more : List (Listener ε)) :
    namedBy name own (.ok more) =
      .ok ((own.find? (·.name == name)).or (more.find? (·.name == name))) := by
  unfold namedBy
  cases own.find? (·.name == name) <;> rfl

/-- A family whose elements look a name up where they have their listeners. -/
class NamedScope (ε : Type) [DecidableEq ε] [EventScope ε] [ListedScope ε] : Prop where
  /-- The own listeners come first. -/
  found_find : ∀ {catalogue : Catalogue} {c : Context} {name : String} {element : Element},
    EventScope.element ε c = .ok element →
      (EventScope.find (ε := ε) catalogue c name).found =
        namedBy name (ListedScope.registry (ε := ε) c).listeners (ListedScope.supplied catalogue c)

instance : NamedScope ProcessEvent where
  found_find {catalogue c name element} _ := by
    simp only [ListedScope.registry, ListedScope.supplied, namedBy_ok, List.find?_nil,
      Option.or_none]
    rfl

instance : NamedScope TaskEvent where
  found_find {catalogue c name element} there := by
    have current : ∃ t, c.current = some t := by
      cases here : c.current with
      | none => simp [EventScope.element, Context.task, here, Except.map] at there
      | some t => exact ⟨t, rfl⟩
    obtain ⟨t, here⟩ := current
    have at_task : c.task = .ok t := by simp [Context.task, here]
    have own : (ListedScope.registry (ε := TaskEvent) c).listeners.find? (·.name == name) =
        t.listeners.find? name := by
      simp only [ListedScope.registry, here]
      rfl
    have supplied : ListedScope.supplied (ε := TaskEvent) catalogue c =
        t.supplied catalogue c.snapshot := by
      simp only [ListedScope.supplied, at_task]
      rfl
    unfold namedBy
    rw [own, supplied, ← Task.listeners_supply]
    simp only [EventScope.find, at_task, Task.lookupListener]
    cases t.listeners.find? name <;> rfl

/-- A listener of a name is found if and only if some event finds one. -/
theorem namedBy_isSome_iff {ε : Type} [DecidableEq ε] {own : List (Listener ε)} {r : Registry ε}
    (registered : Registry.ofListeners own = .ok r) (name : String) (more : List (Listener ε)) :
    ((own.find? (·.name == name)).or (more.find? (·.name == name))).isSome ↔
      ∃ event, ∃ l ∈ ((r.groups event).extendFor event more).sync ++
        ((r.groups event).extendFor event more).async, l.name = name := by
  have sorts := Registry.sorts_of_ofListeners registered
  have known : ((own.find? (·.name == name)).or (more.find? (·.name == name))).isSome ↔
      ∃ l ∈ own ++ more, l.name = name := by
    rw [Option.isSome_or, Bool.or_eq_true, List.find?_isSome, List.find?_isSome]
    simp only [List.mem_append, beq_iff_eq, or_and_right, exists_or]
  rw [known]
  simp only [sorts.groups, Groups.extendFor_eq, ← inLine_append, ← inPool_append,
    mem_inLine_append_inPool]
  constructor
  · rintro ⟨l, member, named⟩
    exact ⟨l.event, l, ⟨member, rfl⟩, named⟩
  · rintro ⟨event, l, ⟨member, -⟩, named⟩
    exact ⟨l, member, named⟩

/-! ## One listener -/

/-- A listener is run in line, because it is synchronous or has to be. -/
def Listener.InLine {ε : Type} (l : Listener ε) (forceSync : Bool) : Prop :=
  forceSync = true ∨ l.isAsync = false

namespace Engine

variable {τ σ : Type} {ε : Type} [EventScope ε]

/-- What has become of a listener that was dispatched and of which nothing is left to report: if it
was run in line, it has run; otherwise the pool has it. -/
structure DispatchedOne (forceSync : Bool) (element : Element) (s : Snapshot)
    (found : Option (Listener ε)) (e e' : Engine τ σ) : Prop where
  nobody : found = none → e' = e
  inLine : ∀ l, found = some l → l.InLine forceSync →
    e'.trace = e.trace ++ [(l.invocation element s false).observation] ∧ e'.pool = e.pool
  submitted : ∀ l, found = some l → ¬ l.InLine forceSync →
    Handed (EventFamily.family ε) [l.invocation element s true] e e'

variable [EventStore σ] {forceSync : Bool} {element : Element} {s : Snapshot}

theorem dispatchFound_of_stop (e : Engine τ σ) (element : Element) {l : Listener ε}
    (line : l.InLine forceSync) {err : WorkflowError} (stops : l.Stops s err) :
    ∃ e', e.dispatchFound (some l) forceSync element s = (.error err, e') ∧
      e'.trace = e.trace ++ [(l.invocation element s false).observation] ∧ e'.pool = e.pool := by
  have answer : ((l.invocation element s false).outcome).toResult l.name = .error err :=
    stops.toResult
  refine ⟨(e.run (l.invocation element s false)).2, ?_, trace_run _ _, pool_run _ _⟩
  have mode : (forceSync || !l.isAsync) = true := by
    rcases line with forced | sync
    · simp [forced]
    · simp [sync]
  unfold dispatchFound dispatch
  dsimp only
  rw [if_pos mode]
  unfold runInLine
  dsimp only
  rw [run_outcome]
  exact congrArg (·, _) answer

theorem dispatchFound_of_calm (e : Engine τ σ) (element : Element) {found : Option (Listener ε)}
    (calm : ∀ l, found = some l → l.InLine forceSync → l.respond s = .success) :
    ∃ e', e.dispatchFound found forceSync element s = (.ok (), e') ∧
      DispatchedOne forceSync element s found e e' := by
  cases found with
  | none => exact ⟨e, rfl, fun _ => rfl, by simp, by simp⟩
  | some l =>
      unfold dispatchFound dispatch
      dsimp only
      by_cases mode : (forceSync || !l.isAsync) = true
      · have line : l.InLine forceSync := by simpa [Listener.InLine] using mode
        have succeeds : (l.invocation element s false).outcome = .success := calm l rfl line
        rw [if_pos mode]
        unfold runInLine
        dsimp only
        rw [run_outcome, succeeds]
        refine ⟨_, rfl, by simp, ?_, ?_⟩
        · rintro _ ⟨⟩ -
          exact ⟨trace_run _ _, pool_run _ _⟩
        · rintro _ ⟨⟩ left
          exact (left line).elim
      · have left : ¬ l.InLine forceSync := by simpa [Listener.InLine] using mode
        rw [if_neg mode]
        refine ⟨_, rfl, by simp, ?_, ?_⟩
        · rintro _ ⟨⟩ line
          exact (left line).elim
        · rintro _ ⟨⟩ -
          have own : ∀ i ∈ [l.invocation element s true], i.family = EventFamily.family ε := by
            simp [Listener.invocation]
          exact handed_submitAll own e

/-- An error comes from a listener that was run in line. -/
theorem inLine_of_dispatchFound (e : Engine τ σ) {found : Option (Listener ε)}
    {err : WorkflowError} (failed : (e.dispatchFound found forceSync element s).1 = .error err) :
    ∃ l, found = some l ∧ l.InLine forceSync ∧ (l.respond s).toResult l.name = .error err := by
  cases found with
  | none => cases failed
  | some l =>
      unfold dispatchFound dispatch at failed
      dsimp only at failed
      split at failed
      · rename_i mode
        unfold runInLine at failed
        dsimp only at failed
        rw [run_outcome] at failed
        exact ⟨l, rfl, by simpa [Listener.InLine] using mode, failed⟩
      · cases failed

/-! ## The manager's listener, then the element's -/

theorem catalogue_dispatchFound (e : Engine τ σ) (found : Option (Listener ε)) (forceSync : Bool)
    (element : Element) (s : Snapshot) :
    (e.dispatchFound found forceSync element s).2.catalogue = e.catalogue := by
  have line (i : Invocation) : Heard (fun _ => True) [] e (e.run i).2 := heard_run trivial e
  have pool (i : Invocation) : Heard (fun _ => True) [] e (e.submit i) := heard_submit trivial e
  cases found with
  | none => rfl
  | some l =>
      unfold dispatchFound dispatch
      dsimp only
      split
      · exact (line _).catalogue
      · exact (pool _).catalogue

/-- How a notification by name goes, given the listeners of the manager and of the element in order
of registration and what the element's providers supply. -/
structure ByName [DecidableEq ε] (e : Engine τ σ) (name : String) (forceSync : Bool) (c : Context)
    (element : Element) (managed own : List (Listener ε))
    (supplied : Except WorkflowError (List (Listener ε))) : Prop where
  /-- The manager's listener, run in line, does not succeed: the caller gets its error, and nobody
  is consulted or run after it. -/
  stops : ∀ l, managed.find? (·.name == name) = some l → l.InLine forceSync →
    ∀ err, l.Stops c.snapshot err → ∃ e', e.notifyByName ε name forceSync c = (.error err, e') ∧
      e'.trace = e.trace ++ [(l.invocation element c.snapshot false).observation] ∧
      e'.pool = e.pool
  /-- Otherwise it is dispatched, and then the element is asked for its own. -/
  goesOn : (∀ l, managed.find? (·.name == name) = some l → l.InLine forceSync →
      l.respond c.snapshot = .success) →
    ∃ e₁ asked, DispatchedOne forceSync element c.snapshot (managed.find? (·.name == name)) e e₁ ∧
      (∀ err, namedBy name own supplied = .error err →
        e.notifyByName ε name forceSync c = (.error err, e₁.noteConsulted asked)) ∧
      ∀ found, namedBy name own supplied = .ok found →
        (∀ l, found = some l → l.InLine forceSync → ∀ err, l.Stops c.snapshot err →
          ∃ e', e.notifyByName ε name forceSync c = (.error err, e') ∧
            e'.trace = (e₁.noteConsulted asked).trace ++
              [(l.invocation element c.snapshot false).observation] ∧
            e'.pool = (e₁.noteConsulted asked).pool) ∧
        ((∀ l, found = some l → l.InLine forceSync → l.respond c.snapshot = .success) →
          ∃ e', e.notifyByName ε name forceSync c = (.ok (), e') ∧
            DispatchedOne forceSync element c.snapshot found (e₁.noteConsulted asked) e')
  /-- Without a listener of the name all is well, and nothing is recorded. -/
  nobody : managed.find? (·.name == name) = none → namedBy name own supplied = .ok none →
    ∃ e', e.notifyByName ε name forceSync c = (.ok (), e') ∧ e'.events = e.events ∧
      Ran [] e e' ∧ e'.pool = e.pool
  /-- An error is that of a listener that was run in line or that of the providers. -/
  blames : ∀ err, (e.notifyByName ε name forceSync c).1 = .error err →
    namedBy name own supplied = .error err ∨
      ∃ l, (managed.find? (·.name == name) = some l ∨ namedBy name own supplied = .ok (some l)) ∧
        l.InLine forceSync ∧ (l.respond c.snapshot).toResult l.name = .error err
  /-- The manager has a listener of the name if and only if it has one for some event. -/
  managed : (managed.find? (·.name == name)).isSome ↔
    ∃ event, ∃ l ∈ (EventScope.manager e.settings : Registry ε).sync event ++
      (EventScope.manager e.settings : Registry ε).async event, l.name = name
  /-- If the providers do not fail, the element's listener is its own or else the first that is
  supplied, and there is one if and only if a notification of some event would find one. -/
  agrees : ∀ more, supplied = .ok more →
    namedBy name own supplied =
        .ok ((own.find? (·.name == name)).or (more.find? (·.name == name))) ∧
      (((own.find? (·.name == name)).or (more.find? (·.name == name))).isSome ↔
        ∃ (event : ε) (groups : Groups ε),
          (EventScope.groups e.catalogue c event).found = .ok groups ∧
            ∃ l ∈ groups.sync ++ groups.async, l.name = name)

section

variable {c : Context}

theorem notifyByName_of_error (e : Engine τ σ) {name : String}
    (there : EventScope.element ε c = .ok element) {err : WorkflowError} {e₁ : Engine τ σ}
    (first : e.dispatchFound ((EventScope.manager e.settings : Registry ε).find? name) forceSync
      element c.snapshot = (.error err, e₁)) :
    e.notifyByName ε name forceSync c = (.error err, e₁) := by
  unfold notifyByName
  simp only [there, first]

theorem notifyByName_of_ok (e : Engine τ σ) {name : String}
    (there : EventScope.element ε c = .ok element) {e₁ : Engine τ σ}
    (first : e.dispatchFound ((EventScope.manager e.settings : Registry ε).find? name) forceSync
      element c.snapshot = (.ok (), e₁)) :
    ∃ asked, e.notifyByName ε name forceSync c =
      match (EventScope.find (ε := ε) e.catalogue c name).found with
      | .error err => (.error err, e₁.noteConsulted asked)
      | .ok found => (e₁.noteConsulted asked).dispatchFound found forceSync element c.snapshot := by
  have shared : e₁.catalogue = e.catalogue := by
    have kept := catalogue_dispatchFound e ((EventScope.manager e.settings : Registry ε).find? name)
      forceSync element c.snapshot
    rw [first] at kept
    exact kept
  refine ⟨(EventScope.find (ε := ε) e.catalogue c name).consultations, ?_⟩
  unfold notifyByName
  cases found : (EventScope.find (ε := ε) e.catalogue c name).found with
  | error err => simp only [there, first, shared, found]
  | ok l => simp only [there, first, shared, found]

end

theorem notifyByName_pass [DecidableEq ε] [ListedScope ε] [NamedScope ε] {c : Context}
    {managed own : List (Listener ε)} (e : Engine τ σ) (name : String) (forceSync : Bool)
    (there : EventScope.element ε c = .ok element)
    (manager : Registry.ofListeners managed = .ok (EventScope.manager e.settings))
    (registered : Registry.ofListeners own = .ok (ListedScope.registry c)) :
    e.ByName name forceSync c element managed own (ListedScope.supplied e.catalogue c) := by
  have hit : (EventScope.manager e.settings : Registry ε).find? name =
      managed.find? (·.name == name) := by
    rw [Registry.find?, (Registry.sorts_of_ofListeners manager).listeners]
  have found_eq : (EventScope.find (ε := ε) e.catalogue c name).found =
      namedBy name own (ListedScope.supplied e.catalogue c) := by
    rw [NamedScope.found_find there, (Registry.sorts_of_ofListeners registered).listeners]
  constructor
  case stops =>
    intro l first line err stops
    obtain ⟨e', answer, ran, pools⟩ := dispatchFound_of_stop e element line stops
    rw [← first, ← hit] at answer
    exact ⟨e', notifyByName_of_error e there answer, ran, pools⟩
  case goesOn =>
    intro calm
    obtain ⟨e₁, answer, dispatched⟩ := dispatchFound_of_calm e element calm
    rw [← hit] at answer
    obtain ⟨asked, onwards⟩ := notifyByName_of_ok e there answer
    refine ⟨e₁, asked, dispatched, fun err failed => ?_, fun found looked => ⟨?_, ?_⟩⟩
    · rw [onwards, found_eq, failed]
    · rintro l rfl line err stops
      rw [onwards, found_eq, looked]
      exact dispatchFound_of_stop _ element line stops
    · intro calm
      rw [onwards, found_eq, looked]
      exact dispatchFound_of_calm _ element calm
  case nobody =>
    intro first second
    have answer : e.dispatchFound ((EventScope.manager e.settings : Registry ε).find? name)
        forceSync element c.snapshot = (.ok (), e) := by rw [hit, first]; rfl
    obtain ⟨asked, onwards⟩ := notifyByName_of_ok e there answer
    rw [found_eq, second] at onwards
    exact ⟨e.noteConsulted asked, onwards, rfl, ran_noteConsulted e asked, rfl⟩
  case blames =>
    intro err failed
    rcases answer : e.dispatchFound ((EventScope.manager e.settings : Registry ε).find? name)
      forceSync element c.snapshot with ⟨err' | ⟨⟩, e₁⟩
    · rw [notifyByName_of_error e there answer] at failed
      cases failed
      obtain ⟨l, first, line, outcome⟩ := inLine_of_dispatchFound e (congrArg Prod.fst answer)
      exact Or.inr ⟨l, Or.inl (hit ▸ first), line, outcome⟩
    · obtain ⟨asked, onwards⟩ := notifyByName_of_ok e there answer
      rw [onwards, found_eq] at failed
      cases looked : namedBy name own (ListedScope.supplied e.catalogue c) with
      | error err' =>
          rw [looked] at failed
          exact Or.inl (congrArg Except.error (Except.error.inj failed))
      | ok found =>
          rw [looked] at failed
          obtain ⟨l, rfl, line, outcome⟩ := inLine_of_dispatchFound _ failed
          exact Or.inr ⟨l, Or.inr rfl, line, outcome⟩
  case managed =>
    rw [← hit]
    exact (Registry.sorts_of_ofListeners manager).find?_isSome_iff name
  case agrees =>
    intro more supply
    refine ⟨by rw [supply, namedBy_ok], ?_⟩
    rw [namedBy_isSome_iff registered name more]
    refine exists_congr fun event => ?_
    rw [ListedScope.found_groups there, supply]
    simp only [Except.map, Except.ok.injEq, exists_eq_left']

end Engine

/-! ## The deployment -/

namespace Deployment

/-- The catalogue's listener can be asked for by its name, and its refusal reaches the caller. -/
theorem deployed_by_name :
    EventScope.element TaskEvent context = .ok ⟨"deploy", "Deploy"⟩ ∧
      Registry.ofListeners managed = .ok (EventScope.manager engine.settings) ∧
      Registry.ofListeners own = .ok (ListedScope.registry context) ∧
      engine.ByName "topic" false context ⟨"deploy", "Deploy"⟩ managed own
        (ListedScope.supplied engine.catalogue context) ∧
      (engine.notifyByName TaskEvent "topic" false context).1 =
        .error (.listenerFailed "topic" "no quota") := by
  have pass : engine.ByName "topic" false context ⟨"deploy", "Deploy"⟩ managed own
      (ListedScope.supplied engine.catalogue context) :=
    Engine.notifyByName_pass engine "topic" false rfl rfl rfl
  refine ⟨rfl, rfl, rfl, pass, ?_⟩
  obtain ⟨e₁, asked, -, -, onwards⟩ := pass.goesOn fun l found => by cases found
  obtain ⟨e', answer, -⟩ := (onwards (some (listener "topic" false (.refusal "no quota"))) rfl).1
    _ rfl (Or.inr rfl) _ (.refusal rfl)
  exact congrArg Prod.fst answer

end Deployment

end ApprovalFlow
