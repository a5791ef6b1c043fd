import ApprovalFlow.Proofs.Pass
import ApprovalFlow.Store.TaskTable
import Mathlib.Data.List.Duplicate
import Mathlib.Data.List.Flatten
import Mathlib.Data.List.Perm.Subperm

/-!
# How often a registration is asked

A service task that has the catalogue for a provider looks it up for each of its types, under the
category of the type. So what is registered in a category is asked, and dispatched, once for each
type of the category that the task has, and several types have one category.

* `Engine.Account`: which selectors a notification asks and which listeners it dispatches then.
* `Engine.OncePerRegistration`: nothing that is registered is asked or dispatched twice.
* `Task.once_per_registration_iff`: that holds, whatever is registered, exactly if no two of the
  task's types have one category.
-/

namespace ApprovalFlow

/-! ## What is asked -/

/-- The question that was put to a selector, if one was. -/
def Observation.consultation? : Observation → Option Consultation
  | consulted consultation => some consultation
  | _ => none

/-- The questions that were put to selectors, in order. -/
def consultations (trace : List Observation) : List Consultation :=
  trace.filterMap Observation.consultation?

theorem consultations_append (first last : List Observation) :
    consultations (first ++ last) = consultations first ++ consultations last :=
  List.filterMap_append

theorem consultations_consulted (asked : List Consultation) :
    consultations (asked.map .consulted) = asked := by
  unfold consultations
  rw [List.filterMap_map]
  exact List.filterMap_some

/-! ## What the catalogue supplies -/

namespace Catalogue

/-- What is registered, category by category. -/
def registrations (catalogue : Catalogue) : List Gated :=
  Category.all.flatMap catalogue.get

/-- The questions that looking up some types puts to selectors. -/
def asks (catalogue : Catalogue) (s : Snapshot) (types : List ServiceTaskType) :
    List Consultation :=
  types.flatMap fun taskType => catalogue.consultations s taskType.category

/-- The listeners that are found then. -/
def supplies (catalogue : Catalogue) (s : Snapshot) (types : List ServiceTaskType) :
    List (Listener TaskEvent) :=
  types.flatMap fun taskType => catalogue.accepted s taskType.category

end Catalogue

theorem Task.supply_of_catalogue {t : Task} {types : List ServiceTaskType}
    (kind : t.kind = .service ⟨types, [.catalogue]⟩) (catalogue : Catalogue) (s : Snapshot) :
    t.supply catalogue s = ⟨catalogue.asks s types, .ok (catalogue.supplies s types)⟩ := by
  unfold supply Catalogue.asks Catalogue.supplies
  rw [kind]
  dsimp only
  induction types generalizing t with
  | nil => rfl
  | cons taskType rest ih =>
      have later := ih (t := { t with kind := .service ⟨rest, [.catalogue]⟩ }) rfl
      simp only [List.map_cons, List.map_nil, List.flatMap_cons, List.singleton_append,
        Supply.ofPairs] at later ⊢
      rw [later]
      rfl

/-- Looking up each category at most once finds each registration at most once. -/
theorem flatMap_subperm {β : Type} {types : List ServiceTaskType}
    (apart : (types.map (·.category)).Nodup) (f : Category → List β) :
    (types.flatMap fun taskType => f taskType.category).Subperm (Category.all.flatMap f) := by
  have every : types.map (·.category) ⊆ Category.all := by
    intro category _
    cases category <;> decide
  obtain ⟨categories, perm, sublist⟩ := apart.subperm every
  refine ⟨categories.flatMap f, ?_, sublist.flatMap f⟩
  have same := perm.flatMap_right f
  rw [List.flatMap_map] at same
  exact same

section Modes

variable {ε β : Type} [DecidableEq ε]

/-- Those of some listeners that an event finds, whichever way they run. -/
theorem inLine_append_inPool_perm (event : ε) (f : Listener ε → Bool → β)
    (ls : List (Listener ε)) :
    ((inLine event ls).map (f · false) ++ (inPool event ls).map (f · true)).Perm
      ((ls.filter (·.event = event)).map fun l => f l l.isAsync) := by
  have line : (inLine event ls).map (f · false) =
      ((ls.filter (·.event = event)).filter fun l => !l.isAsync).map fun l => f l l.isAsync := by
    unfold inLine
    rw [List.filter_filter]
    simp only [Bool.and_comm]
    refine List.map_congr_left fun l member => ?_
    have mode := (Bool.and_eq_true_iff.1 (List.mem_filter.1 member).2).1
    rw [show l.isAsync = false by simpa using mode]
  have pool : (inPool event ls).map (f · true) =
      ((ls.filter (·.event = event)).filter (·.isAsync)).map fun l => f l l.isAsync := by
    unfold inPool
    rw [List.filter_filter]
    simp only [Bool.and_comm]
    refine List.map_congr_left fun l member => ?_
    rw [(Bool.and_eq_true_iff.1 (List.mem_filter.1 member).2).1]
  rw [line, pool, ← List.map_append]
  refine List.Perm.map _ (List.perm_append_comm.trans ?_)
  exact List.filter_append_perm _ _

end Modes

/-! ## What a notification dispatches -/

namespace Engine

variable {τ σ : Type} {e e' e'' : Engine τ σ}

/-- Between two states of the engine exactly these listeners have been dispatched, in this order:
some have been run in line, and then the others have been handed to the pool. -/
def Dispatched (is : List Invocation) (e e' : Engine τ σ) : Prop :=
  ∃ ran handed e₁, is = ran ++ handed ∧ Ran ran e e₁ ∧ e₁.pool = e.pool ∧
    Handed .task handed e₁ e'

theorem Heard.consultations_eq {events : List Dispatch}
    (heard : Heard (fun o => o.consultation? = none) events e e') :
    consultations e'.trace = consultations e.trace := by
  obtain ⟨more, trace, -, silent⟩ := heard.trace
  have none : consultations more = [] := List.filterMap_eq_nil_iff.2 silent
  rw [trace, consultations_append, none, List.append_nil]

theorem consultations_noteConsulted (e : Engine τ σ) (asked : List Consultation) :
    consultations (e.noteConsulted asked).trace = consultations e.trace ++ asked := by
  unfold noteConsulted
  rw [consultations_append, consultations_consulted]

theorem dispatched_of_ran {is : List Invocation} (ran : Ran is e e') (pools : e'.pool = e.pool) :
    Dispatched is e e' :=
  ⟨is, [], e', (List.append_nil is).symm, ran, pools, handed_nil .task e'⟩

variable [EventStore σ]

/-- What running some listeners in line comes to: the first few have run, and no selector has been
asked. -/
structure RunsInLine (is : List Invocation) (e e' : Engine τ σ) (answer : Except WorkflowError Unit)
    (ran : List Invocation) : Prop where
  front : ran <+: is
  made : Ran ran e e'
  pools : e'.pool = e.pool
  silent : consultations e'.trace = consultations e.trace
  whole : answer = .ok () → ran = is
  succeeds : (∀ i ∈ is, i.outcome = .success) → answer = .ok ()

theorem exists_runsInLine {is : List Invocation} {answer : Except WorkflowError Unit}
    (all : e.runAll is = (answer, e')) : ∃ ran, RunsInLine is e e' answer ran := by
  have first : ∀ (is : List Invocation) (e : Engine τ σ), ∃ ran, ran <+: is ∧
      Ran ran e (e.runAll is).2 ∧ ((e.runAll is).1 = .ok () → ran = is) := by
    intro is
    induction is with
    | nil => exact fun e => ⟨[], List.prefix_rfl, Ran.refl e, fun _ => rfl⟩
    | cons i rest ih =>
        intro e
        have head : Ran [i] e (e.runInLine i).2 := ran_run e i
        unfold runAll
        rcases result : e.runInLine i with ⟨err | ⟨⟩, e'⟩
        · rw [result] at head
          exact ⟨[i], List.prefix_append [i] rest, head, by rintro ⟨⟩⟩
        · rw [result] at head
          obtain ⟨ran, front, later, whole⟩ := ih e'
          refine ⟨i :: ran, List.cons_prefix_cons.2 ⟨rfl, front⟩, head.trans later, ?_⟩
          intro succeeds
          rw [whole succeeds]
  have silent : Heard (fun o => o.consultation? = none) [] e (e.runAll is).2 :=
    heard_runAll (fun _ _ => rfl) e
  have pools := pool_runAll e is
  have succeeds := (runAll_eq_ok_iff e is).2
  obtain ⟨ran, front, made, whole⟩ := first is e
  rw [all] at silent pools succeeds made whole
  exact ⟨ran, front, made, pools, silent.consultations_eq, whole, succeeds⟩

theorem consultations_submitAll (e : Engine τ σ) (is : List Invocation) :
    consultations (e.submitAll is).trace = consultations e.trace :=
  (heard_submitAll (fun _ _ => rfl) e).consultations_eq

/-- The run of a listener for a task. -/
def call (t : Task) (s : Snapshot) (isAsync : Bool) (l : Listener TaskEvent) : Invocation :=
  l.invocation ⟨t.name, t.displayName⟩ s isAsync

/-- The listeners that a notification finds in line, for a task that is supplied with some. -/
def found (e : Engine τ σ) (t : Task) (event : TaskEvent) (more : List (Listener TaskEvent)) :
    List (Listener TaskEvent) :=
  e.settings.taskManager.sync event ++ (t.listeners.sync event ++ inLine event more)

/-- The listeners that it finds for the pool. -/
def left (e : Engine τ σ) (t : Task) (event : TaskEvent) (more : List (Listener TaskEvent)) :
    List (Listener TaskEvent) :=
  e.settings.taskManager.async event ++ (t.listeners.async event ++ inPool event more)

/-- All that a notification dispatches for such a task if nothing fails. -/
def calls (e : Engine τ σ) (t : Task) (event : TaskEvent) (s : Snapshot)
    (more : List (Listener TaskEvent)) : List Invocation :=
  (e.found t event more).map (call t s false) ++ (e.left t event more).map (call t s true)

/-- What a notification does for a task that is supplied by the catalogue once for each of its
types: which selectors it asks, and which listeners it dispatches. -/
structure Account (e : Engine τ σ) (event : TaskEvent) (c : Context) (t : Task)
    (types : List ServiceTaskType) (asked : List Consultation) (is : List Invocation) : Prop where
  consulted : consultations (e.notify event c).2.trace = consultations e.trace ++ asked
  dispatched : Dispatched is e (e.notify event c).2
  /-- The selectors are asked type by type, once the manager's listeners have succeeded. -/
  asks : asked = [] ∨ asked = e.catalogue.asks c.snapshot types
  asks_all : (∀ l ∈ e.settings.taskManager.sync event, l.respond c.snapshot = .success) →
    asked = e.catalogue.asks c.snapshot types
  /-- The listeners that are accepted are dispatched type by type, until one fails. -/
  calls : is <+: e.calls t event c.snapshot (e.catalogue.supplies c.snapshot types)
  calls_all : (∀ l ∈ e.found t event (e.catalogue.supplies c.snapshot types),
      l.respond c.snapshot = .success) →
    is = e.calls t event c.snapshot (e.catalogue.supplies c.snapshot types)

variable {t : Task} {types : List ServiceTaskType} {c : Context}

omit [EventStore σ] in
theorem groups_of_catalogue (kind : t.kind = .service ⟨types, [.catalogue]⟩)
    (current : c.current = some t) (catalogue : Catalogue) (event : TaskEvent) :
    (EventScope.groups catalogue c event : Lookup (Groups TaskEvent)) =
      ⟨catalogue.asks c.snapshot types, .ok ((t.listeners.groups event).extendFor event
        (catalogue.supplies c.snapshot types))⟩ := by
  simp only [EventScope.groups, Context.task, current, Task.lookupGroups,
    Task.supply_of_catalogue kind]
  rfl

/-- A listener of the manager that fails ends the notification. -/
theorem notify_of_managed_error (current : c.current = some t) {e e₁ : Engine τ σ}
    {event : TaskEvent} {err : WorkflowError}
    (managed : (e.note (.dispatched .task event.name c.snapshot)).runAll
      ((e.settings.taskManager.sync event).map (call t c.snapshot false)) = (.error err, e₁)) :
    e.notify event c = (.error err, e₁) := by
  change (e.note (.dispatched (EventFamily.family TaskEvent) (EventFamily.name event)
    c.snapshot)).runAll (((EventScope.manager e.settings : Registry TaskEvent).sync event).map
      (·.invocation ⟨t.name, t.displayName⟩ c.snapshot false)) = _ at managed
  simp only [notify, Context.element_of_current current, managed]

/-- Otherwise the catalogue is asked, and then the task's own listeners and those it supplies are
run, and what is left is handed to the pool. -/
theorem notify_of_managed_ok (kind : t.kind = .service ⟨types, [.catalogue]⟩)
    (current : c.current = some t) {e e₁ : Engine τ σ} {event : TaskEvent}
    (managed : (e.note (.dispatched .task event.name c.snapshot)).runAll
      ((e.settings.taskManager.sync event).map (call t c.snapshot false)) = (.ok (), e₁)) :
    e.notify event c =
      match (e₁.noteConsulted (e.catalogue.asks c.snapshot types)).runAll
        ((t.listeners.sync event ++ inLine event (e.catalogue.supplies c.snapshot types)).map
          (call t c.snapshot false)) with
      | (.error err, e₂) => (.error err, e₂)
      | (.ok (), e₂) => (.ok (), e₂.submitAll
        ((e.left t event (e.catalogue.supplies c.snapshot types)).map
          (call t c.snapshot true))) := by
  have shared : e₁.catalogue = e.catalogue := by
    have heard : Heard (fun _ => True) [] (e.note (.dispatched .task event.name c.snapshot))
        ((e.note (.dispatched .task event.name c.snapshot)).runAll
          ((e.settings.taskManager.sync event).map (call t c.snapshot false))).2 :=
      heard_runAll (by simp) _
    rw [managed] at heard
    exact heard.catalogue
  change (e.note (.dispatched (EventFamily.family TaskEvent) (EventFamily.name event)
    c.snapshot)).runAll (((EventScope.manager e.settings : Registry TaskEvent).sync event).map
      (·.invocation ⟨t.name, t.displayName⟩ c.snapshot false)) = _ at managed
  simp only [notify, Context.element_of_current current, managed, shared,
    groups_of_catalogue kind current, Groups.extendFor_eq]
  rfl

omit [EventStore σ] in
theorem calls_eq (e : Engine τ σ) (t : Task) (event : TaskEvent) (s : Snapshot)
    (more : List (Listener TaskEvent)) :
    e.calls t event s more = (e.settings.taskManager.sync event).map (call t s false) ++
      ((t.listeners.sync event ++ inLine event more).map (call t s false) ++
        (e.left t event more).map (call t s true)) := by
  rw [calls, found, List.map_append, List.append_assoc]

omit [EventStore σ] in
theorem consultations_note_dispatched (e : Engine τ σ) (event : TaskEvent) (s : Snapshot) :
    consultations (e.note (.dispatched .task event.name s)).trace = consultations e.trace := by
  change consultations (e.trace ++ [_]) = _
  rw [consultations_append]
  exact List.append_nil _

/-- Nobody is asked if a listener of the manager fails. -/
theorem exists_account_of_error (current : c.current = some t) {e e₁ : Engine τ σ}
    {event : TaskEvent} {err : WorkflowError}
    (managed : (e.note (.dispatched .task event.name c.snapshot)).runAll
      ((e.settings.taskManager.sync event).map (call t c.snapshot false)) = (.error err, e₁)) :
    ∃ is, e.Account event c t types [] is := by
  obtain ⟨ran, runs⟩ := exists_runsInLine managed
  have begun := ran_dispatched e .task event.name c.snapshot
  have failed : ¬ ∀ l ∈ e.settings.taskManager.sync event, l.respond c.snapshot = .success := by
    intro calm
    cases runs.succeeds (List.forall_mem_map.2 calm)
  refine ⟨ran, ?_⟩
  constructor
  case consulted =>
    rw [notify_of_managed_error current managed, runs.silent, consultations_note_dispatched,
      List.append_nil]
  case dispatched =>
    rw [notify_of_managed_error current managed]
    exact dispatched_of_ran (begun.trans runs.made) runs.pools
  case asks => exact Or.inl rfl
  case asks_all => exact fun calm => (failed calm).elim
  case calls =>
    rw [calls_eq]
    exact runs.front.trans (List.prefix_append _ _)
  case calls_all =>
    intro calm
    exact (failed fun l member => calm l (List.mem_append_left _ member)).elim

/-- Every notification of the task can be accounted for. -/
theorem exists_account (kind : t.kind = .service ⟨types, [.catalogue]⟩)
    (current : c.current = some t) (e : Engine τ σ) (event : TaskEvent) :
    ∃ asked is, e.Account event c t types asked is := by
  rcases managed : (e.note (.dispatched .task event.name c.snapshot)).runAll
    ((e.settings.taskManager.sync event).map (call t c.snapshot false)) with ⟨_ | ⟨⟩, e₁⟩
  · exact ⟨[], exists_account_of_error current managed⟩
  obtain ⟨ran, runs⟩ := exists_runsInLine managed
  obtain rfl := runs.whole rfl
  let asks := e.catalogue.asks c.snapshot types
  have begun := (ran_dispatched e .task event.name c.snapshot).trans runs.made
  have before := begun.trans (ran_noteConsulted e₁ asks)
  rw [List.nil_append, List.append_nil] at before
  have asked : consultations (e₁.noteConsulted asks).trace = consultations e.trace ++ asks := by
    rw [consultations_noteConsulted, runs.silent, consultations_note_dispatched]
  have whole := notify_of_managed_ok kind current managed
  rcases served : (e₁.noteConsulted asks).runAll
    ((t.listeners.sync event ++ inLine event (e.catalogue.supplies c.snapshot types)).map
      (call t c.snapshot false)) with ⟨_ | ⟨⟩, e₂⟩
  · obtain ⟨more, later⟩ := exists_runsInLine served
    rw [served] at whole
    refine ⟨asks, (e.settings.taskManager.sync event).map (call t c.snapshot false) ++ more, ?_⟩
    constructor
    case consulted => rw [whole, later.silent, asked]
    case dispatched =>
      rw [whole]
      exact dispatched_of_ran (before.trans later.made) (later.pools.trans runs.pools)
    case asks => exact Or.inr rfl
    case asks_all => exact fun _ => rfl
    case calls =>
      rw [calls_eq, List.prefix_append_right_inj]
      exact later.front.trans (List.prefix_append _ _)
    case calls_all =>
      intro calm
      cases later.succeeds (List.forall_mem_map.2 fun l member =>
        calm l (List.mem_append_right _ member))
  · obtain ⟨more, later⟩ := exists_runsInLine served
    obtain rfl := later.whole rfl
    rw [served] at whole
    have family : ∀ i ∈ (e.left t event (e.catalogue.supplies c.snapshot types)).map
        (call t c.snapshot true), i.family = .task :=
      List.forall_mem_map.2 fun _ _ => rfl
    have handed := handed_submitAll family e₂
    refine ⟨asks, e.calls t event c.snapshot (e.catalogue.supplies c.snapshot types), ?_⟩
    constructor
    case consulted => rw [whole, consultations_submitAll, later.silent, asked]
    case dispatched =>
      rw [whole, calls_eq, ← List.append_assoc]
      exact ⟨_, _, e₂, rfl, before.trans later.made, later.pools.trans runs.pools, handed⟩
    case asks => exact Or.inr rfl
    case asks_all => exact fun _ => rfl
    case calls => exact List.prefix_rfl
    case calls_all => exact fun _ => rfl

/-! ## At most once -/

/-- The listeners of an event that are registered with a selector that accepts. -/
def due (e : Engine τ σ) (event : TaskEvent) (s : Snapshot) : List (Listener TaskEvent) :=
  ((e.catalogue.registrations.filter (·.selector s)).map (·.listener)).filter (·.event = event)

/-- A notification asks the selector of what is registered at most once, and beside the listeners of
the manager and of the task it dispatches what is registered at most once. -/
def OncePerRegistration (e : Engine τ σ) (event : TaskEvent) (c : Context) (t : Task) : Prop :=
  ∃ asked is, consultations (e.notify event c).2.trace = consultations e.trace ++ asked ∧
    Dispatched is e (e.notify event c).2 ∧
    asked.Subperm (e.catalogue.registrations.map (Gated.consult c.snapshot)) ∧
    is.Subperm (e.calls t event c.snapshot [] ++
      (e.due event c.snapshot).map fun l => call t c.snapshot l.isAsync l)

omit [EventStore σ] in
/-- What is supplied adds its own calls to those of the manager and of the task. -/
theorem calls_perm (e : Engine τ σ) (t : Task) (event : TaskEvent) (s : Snapshot)
    (more : List (Listener TaskEvent)) :
    (e.calls t event s more).Perm (e.calls t event s [] ++
      (more.filter (·.event = event)).map fun l => call t s l.isAsync l) := by
  have supplied := inLine_append_inPool_perm event (fun l isAsync => call t s isAsync l) more
  refine List.Perm.trans ?_ (supplied.append_left _)
  simp only [calls, found, left, inLine, inPool, List.filter_nil, List.append_nil, List.map_append,
    List.append_assoc]
  refine (List.Perm.append_left _ (List.Perm.append_left _ ?_))
  exact (List.perm_append_comm_assoc _ _ _).trans
    ((List.perm_append_comm_assoc _ _ _).append_left _)

theorem oncePerRegistration_of_apart (kind : t.kind = .service ⟨types, [.catalogue]⟩)
    (apart : (types.map (·.category)).Nodup) (e : Engine τ σ) (event : TaskEvent)
    (current : c.current = some t) : e.OncePerRegistration event c t := by
  obtain ⟨asked, is, account⟩ := exists_account kind current e event
  have asks : (e.catalogue.asks c.snapshot types).Subperm
      (e.catalogue.registrations.map (Gated.consult c.snapshot)) := by
    have once := flatMap_subperm apart fun category => e.catalogue.consultations c.snapshot category
    simp only [Catalogue.consultations_eq] at once
    rw [Catalogue.asks, Catalogue.registrations, List.map_flatMap]
    simp only [Catalogue.consultations_eq]
    exact once
  have supplies : (((e.catalogue.supplies c.snapshot types).filter (·.event = event)).map
      fun l => call t c.snapshot l.isAsync l).Subperm
      ((e.due event c.snapshot).map fun l => call t c.snapshot l.isAsync l) := by
    have once := flatMap_subperm apart fun category =>
      ((e.catalogue.accepted c.snapshot category).filter (·.event = event)).map
        fun l => call t c.snapshot l.isAsync l
    rw [← List.map_flatMap, ← List.filter_flatMap, ← List.map_flatMap,
      ← List.filter_flatMap] at once
    rw [due, Catalogue.registrations, List.filter_flatMap, List.map_flatMap]
    simp only [← Catalogue.accepted_eq]
    exact once
  refine ⟨asked, is, account.consulted, account.dispatched, ?_, ?_⟩
  · rcases account.asks with none | all
    · rw [none]
      exact List.nil_subperm
    · rw [all]
      exact asks
  · have some := account.calls.sublist.subperm.trans (calls_perm e t event c.snapshot _).subperm
    exact some.trans ((List.subperm_append_left _).2 supplies)

/-- Two types of one category have what is registered there asked twice. -/
theorem not_oncePerRegistration (kind : t.kind = .service ⟨types, [.catalogue]⟩)
    {category : Category} (again : List.Duplicate category (types.map (·.category)))
    {l : Listener TaskEvent}
    (only : e.catalogue = Catalogue.empty.register category ⟨l, .always⟩) {event : TaskEvent}
    (calm : e.settings.taskManager.sync event = []) (current : c.current = some t) :
    ¬ e.OncePerRegistration event c t := by
  rintro ⟨asked, is, consulted, -, once, -⟩
  obtain ⟨asked', is', account⟩ := exists_account kind current e event
  have all := account.asks_all (by simp [calm])
  have same := consulted.symm.trans account.consulted
  rw [List.append_cancel_left_eq, all] at same
  have twice := (List.duplicate_iff_sublist.1 again).flatMap
    fun category => e.catalogue.consultations c.snapshot category
  rw [List.flatMap_map] at twice
  have less := Nat.le_trans twice.length_le (same ▸ once).length_le
  have two : (([category, category] : List Category).flatMap fun category =>
      e.catalogue.consultations c.snapshot category).length = 2 := by
    rw [only]
    cases category <;> rfl
  have one : (e.catalogue.registrations.map (Gated.consult c.snapshot)).length = 1 := by
    rw [only]
    cases category <;> rfl
  omega

end Engine

/-- Whatever is registered, nothing of it is asked or dispatched twice in one notification exactly
if no two of the task's types have one category; in general the registrations of a category are
asked, and dispatched, once for each type of the category. -/
theorem Task.once_per_registration_iff {t : Task} {types : List ServiceTaskType}
    (kind : t.kind = .service ⟨types, [.catalogue]⟩) :
    (∀ (e : Engine TaskTable EventLog) (event : TaskEvent) (c : Context), c.current = some t →
      ∃ asked is, e.Account event c t types asked is) ∧
    ((∀ (e : Engine TaskTable EventLog) (event : TaskEvent) (c : Context), c.current = some t →
      e.OncePerRegistration event c t) ↔ (types.map (·.category)).Nodup) := by
  refine ⟨fun e event c current => Engine.exists_account kind current e event, ?_, ?_⟩
  · intro once
    refine Classical.byContradiction fun together => ?_
    obtain ⟨category, again⟩ := List.exists_duplicate_iff_not_nodup.2 together
    let l : Listener TaskEvent := ⟨"", .complete, false, fun _ => .success⟩
    let e : Engine TaskTable EventLog := .new ⟨.empty, .empty, ""⟩ 1 none
      (Catalogue.empty.register category ⟨l, .always⟩) .empty .empty default
    let c : Context := { Context.base (.named "" "") default none with current := some t }
    have only : e.catalogue = Catalogue.empty.register category ⟨l, .always⟩ := rfl
    exact Engine.not_oncePerRegistration kind again only rfl rfl (once e .complete c rfl)
  · intro apart e event c current
    exact Engine.oncePerRegistration_of_apart kind apart e event current

/-! ## A task that stops and deletes -/

namespace Cleanup

def push : Listener TaskEvent :=
  ⟨"push_sort_config", .complete, false, fun _ => .success⟩

/-- Both types of the task are of the category for sorting. -/
def cleanup : Task :=
  ⟨"cleanup", "Cleanup", .service ⟨[.stopSort, .deleteSort], [.catalogue]⟩, .empty, ["end"]⟩

/-- Its types are of two categories. -/
def rollout : Task :=
  { cleanup with kind := .service ⟨[.initMq, .stopSort], [.catalogue]⟩ }

def context (t : Task) : Context :=
  { Context.base (.named "P" "P") default none with current := some t }

def engine : Engine TaskTable EventLog :=
  .new ⟨.empty, .empty, "admin"⟩ 1 none (Catalogue.empty.register .sort ⟨push, .always⟩) .empty
    .empty default

theorem rollout_asks_once :
    rollout.kind = .service ⟨[.initMq, .stopSort], [.catalogue]⟩ ∧
      engine.OncePerRegistration .complete (context rollout) rollout := by
  refine ⟨rfl, (Task.once_per_registration_iff (t := rollout) rfl).2.2 (by decide) _ _ _ rfl⟩

/-- The one selector is asked twice, and its listener runs twice. -/
theorem cleanup_asks_twice :
    cleanup.kind = .service ⟨[.stopSort, .deleteSort], [.catalogue]⟩ ∧
      [ServiceTaskType.stopSort, .deleteSort].Nodup ∧
      engine.catalogue.registrations.length = 1 ∧
      ¬ engine.OncePerRegistration .complete (context cleanup) cleanup ∧
      consultations (engine.notify TaskEvent.complete (context cleanup)).2.trace =
        [⟨"push_sort_config", true⟩, ⟨"push_sort_config", true⟩] ∧
      (runs (engine.notify TaskEvent.complete (context cleanup)).2.trace).length = 2 := by
  refine ⟨rfl, by decide, rfl, ?_, by decide +kernel, by decide +kernel⟩
  have only : engine.catalogue = Catalogue.empty.register .sort ⟨push, .always⟩ := rfl
  have again : List.Duplicate Category.sort
      ([ServiceTaskType.stopSort, .deleteSort].map (·.category)) :=
    List.duplicate_iff_sublist.2 (List.Sublist.refl _)
  exact Engine.not_oncePerRegistration rfl again only rfl rfl

end Cleanup

end ApprovalFlow
