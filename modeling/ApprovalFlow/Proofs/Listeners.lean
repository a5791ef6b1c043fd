import ApprovalFlow.Engine.Notify

/-!
# Which listeners an event finds

A registry sorts its listeners by event and mode as they are registered, and a task sorts what its
providers supply behind them. Both keep the order they are given:

* `Registry.groups_of_ofListeners`: a registry finds the listeners of an event in the order in which
  they were registered.
* `Task.listeners_supply`: a task is supplied type by type, for each type provider by provider, and
  each provider's listeners come in the order in which it answers with them.

`ListedScope` says for both families of events where an element's listeners are listed.
-/

namespace ApprovalFlow

section Bound

variable {ε : Type} [DecidableEq ε]

/-- Those of some listeners that run in line on an event. -/
def inLine (event : ε) (ls : List (Listener ε)) : List (Listener ε) :=
  ls.filter fun l => l.event = event && !l.isAsync

/-- Those of some listeners that are left to a pool on an event. -/
def inPool (event : ε) (ls : List (Listener ε)) : List (Listener ε) :=
  ls.filter fun l => l.event = event && l.isAsync

theorem inLine_append (event : ε) (first last : List (Listener ε)) :
    inLine event (first ++ last) = inLine event first ++ inLine event last :=
  List.filter_append ..

theorem inPool_append (event : ε) (first last : List (Listener ε)) :
    inPool event (first ++ last) = inPool event first ++ inPool event last :=
  List.filter_append ..

theorem Groups.extendFor_eq (g : Groups ε) (event : ε) (ls : List (Listener ε)) :
    g.extendFor event ls = ⟨g.sync ++ inLine event ls, g.async ++ inPool event ls⟩ := by
  unfold extendFor inLine inPool
  rw [foldl_push, List.filter_filter, List.filter_filter]
  simp only [Bool.and_comm]

namespace Registry

/-- The registry that comes of registering listeners one after the other. -/
def ofListeners (ls : List (Listener ε)) : Except WorkflowError (Registry ε) :=
  ls.foldlM register .empty

theorem groups_add (r : Registry ε) (l : Listener ε) (event : ε) :
    (r.add l).groups event = (r.groups event).extendFor event [l] := by
  unfold add Groups.extendFor
  by_cases bound : event = l.event
  · simp [bound]
  · have other : l.event ≠ event := fun same => bound same.symm
    simp [bound, other]

/-- A registry finds the listeners of an event in the order in which they were registered. -/
theorem groups_of_ofListeners {ls : List (Listener ε)} {r : Registry ε}
    (registered : ofListeners ls = .ok r) (event : ε) :
    r.groups event = ⟨inLine event ls, inPool event ls⟩ := by
  have onwards : ∀ (ls : List (Listener ε)) (start : Registry ε),
      ls.foldlM register start = .ok r →
        r.groups event = (start.groups event).extendFor event ls := by
    intro ls
    induction ls with
    | nil =>
        rintro start ⟨⟩
        rw [Groups.extendFor_eq]
        simp [inLine, inPool]
    | cons l rest ih =>
        intro start registered
        rw [List.foldlM_cons] at registered
        unfold register at registered
        split at registered
        · cases registered
        · have later := ih _ registered
          rw [later, groups_add, Groups.extendFor_eq, Groups.extendFor_eq, Groups.extendFor_eq,
            List.append_assoc, List.append_assoc, ← inLine_append, ← inPool_append]
          rfl
  rw [onwards ls .empty registered, Groups.extendFor_eq]
  rfl

end Registry

end Bound

/-! ## What providers supply -/

/-- What a provider answers with for one type of work. -/
def Provider.answer (catalogue : Catalogue) (s : Snapshot) (taskType : ServiceTaskType) :
    Provider → Except WorkflowError (List (Listener TaskEvent))
  | .catalogue => .ok (catalogue.accepted s taskType.category)
  | .supplier supply => supply s taskType

/-- What the providers of a task supply: for each of its types what each provider answers with, or
the error of the first that fails. -/
def Task.supplied (t : Task) (catalogue : Catalogue) (s : Snapshot) :
    Except WorkflowError (List (Listener TaskEvent)) :=
  match t.kind with
  | .user _ => .ok []
  | .service part => do
    let byType ← part.types.mapM fun taskType => do
      let byProvider ← part.providers.mapM (·.answer catalogue s taskType)
      return byProvider.flatten
    return byType.flatten

namespace Supply

variable (catalogue : Catalogue) (s : Snapshot)

theorem listeners_ofProvider (taskType : ServiceTaskType) (p : Provider) :
    (ofProvider catalogue s taskType p).listeners = p.answer catalogue s taskType := by
  cases p <;> rfl

theorem listeners_append (first : Supply) (second : Unit → Supply) :
    (first.append second).listeners = do
      let early ← first.listeners
      let late ← (second ()).listeners
      return early ++ late := by
  unfold append
  cases first.listeners with
  | error err => rfl
  | ok ls =>
      dsimp only
      cases (second ()).listeners <;> rfl

theorem listeners_ofPairs_append (front back : List (ServiceTaskType × Provider)) :
    (ofPairs catalogue s (front ++ back)).listeners = do
      let early ← (ofPairs catalogue s front).listeners
      let late ← (ofPairs catalogue s back).listeners
      return early ++ late := by
  induction front with
  | nil =>
      rw [List.nil_append, ofPairs, nothing]
      cases (ofPairs catalogue s back).listeners <;> rfl
  | cons pair rest ih =>
      obtain ⟨taskType, p⟩ := pair
      rw [List.cons_append, ofPairs, listeners_append, ih, ofPairs, listeners_append]
      simp only [bind_assoc, pure_bind, List.append_assoc]

/-- For one type of work the providers answer in order. -/
theorem listeners_ofPairs_providers (taskType : ServiceTaskType) (providers : List Provider) :
    (ofPairs catalogue s (providers.map fun p => (taskType, p))).listeners = do
      let byProvider ← providers.mapM (·.answer catalogue s taskType)
      return byProvider.flatten := by
  induction providers with
  | nil => rfl
  | cons p rest ih =>
      rw [List.map_cons, ofPairs, listeners_append, ih, listeners_ofProvider, List.mapM_cons]
      simp only [bind_assoc, pure_bind, List.flatten_cons]

/-- The types of work are answered for in order. -/
theorem listeners_ofPairs_types (providers : List Provider) (types : List ServiceTaskType) :
    (ofPairs catalogue s
      (types.flatMap fun taskType => providers.map fun p => (taskType, p))).listeners = do
      let byType ← types.mapM fun taskType => do
        let byProvider ← providers.mapM (·.answer catalogue s taskType)
        return byProvider.flatten
      return byType.flatten := by
  induction types with
  | nil => rfl
  | cons taskType rest ih =>
      rw [List.flatMap_cons, listeners_ofPairs_append, ih, listeners_ofPairs_providers,
        List.mapM_cons]
      simp only [bind_assoc, pure_bind, List.flatten_cons]

end Supply

theorem Task.listeners_supply (t : Task) (catalogue : Catalogue) (s : Snapshot) :
    (t.supply catalogue s).listeners = t.supplied catalogue s := by
  unfold supply supplied
  cases t.kind with
  | user part => rfl
  | service part => exact Supply.listeners_ofPairs_types catalogue s part.providers part.types

/-! ## Where an element's listeners are listed -/

/-- Where a family of events has the listeners of an element: those registered on it, and those
supplied to it on demand. -/
class ListedScope (ε : Type) [DecidableEq ε] [EventScope ε] where
  /-- The listeners registered on the element that a context is at. -/
  registry : Context → Registry ε
  /-- The listeners supplied to it. -/
  supplied : Catalogue → Context → Except WorkflowError (List (Listener ε))
  /-- A notification finds both, in this order. -/
  found_groups : ∀ {catalogue : Catalogue} {c : Context} {event : ε} {element : Element},
    EventScope.element ε c = .ok element →
      (EventScope.groups catalogue c event).found =
        (supplied catalogue c).map (((registry c).groups event).extendFor event)

/-- The listeners of a process are those of its definition. -/
instance : ListedScope ProcessEvent where
  registry c := c.definition.listeners
  supplied _ _ := .ok []
  found_groups _ := rfl

/-- The task a context is at. -/
instance : ListedScope TaskEvent where
  registry c := (c.current.map (·.listeners)).getD .empty
  supplied catalogue c := c.task.bind (·.supplied catalogue c.snapshot)
  found_groups {catalogue c event element} there := by
    have current : ∃ t, c.current = some t := by
      cases here : c.current with
      | none => simp [EventScope.element, Context.task, here, Except.map] at there
      | some t => exact ⟨t, rfl⟩
    obtain ⟨t, here⟩ := current
    have at_task : c.task = .ok t := by simp [Context.task, here]
    simp only [EventScope.groups, at_task, here, Task.lookupGroups, Task.listeners_supply]
    rfl

end ApprovalFlow
