import ApprovalFlow.Proofs.Listeners
import ApprovalFlow.Proofs.Scenario.Twins
import ApprovalFlow.Proofs.Timeless

/-!
# What an event finds in a scenario

Contexts of two variants of a scenario are twins if they are at the same place of the process and
their rows differ at most in their times. `SharedScope` says for both families of events that twins
find twins, and that in a scenario nothing goes wrong on the way: whatever cannot be found is the
fault of the definition, and the catalogue never fails.
-/

namespace ApprovalFlow

section Places

variable (roles : ListenerSpec → ListenerSpec → Prop)

/-- Two groups with twins in every place. -/
structure Groups.Twin {ε : Type} [EventFamily ε] (g g' : Groups ε) : Prop where
  sync : List.Forall₂ (Listener.Twin roles) g.sync g'.sync
  async : List.Forall₂ (Listener.Twin roles) g.async g'.async
  inLine : ∀ l ∈ g.sync, l.isAsync = false
  inPool : ∀ l ∈ g.async, l.isAsync = true

/-- Two engines' settings with twins in every place. -/
structure Settings.Twin (s s' : Settings) : Prop where
  processManager : s.processManager.Twin roles s'.processManager
  taskManager : s.taskManager.Twin roles s'.taskManager
  systemOperator : s'.systemOperator = s.systemOperator

/-- Two contexts at the same place of two variants of a process. -/
structure Context.Twin (c c' : Context) : Prop where
  applicant : c'.applicant = c.applicant
  definition : c.definition.Twin roles c'.definition
  form : c'.form = c.form
  process : c.process.Alike c'.process
  current : Option.Rel (Task.Twin roles) c.current c'.current
  action : Option.Rel ActionRequest.Alike c.action c'.action
  newTasks : List.Forall₂ TaskRow.Alike c.newTasks c'.newTasks

end Places

variable {roles : ListenerSpec → ListenerSpec → Prop}

theorem Registry.Twin.groups {ε : Type} [EventFamily ε] {r r' : Registry ε}
    (twin : r.Twin roles r') (event : ε) : (r.groups event).Twin roles (r'.groups event) :=
  ⟨twin.sync event, twin.async event, twin.inLine event, twin.inPool event⟩

/-- Extending twins by twins. -/
theorem Groups.Twin.extendFor {ε : Type} [EventFamily ε] [DecidableEq ε] {g g' : Groups ε}
    (twin : g.Twin roles g') (event : ε) {ls ls' : List (Listener ε)}
    (more : List.Forall₂ (Listener.Twin roles) ls ls') :
    (g.extendFor event ls).Twin roles (g'.extendFor event ls') := by
  rw [Groups.extendFor_eq, Groups.extendFor_eq]
  refine ⟨List.rel_append twin.sync ?_, List.rel_append twin.async ?_, ?_, ?_⟩
  · refine List.rel_filter ?_ more
    intro l l' same
    dsimp only
    rw [same.event_eq, same.isAsync_eq]
  · refine List.rel_filter ?_ more
    intro l l' same
    dsimp only
    rw [same.event_eq, same.isAsync_eq]
  · intro l member
    rcases List.mem_append.1 member with own | supplied
    · exact twin.inLine l own
    · have bound := (List.mem_filter.1 supplied).2
      simp only [Bool.and_eq_true, Bool.not_eq_true'] at bound
      exact bound.2
  · intro l member
    rcases List.mem_append.1 member with own | supplied
    · exact twin.inPool l own
    · have bound := (List.mem_filter.1 supplied).2
      simp only [Bool.and_eq_true] at bound
      exact bound.2

theorem Catalogue.Twin.accepted {catalogue catalogue' : Catalogue}
    (twin : catalogue.Twin roles catalogue') {s s' : Snapshot} (form : s'.form = s.form)
    (category : Category) :
    List.Forall₂ (Listener.Twin roles) (catalogue.accepted s category)
      (catalogue'.accepted s' category) := by
  rw [catalogue.accepted_eq, catalogue'.accepted_eq, List.forall₂_map_left_iff,
    List.forall₂_map_right_iff]
  have gated : List.Forall₂ (Gated.Twin roles) ((catalogue.get category).filter (·.selector s))
      ((catalogue'.get category).filter (·.selector s')) := by
    refine List.rel_filter ?_ (twin category)
    intro g g' related
    dsimp only
    rw [related.selector s s' form]
  exact gated.imp fun _ _ related => related.listener

theorem exists_of_rel_some {α β : Type} {R : α → β → Prop} {x : α} {y : Option β}
    (related : Option.Rel R (some x) y) : ∃ y', y = some y' ∧ R x y' := by
  cases related with
  | some here => exact ⟨_, rfl, here⟩

/-- What a task of a scenario is supplied with. -/
def Task.catalogued (t : Task) (catalogue : Catalogue) (s : Snapshot) : List (Listener TaskEvent) :=
  match t.kind with
  | .user _ => []
  | .service part => part.types.flatMap fun taskType => catalogue.accepted s taskType.category

/-- The catalogue never fails. -/
theorem Task.supplied_of_scripted {t : Task} (scripted : t.kind.Scripted) (catalogue : Catalogue)
    (s : Snapshot) : t.supplied catalogue s = .ok (t.catalogued catalogue s) := by
  unfold supplied catalogued
  generalize t.kind = kind at scripted
  cases scripted with
  | user => rfl
  | service types =>
      dsimp only
      induction types with
      | nil => rfl
      | cons taskType rest ih =>
          obtain ⟨lists, later, same⟩ := Except.bind_eq_ok.1 ih
          have flat := Except.ok.inj same
          have first : (do
              let byProvider ← [Provider.catalogue].mapM (·.answer catalogue s taskType)
              return byProvider.flatten) =
              Except.ok (ε := WorkflowError) (catalogue.accepted s taskType.category) := by
            simp [Provider.answer, pure, Except.pure, bind, Except.bind]
          rw [List.mapM_cons, first, later, List.flatMap_cons, ← flat]
          rfl

theorem Task.Twin.catalogued {t t' : Task} (twin : t.Twin roles t')
    {catalogue catalogue' : Catalogue} (catalogues : catalogue.Twin roles catalogue')
    {s s' : Snapshot} (form : s'.form = s.form) :
    List.Forall₂ (Listener.Twin roles) (t.catalogued catalogue s)
      (t'.catalogued catalogue' s') := by
  have kind : t'.kind = t.kind := by rw [twin.same]
  unfold Task.catalogued
  rw [kind]
  cases t.kind with
  | user => exact .nil
  | service part =>
      dsimp only
      induction part.types with
      | nil => exact .nil
      | cons taskType rest ih =>
          rw [List.flatMap_cons, List.flatMap_cons]
          exact List.rel_append (catalogues.accepted form _) ih

/-- The approvers of a task in a scenario are fixed. -/
theorem UserTask.assign_eq {t t' : Task} (twin : t.Twin roles t') {p : UserPart}
    (isUser : part t = .ok p) (s s' : Snapshot) : p.assign s' = p.assign s := by
  have scripted := twin.scripted
  unfold part Task.user? at isUser
  generalize t.kind = kind at scripted isUser
  cases scripted with
  | user =>
      cases isUser
      rfl
  | service => cases isUser

/-- A family of events in which twins find twins. -/
class SharedScope (ε : Type) [EventScope ε] : Prop where
  manager : ∀ {roles : ListenerSpec → ListenerSpec → Prop} {s s' : Settings}, s.Twin roles s' →
    (EventScope.manager s : Registry ε).Twin roles (EventScope.manager s')
  element : ∀ {roles : ListenerSpec → ListenerSpec → Prop} {c c' : Context}, c.Twin roles c' →
    EventScope.element ε c' = EventScope.element ε c
  fatal : ∀ {c : Context} {err : WorkflowError}, EventScope.element ε c = .error err →
    err.isFatal = true
  groups : ∀ {roles : ListenerSpec → ListenerSpec → Prop} {c c' : Context}
    {catalogue catalogue' : Catalogue} {element : Element} (event : ε), c.Twin roles c' →
    catalogue.Twin roles catalogue' → EventScope.element ε c = .ok element →
    ∃ g g', (EventScope.groups catalogue c event).found = .ok g ∧
      (EventScope.groups catalogue' c' event).found = .ok g' ∧ g.Twin roles g'

instance : SharedScope ProcessEvent where
  manager twin := twin.processManager
  element twin := by
    simp only [EventScope.element]
    rw [twin.definition.same]
  fatal there := by cases there
  groups event twin _ _ := ⟨_, _, rfl, rfl, twin.definition.listeners.groups event⟩

instance : SharedScope TaskEvent where
  manager twin := twin.taskManager
  element {roles c c'} twin := by
    have current := twin.current
    have name : c'.definition.name = c.definition.name := by rw [twin.definition.same]
    simp only [EventScope.element, Context.task, name]
    generalize c.current = here at current
    generalize c'.current = here' at current
    cases current with
    | none => rfl
    | some related =>
        dsimp only
        rw [related.same]
        rfl
  fatal {c err} there := by
    simp only [EventScope.element, Context.task] at there
    cases here : c.current with
    | none =>
        rw [here] at there
        cases there
        rfl
    | some t =>
        rw [here] at there
        cases there
  groups {roles c c' catalogue catalogue' element} event twin catalogues there := by
    have current := twin.current
    have form : c'.snapshot.form = c.snapshot.form := twin.form
    cases here : c.current with
    | none => simp [EventScope.element, Context.task, here, Except.map] at there
    | some t =>
        rw [here] at current
        obtain ⟨t', here', related⟩ := exists_of_rel_some current
        have kind : t'.kind = t.kind := by rw [related.same]
        have scripted : t'.kind.Scripted := kind ▸ related.scripted
        simp only [EventScope.groups, Context.task_eq_ok_iff.2 here,
          Context.task_eq_ok_iff.2 here', Task.lookupGroups, Task.listeners_supply,
          Task.supplied_of_scripted related.scripted, Task.supplied_of_scripted scripted]
        exact ⟨_, _, rfl, rfl, (related.listeners.groups event).extendFor event
          (related.catalogued catalogues form)⟩

end ApprovalFlow
