import ApprovalFlow.Context
import Mathlib.Data.List.Induction
import Mathlib.Data.List.DropRight

/-!
# The catalogue as a log

A catalogue is filled by registrations and by plugins, and emptied as a whole. What it holds in a
category can be read off the log of these changes: it is what has been contributed to the category
since everything was last dropped, in the order in which it came. Looking a type up asks the
selectors of just that, for the category that the type's name ends in.

* `ServiceTaskType.Concerns`: which types of work belong to which category.
* `Catalogue.Change.contributes`: what one change contributes to a category.
* `Catalogue.get_after`: what a category holds after any changes.
* `Catalogue.supplies_contributed`: what looking up a type asks and finds after any changes, and
  that contributions to other categories make no difference to it.
-/

namespace ApprovalFlow

/-! ## Types of work and categories -/

/-- What the work of a category is done on, as the names of the types put it. -/
def Category.subject : Category → String
  | source => "SOURCE"
  | sink => "SINK"
  | queue => "MQ"
  | sort => "SORT"

namespace ServiceTaskType

/-- The name of a type is a verb and what the work is done on; the latter makes the category. -/
def Concerns (taskType : ServiceTaskType) (category : Category) : Prop :=
  ("_" ++ category.subject).toList <:+ taskType.name.toList

instance (taskType : ServiceTaskType) (category : Category) :
    Decidable (taskType.Concerns category) :=
  inferInstanceAs (Decidable (("_" ++ category.subject).toList <:+ taskType.name.toList))

/-- Every type belongs to one category, and that is where it is looked up. -/
theorem concerns_iff (taskType : ServiceTaskType) (category : Category) :
    taskType.Concerns category ↔ category = taskType.category := by
  cases taskType <;> cases category <;> decide +kernel

end ServiceTaskType

namespace Catalogue

namespace Change

/-- Whether a change drops everything. -/
def isClear : Change → Bool
  | register _ _ => false
  | plugin _ => false
  | clear => true

/-- What a change contributes to a category: a registration one listener, and a plugin the list that
it brings for the category. -/
def contributes (category : Category) : Change → List Gated
  | register target g => if target = category then [g] else []
  | plugin p =>
    match p.process with
    | some brought => brought.get category
    | none => []
  | clear => []

end Change

/-- A catalogue that has nothing outside a category. -/
def confined (category : Category) (c : Catalogue) : Catalogue where
  source := if category = .source then c.source else []
  sink := if category = .sink then c.sink else []
  queue := if category = .queue then c.queue else []
  sort := if category = .sort then c.sort else []

/-- A change without what it contributes to other categories, if anything is left of it. -/
def Change.confined? (category : Category) : Change → Option Change
  | register target g => if target = category then some (register target g) else none
  | plugin p => some (plugin { p with process := p.process.map (confined category) })
  | clear => some clear

/-- The catalogue after some changes, the oldest first. -/
def after (changes : List Change) : Catalogue :=
  changes.foldl apply empty

/-- The changes since everything was last dropped. -/
def sinceClear (changes : List Change) : List Change :=
  changes.rtakeWhile (!·.isClear)

/-- What has been contributed to a category since everything was last dropped. -/
def contributed (category : Category) (changes : List Change) : List Gated :=
  (sinceClear changes).flatMap (·.contributes category)

/-! ## One change -/

theorem get_confined (category : Category) (c : Catalogue) :
    (c.confined category).get category = c.get category := by
  cases category <;> rfl

theorem get_apply (c : Catalogue) (change : Change) (category : Category) :
    (c.apply change).get category =
      if change.isClear then [] else c.get category ++ change.contributes category := by
  cases change with
  | register target g =>
      rw [apply, get_register, Change.isClear, Change.contributes]
      by_cases here : category = target
      · simp [here]
      · simp [here, Ne.symm here]
  | plugin p =>
      rw [apply, Change.isClear, Change.contributes]
      cases p.process with
      | none => simp
      | some brought => simp [get_append]
  | clear => cases category <;> rfl

theorem contributed_concat (category : Category) (changes : List Change) (change : Change) :
    contributed category (changes ++ [change]) =
      if change.isClear then []
      else contributed category changes ++ change.contributes category := by
  unfold contributed sinceClear
  rw [List.rtakeWhile_concat]
  cases change.isClear <;> simp

/-! ## Any changes -/

theorem after_concat (changes : List Change) (change : Change) :
    after (changes ++ [change]) = (after changes).apply change := by
  rw [after, List.foldl_concat, after]

/-- A category holds what has been contributed to it since everything was last dropped. -/
theorem get_after (changes : List Change) (category : Category) :
    (after changes).get category = contributed category changes := by
  induction changes using List.reverseRecOn with
  | nil => cases category <;> rfl
  | append_singleton changes change ih => rw [after_concat, get_apply, contributed_concat, ih]

/-- Without what goes to other categories a change does to a category what it does. -/
theorem get_apply_confined (c c' : Catalogue) (change : Change) (category : Category)
    (same : c'.get category = c.get category) :
    ((change.confined? category).toList.foldl apply c').get category =
      (c.apply change).get category := by
  cases change with
  | register target g =>
      by_cases here : target = category
      · simp [Change.confined?, here, get_apply, same]
      · simp [Change.confined?, here, get_apply, same, Change.isClear, Change.contributes]
  | plugin p =>
      simp only [Change.confined?, Option.toList_some, List.foldl_cons, List.foldl_nil, get_apply,
        Change.isClear, Change.contributes, same]
      cases p.process with
      | none => rfl
      | some brought => simp [get_confined]
  | clear => cases category <;> rfl

/-- What goes to other categories makes no difference to what a category holds. -/
theorem get_after_confined (changes : List Change) (category : Category) :
    (after (changes.filterMap (Change.confined? category))).get category =
      (after changes).get category := by
  induction changes using List.reverseRecOn with
  | nil => rfl
  | append_singleton changes change ih =>
      have last := get_apply_confined _ _ change category ih
      rw [after_concat, ← last, List.filterMap_append, after, List.foldl_append, ← after]
      cases left : change.confined? category <;> simp [left]

/-- Two catalogues that hold the same in the category of a type supply the same for it. -/
theorem ofProvider_congr {c c' : Catalogue} {taskType : ServiceTaskType}
    (same : c'.get taskType.category = c.get taskType.category) (s : Snapshot) :
    Supply.ofProvider c' s taskType .catalogue = Supply.ofProvider c s taskType .catalogue := by
  simp only [Supply.ofProvider, select, same]

/-- What the catalogue supplies for a type, by what it holds in the type's category. -/
theorem ofProvider_catalogue (c : Catalogue) (s : Snapshot) (taskType : ServiceTaskType) :
    Supply.ofProvider c s taskType .catalogue =
      ⟨(c.get taskType.category).map (Gated.consult s),
        .ok (((c.get taskType.category).filter (·.selector s)).map (·.listener))⟩ := by
  rw [← consultations_eq, ← accepted_eq]
  rfl

/-- Every type belongs to one category. After any changes, looking the type up asks the selectors
that were contributed to that category since everything was last dropped, each once and in the order
of their contribution, and finds the listeners of those that accept, in the same order. It is the
same without all that was ever contributed to other categories. -/
theorem supplies_contributed (changes : List Change) (s : Snapshot) (taskType : ServiceTaskType) :
    ∃ category, (∀ other, taskType.Concerns other ↔ other = category) ∧
      Supply.ofProvider (after changes) s taskType .catalogue =
        ⟨(contributed category changes).map (Gated.consult s),
          .ok (((contributed category changes).filter (·.selector s)).map (·.listener))⟩ ∧
      Supply.ofProvider (after (changes.filterMap (Change.confined? category))) s taskType
        .catalogue = Supply.ofProvider (after changes) s taskType .catalogue := by
  refine ⟨taskType.category, taskType.concerns_iff, ?_, ?_⟩
  · rw [ofProvider_catalogue, get_after]
  · exact ofProvider_congr (get_after_confined changes taskType.category) s

end Catalogue

/-! ## A plugin that is taken over twice -/

namespace Cleanup

def builtin : Gated :=
  ⟨⟨"builtin_sort", .complete, false, fun _ => .success⟩, .always⟩

def pushed : Gated :=
  ⟨⟨"plugin_sort", .complete, false, fun _ => .success⟩, .applicantIs "carol"⟩

def sorting : Plugin :=
  ⟨"sort-plugin", some (Catalogue.empty.register .sort pushed)⟩

/-- A listener for sorting is dropped with everything; others are registered for sorting and for
the queues, and the plugin for sorting is taken over twice. -/
def log : List Catalogue.Change :=
  [.register .sort pushed, .clear, .register .sort builtin, .plugin sorting,
    .register .queue builtin, .plugin ⟨"datasource", none⟩, .plugin sorting]

/-- A process of the applicant. -/
def snapshotOf (applicant : String) : Snapshot :=
  (Context.base (.named "P" "P") (.opened 1 "P" applicant default) none).snapshot

/-- What was there before everything was dropped is not asked any more, the plugin's selector is
asked for each time that it was taken over, and the other category is not asked at all. -/
theorem restartSort_supplied :
    ServiceTaskType.restartSort.Concerns .sort ∧
      Supply.ofProvider (.after log) (snapshotOf "bob") .restartSort .catalogue =
        ⟨[⟨"builtin_sort", true⟩, ⟨"plugin_sort", false⟩, ⟨"plugin_sort", false⟩],
          .ok [builtin.listener]⟩ ∧
      Supply.ofProvider (.after log) (snapshotOf "carol") .restartSort .catalogue =
        ⟨[⟨"builtin_sort", true⟩, ⟨"plugin_sort", true⟩, ⟨"plugin_sort", true⟩],
          .ok [builtin.listener, pushed.listener, pushed.listener]⟩ := by
  have sort : ServiceTaskType.restartSort.Concerns .sort := by decide +kernel
  have supplied : ∀ s, Supply.ofProvider (.after log) s .restartSort .catalogue =
      ⟨(Catalogue.contributed .sort log).map (Gated.consult s),
        .ok (((Catalogue.contributed .sort log).filter (·.selector s)).map (·.listener))⟩ := by
    intro s
    obtain ⟨category, concerns, supplied, -⟩ := Catalogue.supplies_contributed log s .restartSort
    rw [supplied, ← (concerns .sort).1 sort]
  refine ⟨sort, ?_, ?_⟩
  · rw [supplied]
    rfl
  · rw [supplied]
    rfl

end Cleanup

end ApprovalFlow
