import ApprovalFlow.Proofs.Definition
import ApprovalFlow.Replay.Walk
import Mathlib.Algebra.Order.BigOperators.Group.List
import Mathlib.Data.Set.Card
import Mathlib.Logic.Relation
import Mathlib.Tactic.Ring

/-!
# Paths and circles

Every name goes on to some names, listed in order; a name may be listed more than once. A path takes
a name of a list and then each time one of the names that the last one goes on to. It is written
down as the places of the names it takes, so that names that are listed twice count twice.

A walk goes on from the names of service tasks (`ProcessDefinition.onward`).

* `encard_paths_cons`: the paths that start with a name are one more than those that start after it.
* `encard_paths_of_circles`: where a circle can be reached there are infinitely many paths.
* `encard_paths_le`: elsewhere there are at most as many as a tree has nodes that is no deeper than
  there are names that go on; so the budget of a walk is enough
  (`ProcessDefinition.encard_paths_le_budget`).
-/

namespace ApprovalFlow

section Ways

variable {α : Type}

/-- A path from a list of names, by the places of the names it takes. -/
def IsPath (onward : α → List α) : List α → List Nat → Prop
  | _, [] => False
  | names, place :: rest => ∃ name, names[place]? = some name ∧
    (rest = [] ∨ IsPath onward (onward name) rest)

/-- The paths from a list of names. -/
def paths (onward : α → List α) (names : List α) : Set (List Nat) :=
  {path | IsPath onward names path}

/-- The second name follows the first. -/
def Follows (onward : α → List α) (name next : α) : Prop :=
  next ∈ onward name

/-- A circle can be reached from one of the names. -/
def Circles (onward : α → List α) (names : List α) : Prop :=
  ∃ name ∈ names, ∃ turn, Relation.ReflTransGen (Follows onward) name turn ∧
    Relation.TransGen (Follows onward) turn turn

variable {onward : α → List α} {name next : α} {names more : List α}

/-! ## Counting paths -/

theorem isPath_zero {rest : List Nat} :
    IsPath onward (name :: names) (0 :: rest) ↔ rest = [] ∨ rest ∈ paths onward (onward name) := by
  simp [IsPath, paths]

theorem isPath_succ {place : Nat} {rest : List Nat} :
    IsPath onward (name :: names) ((place + 1) :: rest) ↔ place :: rest ∈ paths onward names := by
  simp [IsPath, paths]

/-- A path of a list as a path of a list with one more name in front. -/
def putOff : List Nat → List Nat
  | [] => []
  | place :: rest => (place + 1) :: rest

theorem putOff_injective : Function.Injective putOff := by
  intro path path' same
  cases path <;> cases path' <;> simp_all [putOff]

/-- A path takes the first name and stops there or goes on, or it starts later. -/
theorem paths_cons (onward : α → List α) (name : α) (names : List α) :
    paths onward (name :: names) =
      (List.cons 0 '' insert [] (paths onward (onward name))) ∪ putOff '' paths onward names := by
  ext path
  cases path with
  | nil =>
      refine iff_of_false id ?_
      rintro (⟨rest, -, ⟨⟩⟩ | ⟨path, isPath, first⟩)
      cases path with
      | nil => exact isPath
      | cons => cases first
  | cons place rest =>
      cases place with
      | zero =>
          refine isPath_zero.trans ⟨fun on => Or.inl ⟨rest, on, rfl⟩, ?_⟩
          rintro (⟨rest', on, ⟨⟩⟩ | ⟨path, -, first⟩)
          · exact on
          · cases path <;> cases first
      | succ place =>
          refine isPath_succ.trans ⟨fun later => Or.inr ⟨_, later, rfl⟩, ?_⟩
          rintro (⟨rest', -, ⟨⟩⟩ | ⟨path, later, first⟩)
          cases path <;> cases first
          exact later

theorem paths_nil (onward : α → List α) : paths onward [] = ∅ := by
  ext path
  cases path <;> simp [paths, IsPath]

/-- There is one path that takes the first name and no other, and one for each path from the names
it goes on to; the others start later. -/
theorem encard_paths_cons (onward : α → List α) (name : α) (names : List α) :
    (paths onward (name :: names)).encard =
      (paths onward (onward name)).encard + 1 + (paths onward names).encard := by
  have apart : Disjoint (List.cons 0 '' insert [] (paths onward (onward name)))
      (putOff '' paths onward names) := by
    rw [Set.disjoint_left]
    rintro _ ⟨rest, -, rfl⟩ ⟨path, -, first⟩
    cases path <;> cases first
  have stops : [] ∉ paths onward (onward name) := id
  rw [paths_cons, Set.encard_union_eq apart, (List.cons_injective (a := 0)).encard_image,
    putOff_injective.encard_image, Set.encard_insert_of_notMem stops]

theorem encard_paths_append (onward : α → List α) (names more : List α) :
    (paths onward (names ++ more)).encard =
      (paths onward names).encard + (paths onward more).encard := by
  induction names with
  | nil => rw [paths_nil, Set.encard_empty, zero_add, List.nil_append]
  | cons name rest ih =>
      rw [List.cons_append, encard_paths_cons, encard_paths_cons, ih, ← add_assoc]

/-- Taking a name off a queue and putting those it goes on to at the end leaves one path less. -/
theorem encard_paths_take (onward : α → List α) (name : α) (rest : List α) :
    (paths onward (name :: rest)).encard = (paths onward (rest ++ onward name)).encard + 1 := by
  rw [encard_paths_append, encard_paths_cons]
  ring

/-! ## Circles -/

/-- The number of paths from a name, counting the one that stops there. -/
noncomputable def reach (onward : α → List α) (name : α) : ℕ∞ :=
  (paths onward [name]).encard

theorem reach_eq (onward : α → List α) (name : α) :
    reach onward name = (paths onward (onward name)).encard + 1 := by
  rw [reach, encard_paths_cons, paths_nil, Set.encard_empty, add_zero]

theorem encard_paths_eq_sum (onward : α → List α) (names : List α) :
    (paths onward names).encard = (names.map (reach onward)).sum := by
  induction names with
  | nil => rw [paths_nil, Set.encard_empty, List.map_nil, List.sum_nil]
  | cons name rest ih =>
      rw [encard_paths_cons, ih, ← reach_eq, List.map_cons, List.sum_cons]

theorem reach_le_of_mem (member : name ∈ names) :
    reach onward name ≤ (paths onward names).encard := by
  rw [encard_paths_eq_sum]
  exact List.single_le_sum (fun _ _ => zero_le) _ (List.mem_map_of_mem member)

theorem reach_lt_of_follows (follows : Follows onward name next) :
    reach onward next + 1 ≤ reach onward name := by
  rw [reach_eq onward name]
  exact add_le_add_left (reach_le_of_mem follows) 1

theorem reach_lt_of_transGen (on : Relation.TransGen (Follows onward) name next) :
    reach onward next + 1 ≤ reach onward name := by
  induction on with
  | single follows => exact reach_lt_of_follows follows
  | tail _ follows ih => exact (reach_lt_of_follows follows).trans (le_self_add.trans ih)

theorem reach_le_of_reflTransGen (on : Relation.ReflTransGen (Follows onward) name next) :
    reach onward next ≤ reach onward name := by
  rcases Relation.reflTransGen_iff_eq_or_transGen.1 on with rfl | on
  · exact le_refl _
  · exact le_self_add.trans (reach_lt_of_transGen on)

/-- Whoever goes round in a circle has paths without end. -/
theorem encard_paths_of_circles (circles : Circles onward names) :
    (paths onward names).encard = ⊤ := by
  obtain ⟨name, member, turn, on, round⟩ := circles
  have endless : reach onward turn = ⊤ := by
    by_contra finite
    exact (ENat.add_one_le_iff finite).1 (reach_lt_of_transGen round) |>.ne rfl
  rw [← top_le_iff, ← endless]
  exact (reach_le_of_reflTransGen on).trans (reach_le_of_mem member)

/-! ## No circles -/

/-- The nodes of a tree with some branches at each node and no deeper than some levels. -/
def treeSize (branches levels : Nat) : Nat :=
  (List.range levels).foldl (fun total level => total + Nat.pow branches level) 0

theorem treeSize_succ (branches levels : Nat) :
    treeSize branches (levels + 1) = branches * treeSize branches levels + 1 := by
  induction levels with
  | zero => simp [treeSize]
  | succ levels ih =>
      have last : ∀ levels, treeSize branches (levels + 1) =
          treeSize branches levels + branches ^ levels := by
        intro levels
        simp [treeSize, List.range_succ]
      calc treeSize branches (levels + 2)
          = treeSize branches (levels + 1) + branches ^ (levels + 1) := last (levels + 1)
        _ = branches * treeSize branches levels + 1 + branches ^ (levels + 1) := by rw [ih]
        _ = branches * (treeSize branches levels + branches ^ levels) + 1 := by ring
        _ = branches * treeSize branches (levels + 1) + 1 := by rw [last levels]

/-- A list of names that reach little has few paths. -/
theorem encard_paths_le_mul {most : ℕ∞} (few : ∀ name ∈ names, reach onward name ≤ most) :
    (paths onward names).encard ≤ names.length * most := by
  rw [encard_paths_eq_sum]
  refine (List.sum_le_card_nsmul _ most ?_).trans_eq ?_
  · rintro _ member
    obtain ⟨name, here, rfl⟩ := List.mem_map.1 member
    exact few name here
  · rw [List.length_map, nsmul_eq_mul]

variable {inner : List α} {branches : Nat}

/-- On the way to a name some others have been passed. If none is passed twice, and only inner names
go on, then there are at most as many levels below the name as inner names have not been passed. -/
theorem reach_le_treeSize (goesOn : ∀ name, onward name ≠ [] → name ∈ inner)
    (narrow : ∀ name, (onward name).length ≤ branches) {levels : Nat} {passed : List α}
    (apart : passed.Nodup) (within : passed ⊆ inner) (left : levels + passed.length = inner.length)
    (calm : ∀ turn, Relation.ReflTransGen (Follows onward) name turn →
      ¬ Relation.TransGen (Follows onward) turn turn)
    (behind : ∀ past ∈ passed, Relation.TransGen (Follows onward) past name) :
    reach onward name ≤ treeSize branches (levels + 1) := by
  induction levels generalizing name passed with
  | zero =>
      have stops : onward name = [] := by
        by_contra on
        have new : name ∉ passed := fun old => calm name .refl (behind name old)
        have room := (List.nodup_cons.2 ⟨new, apart⟩).length_le_of_subset
          (List.cons_subset.2 ⟨goesOn name on, within⟩)
        rw [List.length_cons] at room
        omega
      rw [reach_eq, stops, paths_nil, Set.encard_empty]
      simp [treeSize]
  | succ levels ih =>
      by_cases stops : onward name = []
      · rw [reach_eq, stops, paths_nil, Set.encard_empty, treeSize_succ]
        simp
      · have new : name ∉ passed := fun old => calm name .refl (behind name old)
        have few : ∀ next ∈ onward name, reach onward next ≤ treeSize branches (levels + 1) := by
          intro next follows
          refine ih (List.nodup_cons.2 ⟨new, apart⟩)
            (List.cons_subset.2 ⟨goesOn name stops, within⟩) ?_
            (fun turn on => calm turn (.head follows on)) ?_
          · rw [List.length_cons]
            omega
          · intro past member
            rcases List.mem_cons.1 member with rfl | old
            · exact .single follows
            · exact (behind past old).tail follows
        rw [reach_eq, treeSize_succ, Nat.cast_add, Nat.cast_mul, Nat.cast_one]
        refine add_le_add_left ((encard_paths_le_mul few).trans ?_) 1
        exact mul_le_mul_left (Nat.cast_le.2 (narrow name)) _

/-- Without circles there are at most as many paths as trees of that depth have nodes. -/
theorem encard_paths_le (goesOn : ∀ name, onward name ≠ [] → name ∈ inner)
    (narrow : ∀ name, (onward name).length ≤ branches) (calm : ¬ Circles onward names) :
    (paths onward names).encard ≤ names.length * treeSize branches (inner.length + 1) := by
  refine encard_paths_le_mul fun name member => ?_
  refine reach_le_treeSize goesOn narrow List.nodup_nil (List.nil_subset _) rfl ?_ ?_
  · intro turn on round
    exact calm ⟨name, member, turn, on, round⟩
  · rintro past ⟨⟩

end Ways

/-! ## The names of a definition -/

namespace ProcessDefinition

/-- The names that a walk goes on to from a name: those that follow a service task. It goes on from
neither user tasks nor the end. -/
def onward (p : ProcessDefinition) (name : String) : List String :=
  if name = endName then []
  else
    match p.task? name with
    | some t => if (Processor.ofTask t).waits then [] else t.next
    | none => []

/-- Names of tasks, or the end. -/
def Knows (p : ProcessDefinition) (names : List String) : Prop :=
  ∀ name ∈ names, name = endName ∨ p.knows name = true

variable {p : ProcessDefinition} {name : String}

theorem mem_of_task? {t : Task} (found : p.task? name = some t) : t ∈ p.tasks :=
  List.mem_of_find?_eq_some found

/-- Only from a task a walk goes on, and then to what follows it. -/
theorem exists_of_onward (goesOn : p.onward name ≠ []) :
    ∃ t ∈ p.tasks, t.name = name ∧ p.onward name = t.next := by
  unfold onward at goesOn ⊢
  split at goesOn
  · exact absurd rfl goesOn
  · rename_i inner
    rw [if_neg inner]
    split at goesOn
    · rename_i t found
      split at goesOn
      · exact absurd rfl goesOn
      · rename_i service
        refine ⟨t, mem_of_task? found, (has_of_task? found).2, ?_⟩
        exact if_neg service
    · exact absurd rfl goesOn

theorem mem_names_of_onward (goesOn : p.onward name ≠ []) : name ∈ p.tasks.map (·.name) := by
  obtain ⟨t, member, named, -⟩ := exists_of_onward goesOn
  exact List.mem_map.2 ⟨t, member, named⟩

theorem length_next_le_breadth {t : Task} (member : t ∈ p.tasks) :
    t.next.length ≤ Replay.breadth p := by
  have least : ∀ (ts : List Task) (most : Nat),
      most ≤ ts.foldl (fun most t => max most t.next.length) most := by
    intro ts
    induction ts with
    | nil => exact fun most => le_refl most
    | cons u rest ih => exact fun most => (le_max_left _ _).trans (ih _)
  have all : ∀ (ts : List Task) (most : Nat), t ∈ ts →
      t.next.length ≤ ts.foldl (fun most t => max most t.next.length) most := by
    intro ts
    induction ts with
    | nil =>
        rintro most ⟨⟩
    | cons u rest ih =>
        intro most here
        rcases List.mem_cons.1 here with rfl | later
        · exact (le_max_right _ _).trans (least rest _)
        · exact ih _ later
  exact all p.tasks 0 member

theorem length_onward_le (p : ProcessDefinition) (name : String) :
    (p.onward name).length ≤ Replay.breadth p := by
  by_cases goesOn : p.onward name = []
  · rw [goesOn]
    exact Nat.zero_le _
  · obtain ⟨t, member, -, same⟩ := exists_of_onward goesOn
    rw [same]
    exact length_next_le_breadth member

theorem knows_iff : p.knows name = true ↔ name ∈ p.tasks.map (·.name) := by
  rw [knows_eq_isSome, task?_isSome_iff]

/-- A definition that has been checked starts at tasks it has. -/
theorem knows_start_of_validate (valid : p.validate = .ok ()) : p.Knows p.start :=
  fun name member => Or.inr (knows_iff.2 (((validate_eq_ok_iff p).1 valid).2.1 name member))

/-- In a definition that has been checked every task is followed by tasks it has or by the end. -/
theorem knows_next_of_validate (valid : p.validate = .ok ()) {t : Task} (member : t ∈ p.tasks) :
    p.Knows t.next :=
  fun name follows =>
    (((validate_eq_ok_iff p).1 valid).2.2 t member name follows).imp_right knows_iff.2

theorem knows_onward (valid : p.validate = .ok ()) (name : String) : p.Knows (p.onward name) := by
  by_cases goesOn : p.onward name = []
  · rw [goesOn]
    rintro next ⟨⟩
  · obtain ⟨t, member, -, same⟩ := exists_of_onward goesOn
    rw [same]
    exact knows_next_of_validate valid member

theorem Knows.tail {rest : List String} (known : p.Knows (name :: rest)) : p.Knows rest :=
  fun next member => known next (List.mem_cons_of_mem _ member)

theorem Knows.append {names more : List String} (known : p.Knows names) (known' : p.Knows more) :
    p.Knows (names ++ more) := by
  intro next member
  rcases List.mem_append.1 member with old | new
  · exact known next old
  · exact known' next new

/-- The budget is the size of as many trees as there are names to start with. -/
theorem encard_paths_le_budget {names : List String} (calm : ¬ Circles p.onward names) :
    (paths p.onward names).encard ≤ Replay.budget p names := by
  have most := encard_paths_le (fun _ => mem_names_of_onward) (length_onward_le p) calm
  rw [List.length_map] at most
  refine most.trans_eq ?_
  rw [← Nat.cast_mul]
  rfl

end ProcessDefinition

end ApprovalFlow
