import ApprovalFlow.Definition.Process
import Mathlib.Data.List.Nodup

/-!
# The tasks of a definition

A definition has a task if it finds the task under its own name. Names are distinct in a definition
that was put together task by task, so there having a task and listing it are the same.

* `ProcessDefinition.addTasks_eq_ok_iff`: which tasks can be put together.
* `ProcessDefinition.validate_eq_ok_iff`: which definitions are valid.
-/

namespace ApprovalFlow

namespace ProcessDefinition

/-- A task that the definition has, under its own name. -/
def Has (d : ProcessDefinition) (t : Task) : Prop :=
  d.task? t.name = some t

theorem Has.eq_of_name_eq {d : ProcessDefinition} {t t' : Task} (has : d.Has t) (has' : d.Has t')
    (same : t.name = t'.name) : t = t' := by
  unfold Has at has has'
  rw [same, has'] at has
  exact (Option.some.inj has).symm

theorem has_of_task? {d : ProcessDefinition} {name : String} {t : Task}
    (found : d.task? name = some t) : d.Has t ∧ t.name = name := by
  have same : t.name = name := by simpa using List.find?_some found
  exact ⟨by rw [Has, same, found], same⟩

theorem task?_isSome_iff {d : ProcessDefinition} {name : String} :
    (d.task? name).isSome ↔ name ∈ d.tasks.map (·.name) := by
  rw [task?, List.find?_isSome, List.mem_map]
  simp only [beq_iff_eq]

/-- Tasks are put in one after the other if no two have one name. -/
theorem addTasks_eq_ok_iff {p d : ProcessDefinition} (distinct : (p.tasks.map (·.name)).Nodup)
    (ts : List Task) : ts.foldlM addTask p = .ok d ↔
      ((p.tasks ++ ts).map (·.name)).Nodup ∧ d = { p with tasks := p.tasks ++ ts } := by
  induction ts generalizing p with
  | nil =>
      simp only [List.foldlM_nil, List.append_nil, distinct, true_and, pure, Except.pure,
        Except.ok.injEq, eq_comm]
  | cons t rest ih =>
      rw [List.foldlM_cons, addTask]
      by_cases taken : (p.task? t.name).isSome
      · rw [if_pos taken]
        refine iff_of_false (by rintro ⟨⟩) ?_
        rintro ⟨apart, -⟩
        rw [List.map_append, List.map_cons, List.nodup_append] at apart
        exact apart.2.2 _ (task?_isSome_iff.1 taken) _ (List.mem_cons_self ..) rfl
      · rw [if_neg taken]
        have new : ((p.tasks ++ [t]).map (·.name)).Nodup := by
          rw [List.map_append, List.nodup_append]
          refine ⟨distinct, List.nodup_singleton _, fun name there name' last same => ?_⟩
          obtain rfl : name' = t.name := by simpa using last
          exact taken (task?_isSome_iff.2 (same ▸ there))
        rw [List.append_cons p.tasks t rest]
        exact ih (p := { p with tasks := p.tasks ++ [t] }) new

/-- Where there are none yet. -/
theorem addTasks_bare_eq_ok_iff {p d : ProcessDefinition} (none : p.tasks = []) (ts : List Task) :
    ts.foldlM addTask p = .ok d ↔ (ts.map (·.name)).Nodup ∧ d = { p with tasks := ts } := by
  rw [addTasks_eq_ok_iff (by rw [none]; exact List.nodup_nil), none, List.nil_append]

/-- A definition is valid if it starts somewhere, and everything it starts with and every successor
but the end is the name of a task. -/
theorem validate_eq_ok_iff (p : ProcessDefinition) : p.validate = .ok () ↔
    p.start ≠ [] ∧ (∀ name ∈ p.start, name ∈ p.tasks.map (·.name)) ∧
      ∀ t ∈ p.tasks, ∀ name ∈ t.next, name = endName ∨ name ∈ p.tasks.map (·.name) := by
  have known : ∀ name, p.knows name = true ↔ name ∈ p.tasks.map (·.name) := fun name => by
    rw [knows_eq_isSome, task?_isSome_iff]
  have starts : p.start.find? (!p.knows ·) = none ↔
      ∀ name ∈ p.start, name ∈ p.tasks.map (·.name) := by
    rw [List.find?_eq_none]
    exact forall₂_congr fun name _ => by rw [← known]; simp
  have follows : p.successions.find? (fun s => s.2 != endName && !p.knows s.2) = none ↔
      ∀ t ∈ p.tasks, ∀ name ∈ t.next, name = endName ∨ name ∈ p.tasks.map (·.name) := by
    rw [List.find?_eq_none, successions]
    simp only [List.mem_flatMap, List.mem_map, Bool.and_eq_true, bne_iff_ne, ne_eq,
      Bool.not_eq_true', not_and, Bool.not_eq_false, known]
    constructor
    · intro all t member name next
      exact Classical.or_iff_not_imp_left.2 (all (t.name, name) ⟨t, member, name, next, rfl⟩)
    · rintro all - ⟨t, member, name, next, rfl⟩ other
      exact (all t member name next).resolve_left other
  rw [← starts, ← follows]
  unfold validate
  split
  · rename_i nowhere
    simp [List.isEmpty_iff.1 nowhere]
  · rename_i somewhere
    rw [List.isEmpty_iff] at somewhere
    split
    · rename_i unknown
      simp [unknown]
    · rename_i startsWell
      split
      · rename_i unknown
        simp [unknown]
      · rename_i followsWell
        simp [somewhere, startsWell, followsWell]

end ProcessDefinition

end ApprovalFlow
