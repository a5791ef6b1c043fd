import ApprovalFlow.Engine.Basic
import ApprovalFlow.Store.TaskTable

/-!
# Updates by a copy

Whoever updates a row does so by a copy of it. The table looks for the row under the id of the copy
and compares versions; what else the copy says makes no difference to whether the update goes
through.

* `TaskTable.Current`: the copies by which an update goes through, and `TaskTable.Stale` what is
  answered to all others.
* `TaskTable.Puts`: what becomes of the table then. It is said of tables of any rows, so it needs
  nothing of how their ids came about.
* `TaskTable.update_cases`: an update by a copy, current or stale.
-/

namespace ApprovalFlow

namespace TaskTable

/-- The row that is stored under the id of the copy has the version of the copy. -/
def Current (t : TaskTable) (copy : TaskRow) : Prop :=
  ∃ stored, t.get? copy.id = some stored ∧ stored.version = copy.version

/-- Why an update by a copy is refused. -/
inductive Stale (t : TaskTable) (copy : TaskRow) : StoreError → Prop
  /-- No row has the id of the copy. -/
  | missing : t.get? copy.id = none → Stale t copy (.notFound "task" (toString copy.id))
  /-- Somebody else has written the row. -/
  | overtaken {stored : TaskRow} : t.get? copy.id = some stored → stored.version ≠ copy.version →
    Stale t copy (.conflict "task" (toString copy.id) copy.version stored.version)

/-- A row has taken the place of the one with its id, and nothing else has changed. -/
structure Puts (t t' : TaskTable) (row : TaskRow) : Prop where
  ids : t'.rows.map (·.id) = t.rows.map (·.id)
  there : t'.get? row.id = some row
  elsewhere : ∀ id, id ≠ row.id → t'.get? id = t.get? id

variable {t : TaskTable} {copy row : TaskRow}

/-- Whether a copy is current is a matter of its id and its version. -/
theorem Current.congr (id : row.id = copy.id) (version : row.version = copy.version) :
    t.Current row ↔ t.Current copy := by
  rw [Current, Current, id, version]

theorem Stale.congr {err : StoreError} (stale : t.Stale row err) (id : row.id = copy.id)
    (version : row.version = copy.version) : t.Stale copy err := by
  cases stale with
  | missing nothing =>
      rw [id] at nothing ⊢
      exact .missing nothing
  | overtaken found other =>
      rw [id] at found ⊢
      rw [version] at other ⊢
      exact .overtaken found other

/-- A copy that is refused is not current. -/
theorem Stale.not_current {err : StoreError} (stale : t.Stale copy err) : ¬ t.Current copy := by
  rintro ⟨stored, found, version⟩
  cases stale with
  | missing nothing =>
      rw [nothing] at found
      cases found
  | overtaken there other =>
      rw [there] at found
      cases found
      exact other version

theorem update_cases (t : TaskTable) (row : TaskRow) :
    (t.Current row ∧ t.update row = (.ok (bumped row), t.replace (bumped row))) ∨
      ∃ err, t.Stale row err ∧ t.update row = (.error err, t) := by
  cases found : t.get? row.id with
  | none =>
      refine Or.inr ⟨_, .missing found, ?_⟩
      simp only [update, found]
  | some stored =>
      by_cases version : stored.version = row.version
      · refine Or.inl ⟨⟨stored, found, version⟩, ?_⟩
        simp [update, found, version]
      · refine Or.inr ⟨_, .overtaken found version, ?_⟩
        simp [update, found, version]

/-- A row that is found under an id is replaced there, and no other id finds another row. -/
theorem puts_replace {stored : TaskRow} (found : t.get? row.id = some stored) :
    t.Puts (t.replace row) row := by
  have id_kept : ∀ r : TaskRow, (if r.id = row.id then row else r).id = r.id := by
    intro r
    split
    · rename_i same
      exact same.symm
    · rfl
  have look : ∀ id, (t.replace row).get? id =
      (t.get? id).map fun r => if r.id = row.id then row else r := by
    intro id
    unfold get? replace
    dsimp only
    rw [List.find?_map]
    simp only [Function.comp_def, id_kept]
  refine ⟨?_, ?_, ?_⟩
  · unfold replace
    rw [List.map_map]
    exact List.map_congr_left fun r _ => id_kept r
  · have own : stored.id = row.id := by simpa using List.find?_some found
    rw [look, found, Option.map_some, if_pos own]
  · intro id other
    rw [look]
    cases there : t.get? id with
    | none => rfl
    | some r =>
        have own : r.id = id := by simpa using List.find?_some there
        rw [Option.map_some, if_neg (own ▸ other)]

end TaskTable

namespace Engine

variable {σ : Type} {e : Engine TaskTable σ} {row : TaskRow}

theorem updateTask_of_current (current : e.tasks.Current row) :
    ∃ t, e.updateTask row = (.ok (TaskTable.bumped row), { e with tasks := t }) ∧
      e.tasks.Puts t (TaskTable.bumped row) := by
  rcases e.tasks.update_cases row with ⟨⟨stored, found, -⟩, answer⟩ | ⟨err, stale, -⟩
  · refine ⟨e.tasks.replace (TaskTable.bumped row), ?_, TaskTable.puts_replace found⟩
    simp only [updateTask, TaskStore.update, answer]
    rfl
  · exact (stale.not_current current).elim

theorem updateTask_of_not_current (other : ¬ e.tasks.Current row) :
    ∃ err, e.tasks.Stale row err ∧ e.updateTask row = (.error (.store err), e) := by
  rcases e.tasks.update_cases row with ⟨current, -⟩ | ⟨err, stale, answer⟩
  · exact (other current).elim
  · refine ⟨err, stale, ?_⟩
    simp only [updateTask, TaskStore.update, answer]
    rfl

end Engine

end ApprovalFlow
