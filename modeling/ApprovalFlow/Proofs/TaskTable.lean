import ApprovalFlow.Store.TaskTable
import Mathlib.Logic.Relation

/-!
# What the task table keeps

A row of the table is open until somebody closes it, and a closed row is never touched again.

* `TaskTable.Sound`: ids are places, so an id finds at most one row, and every row is open with
  version 0 or closed with version 1.
* `TaskTable.Move`: the three things that ever happen to the table. Closing starts from the stored
  row itself; that a writer's copy is the stored row is what comparing versions is for
  (`TaskRow.Precedes.eq_of_version`).
* `TaskTable.Grows`: what is there stays there, a closed row as it is and an open row as it is or
  closed. `Move.grows` is the step and `Moves.grows` the run.
-/

namespace ApprovalFlow

namespace TaskRow

/-- A row that nobody has acted on. -/
structure IsOpen (row : TaskRow) : Prop where
  status : row.status = .pending
  version : row.version = 0
  operator : row.operator = none
  endTime : row.endTime = none

/-- A row that has been acted on. -/
structure IsClosed (row : TaskRow) : Prop where
  status : row.status.isTerminal = true
  version : row.version = 1
  operator : row.operator.isSome = true
  endTime : row.endTime.isSome = true

/-- Two rows differ at most in what closing a row writes. -/
def SameTask (row later : TaskRow) : Prop :=
  later = { row with
    operator := later.operator
    status := later.status
    remark := later.remark
    formData := later.formData
    endTime := later.endTime
    extParams := later.extParams
    version := later.version }

/-- A row that a writer makes of a pending copy to close it. -/
structure Closes (copy row : TaskRow) : Prop where
  pending : copy.status = .pending
  same : copy.SameTask row
  status : row.status.isTerminal = true
  operator : row.operator.isSome = true
  endTime : row.endTime.isSome = true
  version : row.version = copy.version

/-- A row and what the table has in its place later. -/
def Precedes (row later : TaskRow) : Prop :=
  row = later ∨ row.IsOpen ∧ later.IsClosed ∧ row.SameTask later

theorem SameTask.id_eq {row later : TaskRow} (h : row.SameTask later) : later.id = row.id := by
  rw [h]

theorem SameTask.name_eq {row later : TaskRow} (h : row.SameTask later) :
    later.name = row.name := by
  rw [h]

theorem SameTask.taskType_eq {row later : TaskRow} (h : row.SameTask later) :
    later.taskType = row.taskType := by
  rw [h]

theorem SameTask.processId_eq {row later : TaskRow} (h : row.SameTask later) :
    later.processId = row.processId := by
  rw [h]

theorem SameTask.approvers_eq {row later : TaskRow} (h : row.SameTask later) :
    later.approvers = row.approvers := by
  rw [h]

theorem SameTask.refl (row : TaskRow) : row.SameTask row := rfl

theorem IsOpen.not_isClosed {row : TaskRow} (opened : row.IsOpen) : ¬ row.IsClosed := by
  intro closed
  have status := closed.status
  rw [opened.status] at status
  cases status

theorem Precedes.refl (row : TaskRow) : row.Precedes row := Or.inl rfl

theorem Precedes.sameTask {row later : TaskRow} (h : row.Precedes later) :
    row.SameTask later := by
  rcases h with rfl | ⟨-, -, same⟩
  · exact SameTask.refl row
  · exact same

/-- A closed row stays as it is. -/
theorem Precedes.eq_of_isClosed {row later : TaskRow} (h : row.Precedes later)
    (closed : row.IsClosed) : later = row := by
  rcases h with rfl | ⟨opened, -, -⟩
  · rfl
  · exact (opened.not_isClosed closed).elim

theorem Precedes.trans {row middle later : TaskRow} (first : row.Precedes middle)
    (last : middle.Precedes later) : row.Precedes later := by
  rcases first with rfl | ⟨opened, closed, same⟩
  · exact last
  · rw [last.eq_of_isClosed closed]
    exact Or.inr ⟨opened, closed, same⟩

/-- A copy with the version of the stored row is the stored row: this is what comparing versions
gives to a writer. -/
theorem Precedes.eq_of_version {row later : TaskRow} (h : row.Precedes later)
    (version : later.version = row.version) : later = row := by
  rcases h with rfl | ⟨opened, closed, -⟩
  · rfl
  · rw [opened.version, closed.version] at version
    cases version

/-- A row that waits is open once it is stored. -/
theorem isOpen_fresh_waiting (t : TaskTable) (taskType : String) (process : ProcessRow)
    (name displayName approvers : String) (now : Instant) :
    (t.fresh (waiting taskType process name displayName approvers now)).IsOpen :=
  ⟨rfl, rfl, rfl, rfl⟩

end TaskRow

namespace TaskTable

/-- Ids are places: 1, 2, 3 and so on. -/
def Numbered (t : TaskTable) : Prop :=
  ∀ (i : Nat) (row : TaskRow), t.rows[i]? = some row → row.id = i + 1

/-- Ids are places, and every row is open or closed. -/
structure Sound (t : TaskTable) : Prop where
  numbered : t.Numbered
  shaped : ∀ row ∈ t.rows, row.IsOpen ∨ row.IsClosed

/-- A closed row of the table. -/
def Final (t : TaskTable) (row : TaskRow) : Prop :=
  row ∈ t.rows ∧ row.IsClosed

/-- A copy of a row that is in the table, or was before the row was closed. -/
def Copied (t : TaskTable) (copy : TaskRow) : Prop :=
  ∃ stored ∈ t.rows, copy.Precedes stored

/-- What is in one table is in the other, as it is or closed. -/
def Grows (t t' : TaskTable) : Prop :=
  ∀ row ∈ t.rows, t'.Copied row

/-- The rows of the second table that the first one does not have. -/
def added (t t' : TaskTable) : List TaskRow :=
  t'.rows.filter (· ∉ t.rows)

/-- What happens to the table: nothing, a row is stored, or a pending row is closed. -/
inductive Move : TaskTable → TaskTable → Prop
  | stay (t : TaskTable) : Move t t
  | insert {t : TaskTable} {row : TaskRow} : (t.fresh row).IsOpen → Move t (t.insert row)
  | close {t : TaskTable} {row closed : TaskRow} :
    row ∈ t.rows → row.Closes closed → Move t (t.replace (bumped closed))

/-- One move after another. -/
abbrev Moves : TaskTable → TaskTable → Prop :=
  Relation.ReflTransGen Move

/-! ## Ids -/

theorem numbered_empty : empty.Numbered := by
  intro i row h
  cases h

/-- Rows with one id are one row. -/
theorem Numbered.eq_of_id_eq {t : TaskTable} (numbered : t.Numbered) {row other : TaskRow}
    (hr : row ∈ t.rows) (ho : other ∈ t.rows) (same : row.id = other.id) : row = other := by
  obtain ⟨i, hi⟩ := List.mem_iff_getElem?.1 hr
  obtain ⟨j, hj⟩ := List.mem_iff_getElem?.1 ho
  have place : i = j := by
    have left := numbered i row hi
    have right := numbered j other hj
    omega
  rw [place, hj] at hi
  exact (Option.some.inj hi).symm

/-- The ids are a count from one. -/
theorem Numbered.map_id {t : TaskTable} (numbered : t.Numbered) :
    t.rows.map (·.id) = (List.range t.size).map fun i : Nat => (i : Int) + 1 := by
  apply List.ext_getElem
  · simp [size]
  · intro i here there
    rw [List.length_map] at here
    have place := numbered i _ (List.getElem?_eq_getElem here)
    simpa using place

theorem Numbered.pairwise {t : TaskTable} (numbered : t.Numbered) :
    t.rows.Pairwise fun r s => r.id ≠ s.id := by
  rw [List.pairwise_iff_getElem]
  intro i j hi hj lt same
  have left := numbered i _ (List.getElem?_eq_getElem hi)
  have right := numbered j _ (List.getElem?_eq_getElem hj)
  omega

/-- An id finds the row that has it. -/
theorem Numbered.get?_eq_some_iff {t : TaskTable} (numbered : t.Numbered) {id : Int}
    {row : TaskRow} : t.get? id = some row ↔ row ∈ t.rows ∧ row.id = id := by
  constructor
  · intro found
    exact ⟨List.mem_of_find?_eq_some found, by simpa using List.find?_some found⟩
  · rintro ⟨member, rfl⟩
    cases found : t.get? row.id with
    | none =>
        have missing := List.find?_eq_none.1 found row member
        simp at missing
    | some other =>
        have sameId : other.id = row.id := by simpa using List.find?_some found
        rw [numbered.eq_of_id_eq (List.mem_of_find?_eq_some found) member sameId]

/-- The id of a new row is above all others. -/
theorem Numbered.lt_nextId {t : TaskTable} (numbered : t.Numbered) {row : TaskRow}
    (member : row ∈ t.rows) : row.id < t.nextId := by
  obtain ⟨i, hi⟩ := List.mem_iff_getElem?.1 member
  have place := numbered i row hi
  have bound : i < t.rows.length := (List.getElem?_eq_some_iff.1 hi).1
  unfold nextId
  omega

theorem Numbered.insert {t : TaskTable} (numbered : t.Numbered) (row : TaskRow) :
    (t.insert row).Numbered := by
  intro i other h
  rcases Nat.lt_trichotomy i t.rows.length with lt | eq | gt
  · rw [TaskTable.insert, List.getElem?_append_left lt] at h
    exact numbered i other h
  · subst eq
    simp only [TaskTable.insert, List.getElem?_concat_length, Option.some.injEq] at h
    rw [← h]
    rfl
  · have out : (t.insert row).rows[i]? = none := by
      rw [List.getElem?_eq_none_iff]
      simp only [TaskTable.insert, List.length_append, List.length_cons, List.length_nil]
      omega
    rw [out] at h
    cases h

theorem Numbered.replace {t : TaskTable} (numbered : t.Numbered) (row : TaskRow) :
    (t.replace row).Numbered := by
  intro i other h
  simp only [TaskTable.replace, List.getElem?_map, Option.map_eq_some_iff] at h
  obtain ⟨old, hold, rfl⟩ := h
  split
  · rename_i same
    rw [← same]
    exact numbered i old hold
  · exact numbered i old hold

/-! ## Rows after a change -/

theorem mem_insert {t : TaskTable} {row other : TaskRow} :
    other ∈ (t.insert row).rows ↔ other ∈ t.rows ∨ other = t.fresh row := by
  simp only [TaskTable.insert, List.mem_append, List.mem_singleton]

theorem mem_replace {t : TaskTable} {row other : TaskRow} :
    other ∈ (t.replace row).rows ↔
      (other ∈ t.rows ∧ other.id ≠ row.id) ∨ (other = row ∧ ∃ old ∈ t.rows, old.id = row.id) := by
  simp only [TaskTable.replace, List.mem_map]
  constructor
  · rintro ⟨old, member, rfl⟩
    by_cases same : old.id = row.id
    · rw [if_pos same]
      exact Or.inr ⟨rfl, old, member, same⟩
    · rw [if_neg same]
      exact Or.inl ⟨member, same⟩
  · rintro (⟨member, different⟩ | ⟨rfl, old, member, same⟩)
    · exact ⟨other, member, if_neg different⟩
    · exact ⟨old, member, if_pos same⟩

theorem size_insert (t : TaskTable) (row : TaskRow) : (t.insert row).size = t.size + 1 := by
  simp [TaskTable.insert, size]

/-- The rows that are there later are the rows that were there and the added ones. -/
theorem mem_of_mem_later {t t' : TaskTable} {row : TaskRow} (member : row ∈ t'.rows) :
    row ∈ t.rows ∨ row ∈ t.added t' := by
  by_cases old : row ∈ t.rows
  · exact Or.inl old
  · exact Or.inr (by simp [added, member, old])

@[simp] theorem added_self (t : TaskTable) : t.added t = [] := by
  simp [added]

theorem Numbered.added_insert {t : TaskTable} (numbered : t.Numbered) (row : TaskRow) :
    t.added (t.insert row) = [t.fresh row] := by
  have new : t.fresh row ∉ t.rows := by
    intro member
    have below := numbered.lt_nextId member
    have own : (t.fresh row).id = t.nextId := rfl
    omega
  have old : t.rows.filter (fun r => decide (r ∉ t.rows)) = [] := by
    simp
  rw [added, TaskTable.insert, List.filter_append, old]
  simp [new]

/-- A row is replaced where it stands. -/
theorem Numbered.split_replace {t : TaskTable} (numbered : t.Numbered) {old row : TaskRow}
    (member : old ∈ t.rows) (same : row.id = old.id) :
    ∃ before after, t.rows = before ++ old :: after ∧
      (t.replace row).rows = before ++ row :: after := by
  have distinct := numbered.pairwise
  obtain ⟨before, after, split⟩ := List.append_of_mem member
  rw [split, List.pairwise_append, List.pairwise_cons] at distinct
  have kept : ∀ part : List TaskRow, (∀ r ∈ part, r.id ≠ row.id) →
      (part.map fun r => if r.id = row.id then row else r) = part := by
    intro part others
    refine (List.map_congr_left ?_).trans (List.map_id' part)
    exact fun r member => if_neg (others r member)
  have first := kept before fun r there => by
    rw [same]
    exact distinct.2.2 r there old (List.mem_cons_self ..)
  have last := kept after fun r there => by
    rw [same]
    exact (distinct.2.1.1 r there).symm
  refine ⟨before, after, split, ?_⟩
  rw [TaskTable.replace, split, List.map_append, List.map_cons, first, last, if_pos same.symm]

/-- Closing a row adds the closed row and nothing else. -/
theorem Numbered.added_replace {t : TaskTable} (numbered : t.Numbered) {old row : TaskRow}
    (member : old ∈ t.rows) (same : row.id = old.id) (new : row ≠ old) :
    t.added (t.replace row) = [row] := by
  have absent : row ∉ t.rows := fun there => new (numbered.eq_of_id_eq there member same)
  obtain ⟨before, after, split, replaced⟩ := numbered.split_replace member same
  have known : ∀ part : List TaskRow, part ⊆ t.rows → part.filter (· ∉ t.rows) = [] := by
    intro part there
    rw [List.filter_eq_nil_iff]
    intro r member
    simp [there member]
  rw [added, replaced, List.filter_append, List.filter_cons]
  rw [known before (by simp [split]), known after (by simp [split])]
  simp [absent]

/-! ## Several rows -/

/-- Some rows as they are stored one after another. -/
def stored (t : TaskTable) (rows : List TaskRow) : List TaskRow :=
  rows.zipIdx.map fun (row, i) => { row with id := t.nextId + i, version := 0 }

theorem stored_cons (t : TaskTable) (row : TaskRow) (rest : List TaskRow) :
    t.stored (row :: rest) = t.fresh row :: (t.insert row).stored rest := by
  have next : (t.insert row).nextId = t.nextId + 1 := by
    simp [nextId, insert]
  unfold stored
  rw [List.zipIdx_cons, List.map_cons, List.zipIdx_succ, List.map_map, next]
  refine congrArg₂ List.cons (by simp [fresh]) (List.map_congr_left ?_)
  rintro ⟨other, i⟩ -
  simp only [Function.comp_apply]
  congr 1
  omega

theorem length_stored (t : TaskTable) (rows : List TaskRow) :
    (t.stored rows).length = rows.length := by
  rw [stored, List.length_map, List.length_zipIdx]

theorem ids_stored (t : TaskTable) (rows : List TaskRow) :
    (t.stored rows).map (·.id) =
      (List.range (t.stored rows).length).map fun i : Nat => t.nextId + i := by
  rw [length_stored, stored, List.map_map, List.range_eq_range', ← List.zipIdx_map_snd 0 rows,
    List.map_map]
  rfl

/-- Storing a row settles its id and its version, and nothing else. -/
theorem map_stored {α : Type} {f : TaskRow → α}
    (blind : ∀ (row : TaskRow) (id : Int), f { row with id := id, version := 0 } = f row)
    (t : TaskTable) (rows : List TaskRow) : (t.stored rows).map f = rows.map f := by
  have places : rows.map f = rows.zipIdx.map (f ∘ Prod.fst) := by
    rw [← List.map_map, List.zipIdx_map_fst]
  rw [stored, List.map_map, places]
  exact List.map_congr_left fun x _ => blind x.1 _

theorem forall_mem_stored {t : TaskTable} {rows : List TaskRow} {property : TaskRow → Prop}
    (all : ∀ row ∈ rows, ∀ id, property { row with id := id, version := 0 }) :
    ∀ row ∈ t.stored rows, property row := by
  intro row member
  obtain ⟨⟨other, i⟩, place, rfl⟩ := List.mem_map.1 member
  exact all other (List.fst_mem_of_mem_zipIdx place) _

/-! ## Updates -/

/-- An update answers with a row exactly when the stored row has the version of the given one; it
puts the row in its place with the next version. -/
theorem Numbered.update_eq_ok_iff {t t' : TaskTable} (numbered : t.Numbered) {row saved : TaskRow} :
    t.update row = (.ok saved, t') ↔
      (∃ stored ∈ t.rows, stored.id = row.id ∧ stored.version = row.version) ∧
        saved = bumped row ∧ t' = t.replace (bumped row) := by
  unfold update
  cases found : t.get? row.id with
  | none =>
      constructor
      · intro h
        cases h
      · rintro ⟨⟨stored, member, same, -⟩, -, -⟩
        rw [numbered.get?_eq_some_iff.2 ⟨member, same⟩] at found
        cases found
  | some stored =>
      obtain ⟨member, same⟩ := numbered.get?_eq_some_iff.1 found
      by_cases version : stored.version = row.version
      · constructor
        · intro h
          simp only [version, ne_eq, not_true_eq_false, if_false, Prod.mk.injEq,
            Except.ok.injEq] at h
          exact ⟨⟨stored, member, same, version⟩, h.1.symm, h.2.symm⟩
        · rintro ⟨-, rfl, rfl⟩
          simp [version]
      · constructor
        · intro h
          simp [version] at h
        · rintro ⟨⟨other, otherMember, otherSame, otherVersion⟩, -, -⟩
          have one := numbered.eq_of_id_eq member otherMember (same.trans otherSame.symm)
          exact (version (one ▸ otherVersion)).elim

/-- An update of a row that is there fails only with a conflict. -/
theorem Numbered.isConflict_of_update {t : TaskTable} (numbered : t.Numbered) {row stored : TaskRow}
    {e : StoreError} (member : stored ∈ t.rows) (same : stored.id = row.id)
    (failed : (t.update row).1 = .error e) :
    e = .conflict "task" (toString row.id) row.version stored.version := by
  unfold update at failed
  rw [numbered.get?_eq_some_iff.2 ⟨member, same⟩] at failed
  dsimp only at failed
  split at failed
  · exact (Except.error.inj failed).symm
  · cases failed

/-! ## Moves -/

theorem sound_empty : empty.Sound :=
  ⟨numbered_empty, by intro row member; cases member⟩

theorem Grows.refl (t : TaskTable) : t.Grows t :=
  fun row member => ⟨row, member, TaskRow.Precedes.refl row⟩

theorem Copied.mono {t t' : TaskTable} {copy : TaskRow} (copied : t.Copied copy)
    (grows : t.Grows t') : t'.Copied copy := by
  obtain ⟨stored, member, before⟩ := copied
  obtain ⟨later, there, after⟩ := grows stored member
  exact ⟨later, there, before.trans after⟩

theorem Grows.trans {t t' t'' : TaskTable} (first : t.Grows t') (last : t'.Grows t'') :
    t.Grows t'' :=
  fun row member => (first row member).mono last

/-- A closed row is still there later. -/
theorem Final.mono {t t' : TaskTable} {row : TaskRow} (final : t.Final row) (grows : t.Grows t') :
    t'.Final row := by
  obtain ⟨later, there, before⟩ := grows row final.1
  rw [before.eq_of_isClosed final.2] at there
  exact ⟨there, final.2⟩

theorem Sound.isOpen_of_pending {t : TaskTable} (sound : t.Sound) {row : TaskRow}
    (member : row ∈ t.rows) (pending : row.status = .pending) : row.IsOpen := by
  rcases sound.shaped row member with opened | closed
  · exact opened
  · have status := closed.status
    rw [pending] at status
    cases status

/-- What closing stores is closed, and the row it closes comes before it. -/
theorem isClosed_bumped {copy row : TaskRow} (opened : copy.IsOpen) (closes : copy.Closes row) :
    (bumped row).IsClosed :=
  ⟨closes.status, by rw [bumped, closes.version, opened.version]; rfl, closes.operator,
    closes.endTime⟩

theorem sameTask_bumped {copy row : TaskRow} (same : copy.SameTask row) :
    copy.SameTask (bumped row) := by
  unfold TaskRow.SameTask at same ⊢
  rw [same]
  rfl

/-- What was there before a move is there after it, as it was or closed. -/
theorem Move.grows {t t' : TaskTable} (move : Move t t') (sound : t.Sound) : t.Grows t' := by
  intro row member
  cases move with
  | stay => exact ⟨row, member, TaskRow.Precedes.refl row⟩
  | insert => exact ⟨row, mem_insert.2 (Or.inl member), TaskRow.Precedes.refl row⟩
  | @close stored closed there closes =>
      have same := sameTask_bumped closes.same
      by_cases place : row.id = (bumped closed).id
      · have one : row = stored :=
          sound.numbered.eq_of_id_eq member there (place.trans same.id_eq)
        have opened := sound.isOpen_of_pending there closes.pending
        refine ⟨bumped closed, mem_replace.2 (Or.inr ⟨rfl, row, member, place⟩), Or.inr ?_⟩
        rw [one]
        exact ⟨opened, isClosed_bumped opened closes, same⟩
      · exact ⟨row, mem_replace.2 (Or.inl ⟨member, place⟩), TaskRow.Precedes.refl row⟩

theorem Move.sound {t t' : TaskTable} (move : Move t t') (sound : t.Sound) : t'.Sound := by
  cases move with
  | stay => exact sound
  | insert fresh =>
      refine ⟨sound.numbered.insert _, ?_⟩
      intro row member
      rcases mem_insert.1 member with old | rfl
      · exact sound.shaped row old
      · exact Or.inl fresh
  | @close stored closed there closes =>
      refine ⟨sound.numbered.replace _, ?_⟩
      intro row member
      rcases mem_replace.1 member with ⟨old, -⟩ | ⟨rfl, -⟩
      · exact sound.shaped row old
      · exact Or.inr (isClosed_bumped (sound.isOpen_of_pending there closes.pending) closes)

/-- A run of moves keeps the table sound, and what was there stays there. -/
theorem Moves.grows {t t' : TaskTable} (moves : Moves t t') (sound : t.Sound) :
    t'.Sound ∧ t.Grows t' := by
  induction moves with
  | refl => exact ⟨sound, Grows.refl t⟩
  | tail _ move ih => exact ⟨move.sound ih.1, ih.2.trans (move.grows ih.1)⟩

/-- The number of rows never falls. -/
theorem Moves.size_le {t t' : TaskTable} (moves : Moves t t') : t.size ≤ t'.size := by
  induction moves with
  | refl => exact Nat.le_refl _
  | tail _ move ih =>
      cases move with
      | stay => exact ih
      | insert =>
          rw [size_insert]
          exact Nat.le_succ_of_le ih
      | close =>
          rw [size_replace]
          exact ih

/-! ## Closing by a copy -/

/-- A pending copy is open, however old it is. -/
theorem Sound.isOpen_of_copy {t : TaskTable} (sound : t.Sound) {copy : TaskRow}
    (copied : t.Copied copy) (pending : copy.status = .pending) : copy.IsOpen := by
  obtain ⟨stored, member, rfl | ⟨opened, -, -⟩⟩ := copied
  · exact sound.isOpen_of_pending member pending
  · exact opened

/-- What a writer has done who closed a row by a copy. -/
structure ClosedBy (t t' : TaskTable) (copy closed : TaskRow) : Prop where
  /-- The copy was the stored row itself. -/
  member : copy ∈ t.rows
  isOpen : copy.IsOpen
  same : copy.SameTask closed
  move : Move t t'
  added : t.added t' = [closed]
  final : t'.Final closed

/-- A writer who closes a row by a copy and is not refused has started from the stored row itself,
since the versions were equal; the closed row takes its place. -/
theorem Sound.closedBy {t t' : TaskTable} (sound : t.Sound) {copy row saved : TaskRow}
    (copied : t.Copied copy) (closes : copy.Closes row)
    (updated : t.update row = (.ok saved, t')) :
    saved = bumped row ∧ t.ClosedBy t' copy (bumped row) := by
  have opened := sound.isOpen_of_copy copied closes.pending
  obtain ⟨stored, member, before⟩ := copied
  obtain ⟨⟨found, there, place, version⟩, answer, rfl⟩ :=
    sound.numbered.update_eq_ok_iff.1 updated
  have one : found = stored := by
    refine sound.numbered.eq_of_id_eq there member ?_
    rw [place, closes.same.id_eq, before.sameTask.id_eq]
  rw [one, closes.version] at version
  rw [before.eq_of_version version] at member
  have same := sameTask_bumped closes.same
  have closed := isClosed_bumped opened closes
  have new : bumped row ≠ copy := fun h => opened.not_isClosed (h ▸ closed)
  refine ⟨answer, member, opened, same, .close member closes,
    sound.numbered.added_replace member same.id_eq new, ?_, closed⟩
  exact mem_replace.2 (Or.inr ⟨rfl, copy, member, same.id_eq.symm⟩)

/-- A refused writer meets a conflict. -/
theorem Sound.conflict {t t' : TaskTable} (sound : t.Sound) {copy row : TaskRow} {e : StoreError}
    (copied : t.Copied copy) (closes : copy.Closes row) (updated : t.update row = (.error e, t')) :
    t' = t ∧ ∃ id expected actual, e = .conflict "task" id expected actual := by
  obtain ⟨stored, member, before⟩ := copied
  have same : stored.id = row.id := by rw [closes.same.id_eq, before.sameTask.id_eq]
  have kept := update_of_error (congrArg Prod.fst updated)
  have clash := sound.numbered.isConflict_of_update member same (congrArg Prod.fst updated)
  rw [updated] at kept
  exact ⟨kept, _, _, _, clash⟩

end TaskTable

end ApprovalFlow
