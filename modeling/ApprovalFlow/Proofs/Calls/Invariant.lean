import ApprovalFlow.Proofs.Calls.Lawful

/-!
# What holds in every world

`World.Sound` is the invariant: the table is sound, every copy that was handed out precedes the row
that is stored now, every call is lawful, and each closed row was stored by one completion.

* `Call.Lawful.closes_of_stored`: the two ways in which a completion comes to store a row.
* `World.Step.sound`: every step keeps it, and the table only grows.
* `World.Reachable.sound`, `World.Later.grows`: so it holds in every world that can be reached.
-/

namespace ApprovalFlow

variable {σ : Type}

namespace Call

/-- How a completion has come to store a row: an action was planned on a user task, or the engine
has done a task of its own. -/
inductive Closes (known : Task → Prop) (table : TaskTable) (call : Call σ) (row : TaskRow) : Prop
  | planned {t : Task} {a : ActionRequest} {c : Context} {event : TaskEvent} {closed : TaskRow} :
    call.entry = .completing .user c → known t → UserTask.Planned t a c event closed →
    row = TaskTable.bumped closed → Closes known table call row
  | served {t : Task} {a : ActionRequest} {c ready : Context} :
    call.entry = .completing .service c → known t → ServiceTask.Prepared t a c ready →
    row.ServedFor a table → Closes known table call row

/-- What a lawful completion has stored is in the table and closed, in one of two ways. -/
theorem Lawful.closes_of_stored {known : Task → Prop} {table : TaskTable} {call : Call σ}
    (lawful : call.Lawful known table) (completes : call.acted.isSome) {row : TaskRow}
    (member : row ∈ call.stored) : table.Final row ∧ call.Closes known table row := by
  cases lawful with
  | asked => cases member
  | storing => cases completes
  | announcing => cases completes
  | entered => cases completes
  | refused why quiet =>
      rw [stored, quiet.stored_eq_nil] at member
      cases member
  | closing isKnown planned copied quiet =>
      rw [stored, quiet.stored_eq_nil] at member
      cases member
  | telling isKnown planned copied final wrote silent =>
      rw [stored, wrote] at member
      cases List.mem_singleton.1 member
      exact ⟨final, .planned rfl isKnown planned rfl⟩
  | told isKnown planned copied final wrote passed =>
      rw [stored, wrote] at member
      cases List.mem_singleton.1 member
      exact ⟨final, .planned rfl isKnown planned rfl⟩
  | serving isKnown prepared copied serves served =>
      exact ⟨(served row member).final, .served rfl isKnown prepared (served row member)⟩

/-- What a lawful completion has stored is in the table and closed; it is what an action has planned
or the row of one of the engine's own tasks. -/
theorem Lawful.of_stored {known : Task → Prop} {table : TaskTable} {call : Call σ}
    (lawful : call.Lawful known table) (completes : call.acted.isSome) {row : TaskRow}
    (member : row ∈ call.stored) :
    table.Final row ∧
      ((∃ t a c event closed, UserTask.Planned t a c event closed ∧ row = TaskTable.bumped closed) ∨
        row.status = .completed ∨ row.status = .failed) := by
  obtain ⟨final, closes⟩ := lawful.closes_of_stored completes member
  refine ⟨final, ?_⟩
  cases closes with
  | planned entry isKnown planned wrote => exact Or.inl ⟨_, _, _, _, _, planned, wrote⟩
  | served entry isKnown prepared served => exact Or.inr served.status

end Call

namespace World

/-- A completion, given by its place among the calls, has stored the row of an id. -/
def Wrote (w : World σ) (i : Nat) (id : Int) : Prop :=
  ∃ call, w.calls[i]? = some call ∧ call.acted.isSome ∧ ∃ row ∈ call.stored, row.id = id

/-- The invariant. -/
structure Sound (known : Task → Prop) (w : World σ) : Prop where
  table : w.engine.tasks.Sound
  named : ∀ row ∈ w.rows, row.Known known
  copies : ∀ copy ∈ w.copies, w.engine.tasks.Copied copy
  calls : ∀ call ∈ w.calls, call.Lawful known w.engine.tasks
  wrote : ∀ row ∈ w.rows, row.IsClosed → ∃ i, w.Wrote i row.id
  once : ∀ i j id, w.Wrote i id → w.Wrote j id → i = j

variable {known : Task → Prop} {w w' : World σ}

theorem sound_empty (e : Engine TaskTable σ) (start : e.tasks = .empty) :
    (⟨e, [], []⟩ : World σ).Sound known := by
  have none : (⟨e, [], []⟩ : World σ).rows = [] := congrArg TaskTable.rows start
  refine ⟨start ▸ TaskTable.sound_empty, ?_, ?_, ?_, ?_, ?_⟩
  · intro row member
    rw [none] at member
    cases member
  · intro copy member
    cases member
  · intro call member
    cases member
  · intro row member
    rw [none] at member
    cases member
  · rintro i j id ⟨call, found, -⟩
    cases found

/-- A row that was stored by a completion is closed. -/
theorem Sound.final_of_wrote (sound : w.Sound known) {i : Nat} {id : Int} (h : w.Wrote i id) :
    ∃ row, w.engine.tasks.Final row ∧ row.id = id := by
  obtain ⟨call, found, completes, row, member, rfl⟩ := h
  exact ⟨row, ((sound.calls call (List.mem_of_getElem? found)).of_stored completes member).1, rfl⟩

/-- A new call has stored nothing. -/
theorem Sound.begin (sound : w.Sound known) {entry : Stage}
    (asked : entry.Asked known (· ∈ w.copies)) :
    ({ w with calls := w.calls ++ [.begun entry] } : World σ).Sound known := by
  have same : ∀ i id, ({ w with calls := w.calls ++ [.begun entry] } : World σ).Wrote i id ↔
      w.Wrote i id := by
    intro i id
    constructor
    · rintro ⟨call, found, completes, row, member, place⟩
      rw [List.getElem?_append] at found
      split at found
      · exact ⟨call, found, completes, row, member, place⟩
      · rw [List.mem_singleton.1 (List.mem_of_getElem? found)] at member
        cases member
    · rintro ⟨call, found, rest⟩
      have inside := (List.getElem?_eq_some_iff.1 found).1
      exact ⟨call, (List.getElem?_append_left inside).trans found, rest⟩
  refine ⟨sound.table, sound.named, sound.copies, ?_, ?_, ?_⟩
  · intro call member
    rcases List.mem_append.1 member with old | new
    · exact sound.calls call old
    · rw [List.mem_singleton.1 new]
      exact .asked (asked.mono sound.copies)
  · intro row member closed
    obtain ⟨i, wrote⟩ := sound.wrote row member closed
    exact ⟨i, (same i row.id).2 wrote⟩
  · intro i j id first second
    exact sound.once i j id ((same i id).1 first) ((same j id).1 second)

variable [EventStore σ]

/-- A call at its place after a step. -/
theorem getElem?_proceed {i : Nat} {call : Call σ} (found : w.calls[i]? = some call)
    {stage : Stage} {e : Engine TaskTable σ} (h : call.stage.step w.engine = (stage, e)) (j : Nat) :
    (w.proceed i call).calls[j]? =
      if i = j then some (call.turned stage w.engine e) else w.calls[j]? := by
  have inside := (List.getElem?_eq_some_iff.1 found).1
  simp only [proceed, h, List.getElem?_set, inside, if_true]

/-- What a call was asked for does not change. -/
theorem entry_schedule (w : World σ) (order : List Nat) (j : Nat) :
    (w.schedule order).calls[j]?.map Call.entry = w.calls[j]?.map Call.entry := by
  unfold schedule
  induction order generalizing w with
  | nil => rfl
  | cons i rest ih =>
      rw [List.foldl_cons, ih (w.turn i)]
      unfold turn
      cases found : w.calls[i]? with
      | none => rfl
      | some call =>
          rcases h : call.stage.step w.engine with ⟨stage, e⟩
          dsimp only
          rw [getElem?_proceed found h]
          split
          · rename_i same
            rw [← same, found]
            rfl
          · rfl

/-- What a call has stored it has stored later. -/
theorem wrote_proceed {i : Nat} {call : Call σ} (found : w.calls[i]? = some call)
    {stage : Stage} {e : Engine TaskTable σ} (h : call.stage.step w.engine = (stage, e)) {j : Nat}
    {id : Int} : (w.proceed i call).Wrote j id ↔
      w.Wrote j id ∨ i = j ∧ call.acted.isSome ∧
        ∃ row ∈ w.engine.tasks.added e.tasks, row.id = id := by
  unfold Wrote
  rw [getElem?_proceed found h]
  by_cases place : i = j
  · subst place
    rw [if_pos rfl]
    constructor
    · rintro ⟨_, same, completes, row, member, id_eq⟩
      cases same
      rw [Call.stored, Call.turned, Turn.stored_concat] at member
      rcases List.mem_append.1 member with old | new
      · exact Or.inl ⟨call, found, completes, row, old, id_eq⟩
      · exact Or.inr ⟨rfl, completes, row, new, id_eq⟩
    · rintro (⟨other, same, completes, row, member, id_eq⟩ | ⟨-, completes, row, member, id_eq⟩)
      · rw [found] at same
        cases same
        refine ⟨_, rfl, completes, row, ?_, id_eq⟩
        rw [Call.stored, Call.turned, Turn.stored_concat]
        exact List.mem_append_left _ member
      · refine ⟨_, rfl, completes, row, ?_, id_eq⟩
        rw [Call.stored, Call.turned, Turn.stored_concat]
        exact List.mem_append_right _ member
  · rw [if_neg place]
    constructor
    · exact Or.inl
    · rintro (old | ⟨same, -⟩)
      · exact old
      · exact (place same).elim

/-- A step of a call keeps the invariant. -/
theorem Sound.proceed (sound : w.Sound known) {i : Nat} {call : Call σ}
    (found : w.calls[i]? = some call) :
    (w.proceed i call).Sound known ∧ w.engine.tasks.Grows (w.proceed i call).engine.tasks := by
  rcases h : call.stage.step w.engine with ⟨stage, e⟩
  have lawful := sound.calls call (List.mem_of_getElem? found)
  have advanced := lawful.advance sound.table sound.named h
  have grows := advanced.move.grows sound.table
  have engine : (w.proceed i call).engine = e := by simp only [World.proceed, h]
  rw [engine]
  refine ⟨⟨?_, ?_, ?_, ?_, ?_, ?_⟩, grows⟩
  · rw [engine]
    exact advanced.move.sound sound.table
  · intro row member
    rw [rows, engine] at member
    rcases TaskTable.mem_of_mem_later member with old | new
    · exact sound.named row old
    · exact advanced.added row new
  · intro copy member
    rw [engine]
    simp only [World.proceed, h, List.mem_append] at member
    rcases member with old | now
    · exact (sound.copies copy old).mono grows
    · exact ⟨copy, now, TaskRow.Precedes.refl copy⟩
  · intro other member
    rw [engine]
    obtain ⟨j, place⟩ := List.mem_iff_getElem?.1 member
    rw [getElem?_proceed found h] at place
    split at place
    · cases place
      exact advanced.lawful
    · exact (sound.calls other (List.mem_of_getElem? place)).mono grows
  · intro row member closed
    rw [rows, engine] at member
    simp only [wrote_proceed found h]
    rcases TaskTable.mem_of_mem_later member with old | new
    · obtain ⟨j, wrote⟩ := sound.wrote row old closed
      exact ⟨j, Or.inl wrote⟩
    · by_cases completes : call.acted.isSome
      · exact ⟨i, Or.inr ⟨rfl, completes, row, new, rfl⟩⟩
      · exact ((advanced.opens completes row new).not_isClosed closed).elim
  · intro j k id first second
    rw [wrote_proceed found h] at first second
    -- A row that is closed now was open, so nobody had stored it.
    have new : ∀ l, w.Wrote l id → ¬ (call.acted.isSome ∧
        ∃ row ∈ w.engine.tasks.added e.tasks, row.id = id) := by
      rintro l wrote ⟨completes, row, added, id_eq⟩
      obtain ⟨closed, final, same⟩ := sound.final_of_wrote wrote
      obtain ⟨old, member, opened, place⟩ := advanced.closes completes row added
      have one := sound.table.numbered.eq_of_id_eq member final.1
        ((place.trans id_eq).trans same.symm)
      exact opened.not_isClosed (one ▸ final.2)
    rcases first with first | ⟨rfl, first⟩
    · rcases second with second | ⟨rfl, second⟩
      · exact sound.once j k id first second
      · exact (new j first second).elim
    · rcases second with second | ⟨rfl, second⟩
      · exact (new k second first).elim
      · rfl

/-- Every step keeps the invariant, and the table only grows. -/
theorem Step.sound (step : Step known w w') (sound : w.Sound known) :
    w'.Sound known ∧ w.engine.tasks.Grows w'.engine.tasks := by
  cases step with
  | begin asked => exact ⟨sound.begin asked, TaskTable.Grows.refl _⟩
  | proceed found => exact sound.proceed found
  | @meanwhile e same =>
      have rows_eq : ({ w with engine := e } : World σ).rows = w.rows := by rw [rows, same, rows]
      refine ⟨⟨?_, ?_, ?_, ?_, ?_, sound.once⟩, ?_⟩
      · exact same ▸ sound.table
      · exact rows_eq ▸ sound.named
      · exact same ▸ sound.copies
      · exact same ▸ sound.calls
      · exact rows_eq ▸ sound.wrote
      · exact same ▸ TaskTable.Grows.refl _

/-- Every run keeps the invariant, and what is in the table at one time is in it later, as it is or
closed. -/
theorem Later.sound (later : Later known w w') (sound : w.Sound known) :
    w'.Sound known ∧ w.engine.tasks.Grows w'.engine.tasks := by
  induction later with
  | refl => exact ⟨sound, TaskTable.Grows.refl _⟩
  | tail _ step ih =>
      obtain ⟨next, grows⟩ := step.sound ih.1
      exact ⟨next, ih.2.trans grows⟩

theorem Reachable.sound (reached : w.Reachable known) : w.Sound known := by
  obtain ⟨e, start, steps⟩ := reached
  exact (Later.sound steps (sound_empty e start)).1

end World

end ApprovalFlow
