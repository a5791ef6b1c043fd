import ApprovalFlow.Proofs.Store.Copies
import ApprovalFlow.Proofs.TaskTable
import ApprovalFlow.Json.Record
import Mathlib.Data.List.Induction
import Mathlib.Data.List.Nodup
import Mathlib.Tactic.Tauto

/-!
# The table and its history

What the table answers to a call, and what it holds, is settled by the calls before and their
answers. A row is stored under the next id, whatever id it comes with; it is replaced by who knows
how often it has been replaced before; and what is found under an id is what the last call that
succeeded on the id was answered with.

* `TaskTable.History.due`: the answer that a history leaves for a call. `History.Lawful` says that
  every call was answered that way.
* `TaskTable.History.Reflected`: the invariant that ties a table to its history, with
  `Reflected.serve` as the step. It also says that a copy of a row with the version of the stored
  row is the stored row.
* `TaskTable.served_compares_and_sets`: what holds after any calls with any rows.
-/

namespace ApprovalFlow

namespace TaskTable

/-- A call that stores a row or replaces one. -/
inductive Write where
  | insert (row : TaskRow)
  | update (row : TaskRow)

/-- A call and the answer to it. -/
structure Answered where
  write : Write
  answer : Except StoreError TaskRow

/-- Calls with their answers, the oldest first. -/
abbrev History := List Answered

/-- The answer to a call, and the table after it. -/
def serve (t : TaskTable) : Write → Except StoreError TaskRow × TaskTable
  | .insert row => TaskStore.insert t row
  | .update row => TaskStore.update t row

/-- The id that a call is about. -/
def target (t : TaskTable) : Write → Int
  | .insert _ => t.nextId
  | .update row => row.id

/-- What has become of the empty table after some calls, with their history. -/
def served (writes : List Write) : History × TaskTable :=
  writes.foldl (fun s w => (s.1 ++ [⟨w, (s.2.serve w).1⟩], (s.2.serve w).2)) ([], .empty)

namespace Answered

/-- Whether a row was stored. -/
def inserts (x : Answered) : Bool :=
  match x.write with
  | .insert _ => true
  | .update _ => false

/-- Whether the row of an id was replaced. -/
def updates (id : Int) (x : Answered) : Bool :=
  match x.write, x.answer with
  | .update row, .ok _ => row.id == id
  | _, _ => false

end Answered

namespace History

/-- How many rows were stored. -/
def inserts (h : History) : Nat :=
  h.countP Answered.inserts

/-- How often the row of an id was replaced. -/
def updates (h : History) (id : Int) : Nat :=
  h.countP (Answered.updates id)

/-- The rows that were answered, the oldest first. -/
def saved (h : History) : List TaskRow :=
  h.filterMap (·.answer.toOption)

/-- The answer of the last call that succeeded on an id. -/
def last? (h : History) (id : Int) : Option TaskRow :=
  h.saved.reverse.find? (·.id == id)

/-- The answer that a history leaves for a call: a new row gets the next id, and a row is replaced
if there is one with its id and it names the number of replacements so far. -/
def due (h : History) : Write → Except StoreError TaskRow
  | .insert row => .ok { row with id := h.inserts + 1, version := 0 }
  | .update row =>
    if (h.last? row.id).isNone then .error (.notFound "task" (toString row.id))
    else if row.version = h.updates row.id then .ok { row with version := row.version + 1 }
    else .error (.conflict "task" (toString row.id) row.version (h.updates row.id))

/-- Every call was answered as the calls before it left it. -/
inductive Lawful : History → Prop
  | nil : Lawful []
  | next {h : History} (w : Write) : Lawful h → Lawful (h ++ [⟨w, h.due w⟩])

/-- A table and the history it comes from. -/
structure Reflected (h : History) (t : TaskTable) : Prop where
  numbered : t.Numbered
  size : t.size = h.inserts
  get : ∀ id, t.get? id = h.last? id
  updates : ∀ id, (h.updates id : Int) = (t.get? id).elim 0 (·.version)
  copies : ∀ copy ∈ h.saved, ∃ stored ∈ t.rows, stored.id = copy.id ∧
    copy.version ≤ stored.version ∧ (copy.version = stored.version → copy = stored)

end History

/-! ## What is found after a change -/

theorem Numbered.get?_insert {t : TaskTable} (numbered : t.Numbered) (row : TaskRow) (id : Int) :
    (t.insert row).get? id = if id = t.nextId then some (t.fresh row) else t.get? id := by
  ext found
  rw [(numbered.insert row).get?_eq_some_iff, mem_insert]
  split
  · rename_i new
    subst new
    constructor
    · rintro ⟨old | rfl, same⟩
      · have below := numbered.lt_nextId old
        omega
      · rfl
    · rintro ⟨⟩
      exact ⟨Or.inr rfl, rfl⟩
  · rename_i other
    rw [numbered.get?_eq_some_iff]
    constructor
    · rintro ⟨old | rfl, same⟩
      · exact ⟨old, same⟩
      · exact (other same.symm).elim
    · rintro ⟨old, same⟩
      exact ⟨Or.inl old, same⟩

theorem Numbered.get?_replace {t : TaskTable} (numbered : t.Numbered) {stored : TaskRow}
    (row : TaskRow) (member : stored ∈ t.rows) (same : stored.id = row.id) (id : Int) :
    (t.replace row).get? id = if id = row.id then some row else t.get? id := by
  ext found
  rw [(numbered.replace row).get?_eq_some_iff, mem_replace]
  split
  · rename_i own
    subst own
    constructor
    · rintro ⟨⟨-, different⟩ | ⟨rfl, -⟩, place⟩
      · exact (different place).elim
      · rfl
    · rintro ⟨⟩
      exact ⟨Or.inr ⟨rfl, stored, member, same⟩, rfl⟩
  · rename_i other
    rw [numbered.get?_eq_some_iff]
    constructor
    · rintro ⟨⟨old, -⟩ | ⟨rfl, -⟩, place⟩
      · exact ⟨old, place⟩
      · exact (other place.symm).elim
    · rintro ⟨old, rfl⟩
      exact ⟨Or.inl ⟨old, other⟩, rfl⟩

/-- What an update answers: a row that is missing, a row of another version, or the row with the
next version, which it puts in the place of the stored one. -/
theorem Numbered.update_cases {t : TaskTable} (numbered : t.Numbered) (row : TaskRow) :
    (t.get? row.id = none ∧ t.update row = (.error (.notFound "task" (toString row.id)), t)) ∨
    (∃ stored, t.get? row.id = some stored ∧ stored.version ≠ row.version ∧
      t.update row =
        (.error (.conflict "task" (toString row.id) row.version stored.version), t)) ∨
    ∃ stored ∈ t.rows, t.get? row.id = some stored ∧ stored.id = row.id ∧
      stored.version = row.version ∧ t.update row = (.ok (bumped row), t.replace (bumped row)) := by
  rcases t.update_cases row with ⟨⟨stored, found, version⟩, answer⟩ | ⟨err, stale, answer⟩
  · obtain ⟨member, same⟩ := numbered.get?_eq_some_iff.1 found
    exact Or.inr (Or.inr ⟨stored, member, found, same, version, answer⟩)
  · cases stale with
    | missing nothing => exact Or.inl ⟨nothing, answer⟩
    | overtaken found version => exact Or.inr (Or.inl ⟨_, found, version, answer⟩)

/-! ## One more call -/

namespace History

theorem inserts_concat (h : History) (x : Answered) :
    inserts (h ++ [x]) = h.inserts + if x.inserts then 1 else 0 := by
  simp [inserts, List.countP_append, List.countP_singleton]

theorem updates_concat (h : History) (x : Answered) (id : Int) :
    updates (h ++ [x]) id = h.updates id + if x.updates id then 1 else 0 := by
  simp [updates, List.countP_append, List.countP_singleton]

theorem saved_concat_ok (h : History) (w : Write) (row : TaskRow) :
    saved (h ++ [⟨w, .ok row⟩]) = h.saved ++ [row] := by
  simp [saved, Except.toOption]

theorem saved_concat_error (h : History) (w : Write) (e : StoreError) :
    saved (h ++ [⟨w, .error e⟩]) = h.saved := by
  simp [saved, Except.toOption]

theorem last?_concat_ok (h : History) (w : Write) (row : TaskRow) (id : Int) :
    last? (h ++ [⟨w, .ok row⟩]) id = if id = row.id then some row else h.last? id := by
  rw [last?, saved_concat_ok, List.reverse_concat, List.find?_cons]
  by_cases same : id = row.id
  · simp [same]
  · rw [if_neg same, show (row.id == id) = false by simpa using Ne.symm same]
    rfl

theorem last?_concat_error (h : History) (w : Write) (e : StoreError) (id : Int) :
    last? (h ++ [⟨w, .error e⟩]) id = h.last? id := by
  rw [last?, saved_concat_error, last?]

variable {h : History} {t : TaskTable}

theorem reflected_nil : Reflected [] .empty where
  numbered := numbered_empty
  size := rfl
  get _ := rfl
  updates _ := rfl
  copies copy member := by cases member

/-- The version of a stored row is the number of its replacements. -/
theorem Reflected.version (reflected : h.Reflected t) {row : TaskRow} (member : row ∈ t.rows) :
    row.version = h.updates row.id := by
  rw [reflected.updates, reflected.numbered.get?_eq_some_iff.2 ⟨member, rfl⟩]
  rfl

/-- A call is answered as its history leaves it. -/
theorem Reflected.answer (reflected : h.Reflected t) (w : Write) : (t.serve w).1 = h.due w := by
  cases w with
  | insert row =>
      have next : t.nextId = h.inserts + 1 := by
        rw [← reflected.size]
        rfl
      simp only [serve, TaskStore.insert, due, fresh, next]
  | update row =>
      have count := reflected.updates row.id
      simp only [serve, TaskStore.update, due]
      rw [← reflected.get]
      rcases reflected.numbered.update_cases row with
        ⟨missing, answer⟩ | ⟨stored, found, version, answer⟩ |
          ⟨stored, -, found, -, version, answer⟩
      · rw [answer, missing]
        rfl
      · rw [found] at count
        simp [answer, found, count, Ne.symm version]
      · rw [found] at count
        simp [answer, found, count, version, bumped]

/-- A refused update changes neither the table nor what its history says. -/
theorem Reflected.refused (reflected : h.Reflected t) (row : TaskRow) (e : StoreError) :
    Reflected (h ++ [⟨.update row, .error e⟩]) t where
  numbered := reflected.numbered
  size := by
    rw [inserts_concat]
    exact reflected.size
  get id := by
    rw [last?_concat_error]
    exact reflected.get id
  updates id := by
    rw [updates_concat]
    exact reflected.updates id
  copies := by
    rw [saved_concat_error]
    exact reflected.copies

theorem Reflected.inserted (reflected : h.Reflected t) (row : TaskRow) :
    Reflected (h ++ [⟨.insert row, .ok (t.fresh row)⟩]) (t.insert row) where
  numbered := reflected.numbered.insert row
  size := by
    rw [size_insert, inserts_concat, reflected.size]
    rfl
  get id := by
    rw [reflected.numbered.get?_insert, last?_concat_ok, reflected.get]
    rfl
  updates id := by
    have before := reflected.updates id
    rw [updates_concat, reflected.numbered.get?_insert]
    simp only [Answered.updates, Bool.false_eq_true, if_false, Nat.add_zero]
    split
    · rename_i new
      -- The next id has not been seen: a row with it would lie below it.
      cases found : t.get? id with
      | none =>
          rw [found] at before
          exact before
      | some old =>
          obtain ⟨member, same⟩ := reflected.numbered.get?_eq_some_iff.1 found
          have below := reflected.numbered.lt_nextId member
          omega
    · exact before
  copies := by
    rw [saved_concat_ok]
    intro copy member
    rcases List.mem_append.1 member with old | new
    · obtain ⟨stored, there, rest⟩ := reflected.copies copy old
      exact ⟨stored, mem_insert.2 (Or.inl there), rest⟩
    · rw [List.mem_singleton.1 new]
      exact ⟨t.fresh row, mem_insert.2 (Or.inr rfl), rfl, Int.le_refl _, fun _ => rfl⟩

theorem Reflected.replaced (reflected : h.Reflected t) {stored row : TaskRow}
    (member : stored ∈ t.rows) (same : stored.id = row.id)
    (version : stored.version = row.version) :
    Reflected (h ++ [⟨.update row, .ok (bumped row)⟩]) (t.replace (bumped row)) where
  numbered := reflected.numbered.replace _
  size := by
    rw [size_replace, inserts_concat]
    exact reflected.size
  get id := by
    rw [reflected.numbered.get?_replace (bumped row) member same, last?_concat_ok, reflected.get]
  updates id := by
    have before := reflected.updates id
    have found := reflected.numbered.get?_eq_some_iff.2 ⟨member, same⟩
    rw [updates_concat, reflected.numbered.get?_replace (bumped row) member same]
    by_cases own : id = row.id
    · subst own
      rw [found] at before
      simp only [Option.elim_some] at before
      simp [Answered.updates, bumped, before, version]
    · rw [if_neg (show id ≠ (bumped row).id from own), ← before]
      simp [Answered.updates, Ne.symm own]
  copies := by
    have there : bumped row ∈ (t.replace (bumped row)).rows :=
      mem_replace.2 (Or.inr ⟨rfl, stored, member, same⟩)
    rw [saved_concat_ok]
    intro copy saved
    rcases List.mem_append.1 saved with old | new
    · obtain ⟨found, here, place, bound, one⟩ := reflected.copies copy old
      by_cases own : copy.id = row.id
      · -- An older copy of the replaced row has fallen behind.
        have both := reflected.numbered.eq_of_id_eq here member
          (place.trans (own.trans same.symm))
        rw [both, version] at bound
        have next : (bumped row).version = row.version + 1 := rfl
        exact ⟨bumped row, there, own.symm, by omega, fun equal => by omega⟩
      · refine ⟨found, mem_replace.2 (Or.inl ⟨here, ?_⟩), place, bound, one⟩
        exact fun clash => own (place.symm.trans clash)
    · rw [List.mem_singleton.1 new]
      exact ⟨bumped row, there, rfl, Int.le_refl _, fun _ => rfl⟩

/-- One more call keeps the table and its history together. -/
theorem Reflected.serve (reflected : h.Reflected t) (w : Write) :
    Reflected (h ++ [⟨w, (t.serve w).1⟩]) (t.serve w).2 := by
  cases w with
  | insert row => exact reflected.inserted row
  | update row =>
      simp only [TaskTable.serve, TaskStore.update]
      rcases reflected.numbered.update_cases row with
        ⟨-, answer⟩ | ⟨stored, -, -, answer⟩ | ⟨stored, member, -, same, version, answer⟩
      · rw [answer]
        exact reflected.refused row _
      · rw [answer]
        exact reflected.refused row _
      · rw [answer]
        exact reflected.replaced member same version

/-- A copy that was answered at some time and has the version of the stored row is the stored
row. -/
theorem Reflected.eq_of_version (reflected : h.Reflected t) {copy stored : TaskRow}
    (answered : copy ∈ h.saved) (found : t.get? copy.id = some stored)
    (version : stored.version = copy.version) : copy = stored := by
  obtain ⟨here, member, same, -, one⟩ := reflected.copies copy answered
  have both := (reflected.numbered.get?_eq_some_iff.2 ⟨member, same⟩).symm.trans found
  cases both
  exact one version.symm

end History

/-! ## Any number of calls -/

theorem served_concat (writes : List Write) (w : Write) :
    served (writes ++ [w]) =
      ((served writes).1 ++ [⟨w, ((served writes).2.serve w).1⟩],
        ((served writes).2.serve w).2) := by
  simp only [served, List.foldl_append, List.foldl_cons, List.foldl_nil]

theorem reflected_served (writes : List Write) : (served writes).1.Reflected (served writes).2 := by
  induction writes using List.reverseRecOn with
  | nil => exact History.reflected_nil
  | append_singleton before w ih =>
      rw [served_concat]
      exact ih.serve w

theorem lawful_served (writes : List Write) :
    (served writes).1.map (·.write) = writes ∧ (served writes).1.Lawful := by
  induction writes using List.reverseRecOn with
  | nil => exact ⟨rfl, .nil⟩
  | append_singleton before w ih =>
      rw [served_concat, (reflected_served before).answer w]
      refine ⟨?_, .next w ih.2⟩
      rw [List.map_append, ih.1]
      rfl

/-! ## What a history says of the table -/

/-- The ids of the table are 1, 2, 3 and so on, one for each row that was stored. A row is found
under its id, and what is found is the answer of the last call that succeeded on the id. Its version
is the number of its replacements, and so a number of 32 bits as long as there are fewer than
2^31. -/
structure History.Tells (h : History) (t : TaskTable) : Prop where
  ids : t.rows.map (·.id) = (List.range h.inserts).map fun i : Nat => (i : Int) + 1
  key : ∀ id row, t.get? id = some row ↔ row ∈ t.rows ∧ row.id = id
  get : ∀ id, t.get? id = h.last? id
  version : ∀ row ∈ t.rows, row.version = h.updates row.id
  bits : ∀ row ∈ t.rows, h.updates row.id < Nat.pow 2 31 →
    Json.asInt32 (.int row.version) = some row.version

/-- An update succeeds exactly if there is a row with the id and the version, and is found
afterwards; it fails for want of the one or of the other, says which, and changes nothing. No call
makes a difference to any id but its own. -/
structure ComparesAndSets (t : TaskTable) : Prop where
  succeeds : ∀ row, (∃ saved t', t.update row = (.ok saved, t')) ↔
    ∃ stored, t.get? row.id = some stored ∧ stored.version = row.version
  stores : ∀ row saved t', t.update row = (.ok saved, t') →
    saved = { row with version := row.version + 1 } ∧ t'.get? row.id = some saved
  refuses : ∀ row e t', t.update row = (.error e, t') → t' = t ∧
    (t.get? row.id = none ∧ e = .notFound "task" (toString row.id) ∨
      ∃ stored, t.get? row.id = some stored ∧ stored.version ≠ row.version ∧
        e = .conflict "task" (toString row.id) row.version stored.version)
  elsewhere : ∀ w id, id ≠ t.target w → (t.serve w).2.get? id = t.get? id

/-- The rows of a process are listed in order of their ids. The lists of all processes that have
rows make up the table, and rows in a state are counted as they are listed. -/
structure ListsByProcess (t : TaskTable) : Prop where
  mem : ∀ processId row, row ∈ TaskStore.ofProcess t processId ↔
    t.get? row.id = some row ∧ row.processId = processId
  ascending : ∀ processId, (TaskStore.ofProcess t processId).Pairwise (·.id < ·.id)
  partition : ∀ processIds : List Int, processIds.Nodup →
    (∀ row ∈ t.rows, row.processId ∈ processIds) →
    (processIds.flatMap (TaskStore.ofProcess t)).Perm t.rows
  count : ∀ processId name status, TaskStore.count t processId name status =
    (.ok ((TaskStore.ofProcess t processId).countP fun row =>
      row.name == name && row.status == status), t)

theorem Numbered.ascending {t : TaskTable} (numbered : t.Numbered) :
    t.rows.Pairwise (·.id < ·.id) := by
  rw [List.pairwise_iff_getElem]
  intro i j hi hj lt
  have left := numbered i _ (List.getElem?_eq_getElem hi)
  have right := numbered j _ (List.getElem?_eq_getElem hj)
  omega

theorem History.Reflected.tells {h : History} {t : TaskTable} (reflected : h.Reflected t) :
    h.Tells t where
  ids := by
    rw [reflected.numbered.map_id, reflected.size]
  key _ _ := reflected.numbered.get?_eq_some_iff
  get := reflected.get
  version _ := reflected.version
  bits row member few := by
    have version := reflected.version member
    have few : h.updates row.id < 2147483648 := few
    have low : -Int.pow 2 31 ≤ row.version := by
      rw [version]
      exact Int.le_trans (by decide) (Int.natCast_nonneg _)
    have high : row.version ≤ Int.pow 2 31 - 1 := by
      rw [version, show Int.pow 2 31 - 1 = (2147483647 : Int) by decide]
      omega
    rw [Json.asInt32, Json.asIntIn, if_pos ⟨low, high⟩]

theorem Numbered.comparesAndSets {t : TaskTable} (numbered : t.Numbered) : t.ComparesAndSets where
  succeeds row := by
    rcases numbered.update_cases row with
      ⟨missing, answer⟩ | ⟨stored, found, version, answer⟩ | ⟨stored, -, found, -, version, answer⟩
    · simp [answer, missing]
    · simp [answer, found, version]
    · simp [answer, found, version]
  stores row saved t' updated := by
    rcases numbered.update_cases row with
      ⟨-, answer⟩ | ⟨_, -, -, answer⟩ | ⟨stored, member, -, same, -, answer⟩
    · rw [answer] at updated
      cases updated
    · rw [answer] at updated
      cases updated
    · rw [answer] at updated
      cases updated
      refine ⟨rfl, ?_⟩
      rw [numbered.get?_replace (bumped row) member same]
      exact if_pos rfl
  refuses row e t' updated := by
    rcases numbered.update_cases row with
      ⟨missing, answer⟩ | ⟨stored, found, version, answer⟩ | ⟨_, -, -, -, -, answer⟩
    · rw [answer] at updated
      cases updated
      exact ⟨rfl, Or.inl ⟨missing, rfl⟩⟩
    · rw [answer] at updated
      cases updated
      exact ⟨rfl, Or.inr ⟨stored, found, version, rfl⟩⟩
    · rw [answer] at updated
      cases updated
  elsewhere w id other := by
    cases w with
    | insert row =>
        change (t.insert row).get? id = t.get? id
        rw [numbered.get?_insert]
        exact if_neg other
    | update row =>
        simp only [serve, TaskStore.update]
        rcases numbered.update_cases row with
          ⟨-, answer⟩ | ⟨_, -, -, answer⟩ | ⟨stored, member, -, same, -, answer⟩
        · rw [answer]
        · rw [answer]
        · rw [answer, numbered.get?_replace (bumped row) member same]
          exact if_neg other

theorem mem_ofProcess {t : TaskTable} {processId : Int} {row : TaskRow} :
    row ∈ t.ofProcess processId ↔ row ∈ t.rows ∧ row.processId = processId := by
  simp [ofProcess]

theorem Numbered.listsByProcess {t : TaskTable} (numbered : t.Numbered) : t.ListsByProcess where
  mem processId row := by
    rw [show TaskStore.ofProcess t processId = t.ofProcess processId from rfl, mem_ofProcess,
      numbered.get?_eq_some_iff]
    simp
  ascending processId := numbered.ascending.filter _
  partition processIds distinct known := by
    have rows : t.rows.Nodup := numbered.ascending.imp fun lt same => by
      rw [same] at lt
      exact Int.lt_irrefl _ lt
    have listed : (processIds.flatMap t.ofProcess).Nodup := by
      rw [List.nodup_flatMap]
      refine ⟨fun processId _ => rows.filter _, distinct.imp ?_⟩
      intro p q different row first second
      exact different ((mem_ofProcess.1 first).2.symm.trans (mem_ofProcess.1 second).2)
    refine (List.perm_ext_iff_of_nodup listed rows).2 fun row => ?_
    simp only [List.mem_flatMap, mem_ofProcess]
    constructor
    · rintro ⟨-, -, member, -⟩
      exact member
    · intro member
      exact ⟨row.processId, known row member, member, rfl⟩
  count processId name status := by
    simp only [TaskStore.count, TaskStore.ofProcess, TaskTable.count, ofProcess, List.countP_filter]
    refine congrArg (fun n => (Except.ok n, t)) (List.countP_congr fun row _ => ?_)
    simp only [Bool.and_eq_true]
    tauto

/-- After any calls with any rows: each call has been answered as the calls before it left it, the
table holds what its history says, and it compares versions before it replaces a row, touches no
other row, and lists and counts rows by process. -/
theorem served_compares_and_sets (writes : List Write) :
    (served writes).1.map (·.write) = writes ∧ (served writes).1.Lawful ∧
      (served writes).1.Tells (served writes).2 ∧ (served writes).2.ComparesAndSets ∧
      (served writes).2.ListsByProcess := by
  obtain ⟨asked, lawful⟩ := lawful_served writes
  have reflected := reflected_served writes
  exact ⟨asked, lawful, reflected.tells, reflected.numbered.comparesAndSets,
    reflected.numbered.listsByProcess⟩

end TaskTable

end ApprovalFlow
