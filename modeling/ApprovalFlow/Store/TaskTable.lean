import ApprovalFlow.Store.Basic

/-!
# The task table

The table in memory. Rows are kept in order of their ids, which are 1, 2, 3 and so on; none is ever
removed. An update compares versions before it writes and adds one to the version it stores, so of
two writers that start from the same copy one loses with a conflict.
-/

namespace ApprovalFlow

/-- Task rows in order of their ids. -/
structure TaskTable where
  rows : List TaskRow
  deriving Repr, Inhabited

namespace TaskTable

/-- The table without rows. -/
def empty : TaskTable := ⟨[]⟩

/-- The number of rows. -/
def size (t : TaskTable) : Nat :=
  t.rows.length

/-- The id the next row gets. -/
def nextId (t : TaskTable) : Int :=
  t.rows.length + 1

/-- The row of an id. -/
def get? (t : TaskTable) (id : Int) : Option TaskRow :=
  t.rows.find? (·.id == id)

/-- The row as it is stored on insertion. -/
def fresh (t : TaskTable) (row : TaskRow) : TaskRow :=
  { row with id := t.nextId, version := 0 }

/-- Stores a new row. -/
def insert (t : TaskTable) (row : TaskRow) : TaskTable :=
  ⟨t.rows ++ [t.fresh row]⟩

/-- Puts a row in the place of the one with its id. -/
def replace (t : TaskTable) (row : TaskRow) : TaskTable :=
  ⟨t.rows.map fun r => if r.id = row.id then row else r⟩

/-- The row as it is stored by an update. -/
def bumped (row : TaskRow) : TaskRow :=
  { row with version := row.version + 1 }

/-- Compares the version of a row with the stored one, then replaces it. -/
def update (t : TaskTable) (row : TaskRow) : Except StoreError TaskRow × TaskTable :=
  match t.get? row.id with
  | none => (.error (.notFound "task" (toString row.id)), t)
  | some stored =>
    if stored.version ≠ row.version then
      (.error (.conflict "task" (toString row.id) row.version stored.version), t)
    else (.ok (bumped row), t.replace (bumped row))

/-- The rows of a process. -/
def ofProcess (t : TaskTable) (processId : Int) : List TaskRow :=
  t.rows.filter (·.processId == processId)

/-- The number of rows of a process and a task name that are in a state. -/
def count (t : TaskTable) (processId : Int) (name : String) (status : TaskStatus) : Nat :=
  t.rows.countP fun r => r.processId == processId && r.name == name && r.status == status

instance : TaskStore TaskTable where
  insert t row := (.ok (t.fresh row), t.insert row)
  update := update
  get? := get?
  count t processId name status := (.ok (t.count processId name status), t)
  ofProcess := ofProcess

/-- An update that fails leaves the table as it was. -/
theorem update_of_error {t : TaskTable} {row : TaskRow} {e : StoreError}
    (h : (t.update row).1 = .error e) : (t.update row).2 = t := by
  unfold update at *
  split at h
  · rfl
  · split at h <;> simp_all

/-- Replacing keeps the number of rows. -/
theorem size_replace (t : TaskTable) (row : TaskRow) : (t.replace row).size = t.size := by
  simp [replace, size]

end TaskTable

end ApprovalFlow
