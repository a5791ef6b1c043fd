import ApprovalFlow.Store.Basic

/-!
# The event log

The log in memory. Rows are kept in order of their ids, which are 1, 2, 3 and so on. A row is
written twice, when a listener's run begins and when it has ended; an update takes the row as it is
given.
-/

namespace ApprovalFlow

/-- Event rows in order of their ids. -/
structure EventLog where
  rows : List EventRow
  deriving Repr, Inhabited

namespace EventLog

/-- The log without rows. -/
def empty : EventLog := ⟨[]⟩

/-- The row as it is stored on insertion. -/
def fresh (log : EventLog) (row : EventRow) : EventRow :=
  { row with id := log.rows.length + 1 }

/-- Stores a new row. -/
def insert (log : EventLog) (row : EventRow) : EventLog :=
  ⟨log.rows ++ [log.fresh row]⟩

/-- Puts a row in the place of the one with its id. -/
def replace (log : EventLog) (row : EventRow) : EventLog :=
  ⟨log.rows.map fun r => if r.id = row.id then row else r⟩

/-- Replaces a row that is there. -/
def update (log : EventLog) (row : EventRow) : Except StoreError Unit × EventLog :=
  if log.rows.any (·.id == row.id) then (.ok (), log.replace row)
  else (.error (.notFound "event log" (toString row.id)), log)

/-- The rows of a process. -/
def ofProcess (log : EventLog) (processId : Int) : List EventRow :=
  log.rows.filter (·.processId == processId)

instance : EventStore EventLog where
  insert log row := (.ok (log.fresh row), log.insert row)
  update := update
  rows := EventLog.rows
  ofProcess := ofProcess

end EventLog

end ApprovalFlow
