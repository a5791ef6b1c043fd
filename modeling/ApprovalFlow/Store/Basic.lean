import ApprovalFlow.Error
import ApprovalFlow.Row.Event
import ApprovalFlow.Row.Task

/-!
# What stores do

A task store keeps task rows, an event store rows of the event log. A call answers with a value or
an error, and the store as it is after the call. The engine is written against these two classes, so
what is said of the engine holds of every store unless it names one.
-/

namespace ApprovalFlow

/-- A store of task rows. -/
class TaskStore (τ : Type) where
  /-- Stores a new row under a fresh id and answers with it. -/
  insert : τ → TaskRow → Except StoreError TaskRow × τ
  /-- Replaces a row if its version is still the one given, and answers with the stored row. -/
  update : τ → TaskRow → Except StoreError TaskRow × τ
  /-- The row of an id. -/
  get? : τ → Int → Option TaskRow
  /-- The number of rows of a process and a task name that are in a state. -/
  count : τ → Int → String → TaskStatus → Except StoreError Nat × τ
  /-- The rows of a process, in order of their ids. -/
  ofProcess : τ → Int → List TaskRow

/-- A store of event rows. -/
class EventStore (σ : Type) where
  /-- Stores a new row under a fresh id and answers with it. -/
  insert : σ → EventRow → Except StoreError EventRow × σ
  /-- Replaces a row. -/
  update : σ → EventRow → Except StoreError Unit × σ
  /-- Every row, in order of their ids. -/
  rows : σ → List EventRow
  /-- The rows of a process, in order of their ids. -/
  ofProcess : σ → Int → List EventRow

end ApprovalFlow
