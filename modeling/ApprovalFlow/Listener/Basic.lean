import ApprovalFlow.Error
import ApprovalFlow.Snapshot

/-!
# Listeners

A listener reacts to one event of a family. It gets a snapshot and answers with an `Outcome`: it
succeeds, refuses with a message for the operator, fails with an error, or breaks off without an
answer. A listener is synchronous, run in line by whoever notifies, or asynchronous, left to a
worker pool.
-/

namespace ApprovalFlow

/-- How a listener's run ends. -/
inductive Outcome where
  /-- It did its work. -/
  | success
  /-- It refused; the message reaches the operator as it is. -/
  | refusal (message : String)
  /-- It failed with an error. -/
  | failure (error : WorkflowError)
  /-- It broke off. -/
  | panic
  deriving DecidableEq, Repr

/-- A named reaction to one event. -/
structure Listener (ε : Type) where
  /-- The name, unique within a registry. -/
  name : String
  /-- The event it reacts to. -/
  event : ε
  /-- Whether it is left to a worker pool. -/
  isAsync : Bool
  /-- What it answers to what it sees. -/
  respond : Snapshot → Outcome

/-- Listeners for one event, split by mode. -/
structure Groups (ε : Type) where
  sync : List (Listener ε)
  async : List (Listener ε)

namespace Groups

variable {ε : Type}

/-- No listeners. -/
def empty : Groups ε := ⟨[], []⟩

/-- Appends a listener to the group of its mode. -/
def push (g : Groups ε) (l : Listener ε) : Groups ε :=
  if l.isAsync then { g with async := g.async ++ [l] } else { g with sync := g.sync ++ [l] }

/-- Appends those of some listeners that are bound to an event, each to the group of its mode. -/
def extendFor [DecidableEq ε] (g : Groups ε) (event : ε) (listeners : List (Listener ε)) :
    Groups ε :=
  (listeners.filter (·.event = event)).foldl push g

/-- The names in the two groups, first those run in line. -/
def names (g : Groups ε) : List String × List String :=
  (g.sync.map (·.name), g.async.map (·.name))

/-- Pushing listeners one after the other appends each mode's listeners in order. -/
theorem foldl_push (g : Groups ε) (ls : List (Listener ε)) :
    ls.foldl push g =
      ⟨g.sync ++ ls.filter (!·.isAsync), g.async ++ ls.filter (·.isAsync)⟩ := by
  induction ls generalizing g with
  | nil => simp
  | cons l rest ih =>
    rw [List.foldl_cons, ih]
    cases h : l.isAsync <;> simp [push, h]

end Groups

end ApprovalFlow
