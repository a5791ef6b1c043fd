import ApprovalFlow.Engine.Basic

/-!
# Recorded runs

Every run of a listener is recorded in the event log: a row is stored before the listener runs and
brought up to date after it has answered. A listener that breaks off leaves its row as it was. What
the log answers makes no difference to the run: a row that could not be stored is not brought up to
date, and that is all.
-/

namespace ApprovalFlow

namespace Invocation

/-- The row that is stored before the run. -/
def opening (i : Invocation) (now : Instant) : EventRow where
  id := 0
  processId := i.snapshot.process.id
  processName := i.snapshot.process.name
  processDisplayName := i.snapshot.process.displayName
  groupId := i.snapshot.groupId
  taskId := i.snapshot.action.map (·.row.id)
  elementName := i.element.name
  elementDisplayName := i.element.displayName
  eventType := i.family.name
  event := i.event
  listener := i.listener
  isAsync := i.isAsync
  status := .executing
  startTime := now
  endTime := none
  remark := none
  failure := none

/-- The row brought up to date with the outcome of the run, if there is one. -/
def closing (row : EventRow) (now : Instant) : Outcome → Option EventRow
  | .success => some { row with status := .success, endTime := some now }
  | .refusal message =>
    some { row with status := .failed, endTime := some now, remark := some message }
  | .failure error =>
    some { row with status := .failed, endTime := some now, failure := some error.message }
  | .panic => none

/-- The outcome of the run. -/
def outcome (i : Invocation) : Outcome :=
  i.respond i.snapshot

/-- The observation of the run. -/
def observation (i : Invocation) : Observation :=
  .ran i.family i.event i.listener i.isAsync i.snapshot

end Invocation

namespace Engine

variable {τ σ : Type} [EventStore σ]

/-- Stores the row of a run that is about to begin; the stored row, if it was stored. -/
def beginRecord (e : Engine τ σ) (i : Invocation) : Option EventRow × Engine τ σ :=
  let (answer, events) := EventStore.insert e.events (i.opening e.now)
  (answer.toOption, { e with events := events })

/-- Brings the row of a run up to date. -/
def endRecord (e : Engine τ σ) (row : EventRow) (outcome : Outcome) : Engine τ σ :=
  match Invocation.closing row e.now outcome with
  | some row => { e with events := (EventStore.update e.events row).2 }
  | none => e

/-- Runs a listener and records the run. -/
def run (e : Engine τ σ) (i : Invocation) : Outcome × Engine τ σ :=
  let (saved, e) := e.beginRecord i
  let e := e.note i.observation
  match saved with
  | some row => (i.outcome, e.endRecord row i.outcome)
  | none => (i.outcome, e)

/-- The outcome of a recorded run is the listener's own. -/
theorem run_outcome (e : Engine τ σ) (i : Invocation) : (e.run i).1 = i.outcome := by
  unfold run
  dsimp only
  split <;> rfl

end Engine

end ApprovalFlow
