import ApprovalFlow.Context
import ApprovalFlow.Pool.Basic
import ApprovalFlow.Store.Basic

/-!
# The engine

The engine holds the stores, the listeners registered for all processes, the shared catalogue, a
worker pool for each family of events, and the trace of what it has done. Time is a reading of the
clock that the driver of the engine supplies.

An `Invocation` is one run of a listener, ready to be made now or later: it carries the snapshot the
listener gets, so it does not depend on the engine's state any more.
-/

namespace ApprovalFlow

/-- The listeners registered for all processes, and who acts for the engine. -/
structure Settings where
  processManager : Registry ProcessEvent
  taskManager : Registry TaskEvent
  systemOperator : String

/-- One run of a listener. -/
structure Invocation where
  family : Family
  event : String
  listener : String
  /-- What the listener answers to what it sees. -/
  respond : Snapshot → Outcome
  /-- On whose behalf it runs. -/
  element : Element
  /-- What it sees. -/
  snapshot : Snapshot
  /-- Whether it was left to a worker pool. -/
  isAsync : Bool

/-- Something the engine did that others can observe. -/
inductive Observation where
  /-- An event was dispatched. -/
  | dispatched (family : Family) (event : String) (snapshot : Snapshot)
  /-- A selector was consulted. -/
  | consulted (consultation : Consultation)
  /-- A listener ran. -/
  | ran (family : Family) (event listener : String) (isAsync : Bool) (snapshot : Snapshot)
  deriving Repr

/-- The state of the engine. -/
structure Engine (τ σ : Type) where
  settings : Settings
  now : Instant
  tasks : τ
  events : σ
  catalogue : Catalogue
  processPool : Pool Invocation
  taskPool : Pool Invocation
  trace : List Observation

namespace Engine

variable {τ σ : Type}

/-- An engine that has done nothing. Both pools have the same shape; each is named after its
family. -/
def new (settings : Settings) (workers : Nat) (capacity : Option Nat) (catalogue : Catalogue)
    (tasks : τ) (events : σ) (now : Instant) : Engine τ σ where
  settings := settings
  now := now
  tasks := tasks
  events := events
  catalogue := catalogue
  processPool := .ofConfig ⟨Family.process.name, workers, capacity⟩
  taskPool := .ofConfig ⟨Family.task.name, workers, capacity⟩
  trace := []

/-- The pool of a family. -/
def pool (e : Engine τ σ) : Family → Pool Invocation
  | .process => e.processPool
  | .task => e.taskPool

/-- Replaces the pool of a family. -/
def withPool (e : Engine τ σ) (family : Family) (p : Pool Invocation) : Engine τ σ :=
  match family with
  | .process => { e with processPool := p }
  | .task => { e with taskPool := p }

/-- Notes an observation. -/
def note (e : Engine τ σ) (o : Observation) : Engine τ σ :=
  { e with trace := e.trace ++ [o] }

/-- Notes that selectors were consulted. -/
def noteConsulted (e : Engine τ σ) (consultations : List Consultation) : Engine τ σ :=
  { e with trace := e.trace ++ consultations.map .consulted }

/-- Stores a new task row. -/
def insertTask [TaskStore τ] (e : Engine τ σ) (row : TaskRow) :
    Except WorkflowError TaskRow × Engine τ σ :=
  let (answer, tasks) := TaskStore.insert e.tasks row
  (answer.mapError .store, { e with tasks := tasks })

/-- Updates a task row. -/
def updateTask [TaskStore τ] (e : Engine τ σ) (row : TaskRow) :
    Except WorkflowError TaskRow × Engine τ σ :=
  let (answer, tasks) := TaskStore.update e.tasks row
  (answer.mapError .store, { e with tasks := tasks })

/-- Counts the rows of a process and a task name that are in a state. -/
def countTasks [TaskStore τ] (e : Engine τ σ) (processId : Int) (name : String)
    (status : TaskStatus) : Except WorkflowError Nat × Engine τ σ :=
  let (answer, tasks) := TaskStore.count e.tasks processId name status
  (answer.mapError .store, { e with tasks := tasks })

/-- The pool of the family it replaces is the one that was put in. -/
theorem pool_withPool (e : Engine τ σ) (family : Family) (p : Pool Invocation) :
    (e.withPool family p).pool family = p := by
  cases family <;> rfl

end Engine

/-- The answer of a workflow call, with the context and the engine as the call leaves them. -/
structure Reply (τ σ α : Type) where
  result : Except WorkflowError α
  context : Context
  engine : Engine τ σ

end ApprovalFlow
