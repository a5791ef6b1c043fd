import ApprovalFlow.Engine.ServiceTask
import ApprovalFlow.Store.EventLog
import ApprovalFlow.Store.TaskTable

/-!
# Walking a process

A replay walks the tasks of a process the way an engine would. `Replay.advance` takes names from a
queue: a user task is entered and waits, a service task is entered, completed, and puts its
successors at the end of the queue, and the name `end` closes the process. A cycle of service tasks
would keep the queue filled for ever, so the walk has a budget of names it may take. `Walk.budget`
is enough for every walk that ends: without such a cycle no path through service tasks is longer
than the number of tasks. Running out of it is told apart from every failure.
-/

namespace ApprovalFlow

/-- Why a walk stops short. -/
inductive Halt where
  /-- A call failed. -/
  | failed (error : WorkflowError)
  /-- The walk goes round in a circle. -/
  | endless
  deriving DecidableEq, Repr

/-- The failed call, if one stopped the walk. -/
def Halt.workflow? : Halt → Option WorkflowError
  | failed error => some error
  | endless => none

/-- One step of a replay as reported. -/
structure StepRecord where
  step : String
  ok : Bool
  outcome : String
  deriving DecidableEq, Repr

/-- The state of a replay. -/
structure Replay where
  engine : Engine TaskTable EventLog
  definition : ProcessDefinition
  process : ProcessRow
  form : Option ProcessForm
  steps : List StepRecord

namespace Replay

/-- The context that every step starts from. -/
def context (r : Replay) : Context :=
  .base r.definition r.process r.form

/-- The task of a name. -/
def task (r : Replay) (name : String) : Except WorkflowError Task :=
  match r.definition.task? name with
  | some t => .ok t
  | none =>
    .error (.configuration ("process " ++ r.definition.name ++ " has no task " ++ name))

/-- Notifies of a process event. -/
def notifyProcess (r : Replay) (event : ProcessEvent) (c : Context) :
    Except WorkflowError Unit × Replay :=
  let (result, e) := r.engine.notify event c
  (result, { r with engine := e })

/-- Closes the process and notifies of it. -/
def close (r : Replay) (status : ProcessStatus) (event : ProcessEvent) :
    Except WorkflowError Unit × Replay :=
  let closed := { r with process := { r.process with
    status := status
    endTime := some r.engine.now } }
  closed.notifyProcess event closed.context

/-- Enters a task and, if nobody has to act on it, completes it. The successors to go to. -/
def enter (r : Replay) (t : Task) : Except WorkflowError (List String) × Replay :=
  let processor := Processor.ofTask t
  match processor.create t { r.context with current := some t } r.engine with
  | ⟨.error err, _, e⟩ => (.error err, { r with engine := e })
  | ⟨.ok (), c, e⟩ =>
    if processor.waits then (.ok [], { r with engine := e })
    else
      match processor.complete c e with
      | ⟨.error err, c, e⟩ =>
        let (_, r) := { r with engine := e }.notifyProcess .fail c
        (.error err, r)
      | ⟨.ok _, c, e⟩ =>
        let (next, e) := processor.next t c e
        (next, { r with engine := e })

/-- Takes one name of the queue. The names to put at its end. -/
def visit (r : Replay) (name : String) : Except WorkflowError (List String) × Replay :=
  if name = ProcessDefinition.endName then
    let (result, r) := r.close .completed .complete
    (result.map fun _ => [], r)
  else
    match r.task name with
    | .error err => (.error err, r)
    | .ok t => r.enter t

/-- Takes names off the queue until it is empty. The names taken, in order. -/
def walk : Nat → List String → List String → Replay → Except Halt (List String) × Replay
  | _, [], entered, r => (.ok entered, r)
  | 0, _ :: _, _, r => (.error .endless, r)
  | fuel + 1, name :: rest, entered, r =>
    match r.visit name with
    | (.error err, r) => (.error (.failed err), r)
    | (.ok next, r) => walk fuel (rest ++ next) (entered ++ [name]) r

/-- The greatest number of successors of a task. -/
def breadth (p : ProcessDefinition) : Nat :=
  p.tasks.foldl (fun most t => max most t.next.length) 0

/-- The number of names that a walk without circles takes at most: as many as there are paths with
no more tasks than the process has, from each of the names, with `breadth` ways on from each. -/
def budget (p : ProcessDefinition) (names : List String) : Nat :=
  names.length * (List.range (p.tasks.length + 1)).foldl
    (fun total length => total + Nat.pow (breadth p) length) 0

/-- Enters tasks until every branch waits for an operator or has come to the end. -/
def advance (r : Replay) (names : List String) : Except Halt String × Replay :=
  match walk (budget r.definition names) names [] r with
  | (.ok entered, r) => (.ok ("entered " ++ String.intercalate " -> " entered), r)
  | (.error halt, r) => (.error halt, r)

end Replay

end ApprovalFlow
