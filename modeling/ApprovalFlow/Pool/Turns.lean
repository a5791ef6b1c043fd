import ApprovalFlow.Pool.Basic

/-!
# Workers taking turns

A schedule for a pool whose workers run one after the other, each until it has to wait. Workers that
can go on stand in line. A worker without a job needs the token that allows it to look at the queue:
it waits for the token, or has it and waits for a job, in which case the next submission calls it.
Having taken a job, a worker hands the token to whoever has waited for it longest, then runs the job
to its end, and looks for the next. A job may have to wait at a gate; its worker then waits with it
and comes back when the gate is opened.

The journal says which jobs began and which ended. A job that panics ends without an entry.
-/

namespace ApprovalFlow

/-- A job that notes its beginning and its end. -/
structure Errand where
  name : String
  /-- The gate it waits at after it has begun. -/
  gate : Option String
  /-- Whether it breaks off instead of ending. -/
  panics : Bool
  deriving DecidableEq, Repr, Inhabited

/-- A pool and the standing of its workers. -/
structure Turns where
  pool : Pool Errand
  /-- The workers that can go on, in order, each with whether it has the token. -/
  ready : List (Nat × Bool)
  /-- Whether a worker has the token. -/
  tokenTaken : Bool
  /-- The workers that wait for the token, in order. -/
  waitingForToken : List Nat
  /-- The worker that has the token and waits for a job. -/
  receiver : Option Nat
  /-- The gates that are open. -/
  openGates : List String
  /-- The workers whose jobs wait at a gate, with the gate, in order. -/
  atGate : List (Nat × String)
  /-- What jobs have noted. -/
  journal : List String

namespace Turns

/-- A new pool: every worker can go on, nothing has happened. -/
def ofConfig (config : PoolConfig) : Turns where
  pool := .ofConfig config
  ready := (List.range config.workerCount).map (·, false)
  tokenTaken := false
  waitingForToken := []
  receiver := none
  openGates := []
  atGate := []
  journal := []

/-- Notes that a job has begun. -/
def noteStart (t : Turns) (e : Errand) : Turns :=
  { t with journal := t.journal ++ ["start " ++ e.name] }

/-- Notes that a job has ended, unless it broke off. -/
def noteEnd (t : Turns) (e : Errand) : Turns :=
  if e.panics then t else { t with journal := t.journal ++ ["end " ++ e.name] }

/-- The gate a job has to wait at. -/
def closedGate (t : Turns) (e : Errand) : Option String :=
  e.gate.filter fun gate => !t.openGates.contains gate

/-- Submits a job: it is queued and a worker that waits for one is called, or it is run at once. -/
def submit (t : Turns) (e : Errand) : Turns :=
  let submitted := { t with pool := t.pool.submit e }
  if t.pool.isFull then
    let done := (submitted.noteStart e).noteEnd e
    { done with pool := done.pool.finishOnCaller t.pool.submitted }
  else
    { submitted with ready := t.ready ++ t.receiver.toList.map (·, true), receiver := none }

/-- Opens a gate: the workers that wait there can go on. -/
def openGate (t : Turns) (gate : String) : Turns :=
  { t with
    openGates := gate :: t.openGates
    ready := t.ready ++ (t.atGate.filter (·.2 == gate)).map fun w => (w.1, false)
    atGate := t.atGate.filter (·.2 != gate) }

/-- Ends the job of a worker. -/
def finish (t : Turns) (worker : Nat) (e : Errand) : Turns :=
  let noted := t.noteEnd e
  { noted with pool := noted.pool.finish worker }

/-- Hands the token on: the worker that has waited longest can go on with it. -/
def passToken (t : Turns) : Turns :=
  match t.waitingForToken with
  | [] => { t with tokenTaken := false }
  | next :: rest => { t with waitingForToken := rest, ready := t.ready ++ [(next, true)] }

/-- A worker with the token takes jobs until it has to wait. Each job it takes shortens the queue,
so the length of the queue, which `fuel` exceeds, is enough. -/
def serve (worker : Nat) : Nat → Turns → Turns
  | 0, t => { t with receiver := some worker }
  | fuel + 1, t =>
    match t.pool.take worker with
    | none => { t with receiver := some worker }
    | some (job, pool) =>
      let begun := ({ t with pool := pool }.passToken).noteStart job.work
      match begun.closedGate job.work with
      | some gate => { begun with atGate := begun.atGate ++ [(worker, gate)] }
      | none =>
        let done := begun.finish worker job.work
        if done.tokenTaken then { done with waitingForToken := done.waitingForToken ++ [worker] }
        else serve worker fuel { done with tokenTaken := true }

/-- A worker without a job asks for the token and serves if it is free. -/
def seek (worker : Nat) (t : Turns) : Turns :=
  if t.tokenTaken then { t with waitingForToken := t.waitingForToken ++ [worker] }
  else serve worker (t.pool.queued.length + 1) { t with tokenTaken := true }

/-- The turn of the first worker that can go on: it ends the job it waited with, if there is one,
and serves if it has the token or gets it. -/
def turn (t : Turns) : Turns :=
  match t.ready with
  | [] => t
  | (worker, hasToken) :: rest =>
    let t := { t with ready := rest }
    if hasToken then serve worker (t.pool.queued.length + 1) t
    else
      match t.pool.running.find? (·.1 == worker) with
      | some (_, job) => seek worker (t.finish worker job.work)
      | none => seek worker t

/-- Takes turns until no worker can go on; at most `fuel` of them. -/
def takeTurns : Nat → Turns → Turns
  | 0, t => t
  | fuel + 1, t => if t.ready.isEmpty then t else takeTurns fuel t.turn

/-- Lets the workers go on as long as any can. Every turn uses up a place in the line, and only a
job that is taken adds one, so this many turns are enough. -/
def settle (t : Turns) : Turns :=
  takeTurns (t.ready.length + t.pool.queued.length) t

end Turns

end ApprovalFlow
