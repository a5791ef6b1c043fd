/-!
# Worker pools

A pool has a fixed number of workers and a queue. A submitted job is queued; when the queue refuses
it, because it is full, the job is run by whoever submitted it, so that work is never dropped. The
state keeps where every job is: queued, with a worker, with its submitter, or finished. Jobs are
numbered in order of submission, and the number in flight is counted as the pool counts it, up at
submission and down when a job finishes, however it ends.

The operations are the steps of the pool: `submit`, `take`, `finish` and `finishOnCaller`. Which
worker takes the next job, and when, is left to whoever drives the pool.
-/

namespace ApprovalFlow

/-- The shape of a pool. Without a capacity the queue never refuses. -/
structure PoolConfig where
  name : String
  workers : Nat
  capacity : Option Nat
  deriving DecidableEq, Repr, Inhabited

namespace PoolConfig

/-- The pool of twenty workers with an unbounded queue. -/
def standard : PoolConfig := ⟨"default", 20, none⟩

/-- The number of workers; there is always one. -/
def workerCount (c : PoolConfig) : Nat :=
  max c.workers 1

/-- How many jobs the queue holds; a bounded queue holds at least one. -/
def queueLimit (c : PoolConfig) : Option Nat :=
  c.capacity.map (max · 1)

end PoolConfig

/-- A job with its number in order of submission. -/
structure Job (α : Type) where
  ticket : Nat
  work : α
  deriving Repr

/-- Where the jobs of a pool are. -/
structure Pool (α : Type) where
  config : PoolConfig
  /-- The number of jobs submitted. -/
  submitted : Nat
  /-- The jobs that wait, in order of submission. -/
  queued : List (Job α)
  /-- The jobs that workers run, each with its worker. -/
  running : List (Nat × Job α)
  /-- The jobs that their submitters run. -/
  onCaller : List (Job α)
  /-- The numbers of the jobs that have finished, in order. -/
  finished : List Nat
  /-- The number of jobs counted as submitted and not finished. -/
  inFlight : Nat

namespace Pool

variable {α : Type}

/-- A pool before any job. -/
def ofConfig (config : PoolConfig) : Pool α :=
  ⟨config, 0, [], [], [], [], 0⟩

instance : Inhabited (Pool α) := ⟨ofConfig .standard⟩

/-- Whether the queue refuses another job. -/
def isFull (p : Pool α) : Bool :=
  match p.config.queueLimit with
  | some limit => limit ≤ p.queued.length
  | none => false

/-- The job that submitting some work makes. -/
def jobOf (p : Pool α) (work : α) : Job α :=
  ⟨p.submitted, work⟩

/-- Counts a job and queues it, or leaves it to its submitter when the queue is full. -/
def submit (p : Pool α) (work : α) : Pool α :=
  let job := p.jobOf work
  let counted := { p with submitted := p.submitted + 1, inFlight := p.inFlight + 1 }
  if p.isFull then { counted with onCaller := p.onCaller ++ [job] }
  else { counted with queued := p.queued ++ [job] }

/-- Whether a worker runs a job. -/
def isBusy (p : Pool α) (worker : Nat) : Bool :=
  p.running.any (·.1 == worker)

/-- Hands the job that has waited longest to a worker that has none. -/
def take (p : Pool α) (worker : Nat) : Option (Job α × Pool α) :=
  match p.queued with
  | [] => none
  | job :: rest =>
    if worker < p.config.workerCount ∧ p.isBusy worker = false then
      some (job, { p with queued := rest, running := p.running ++ [(worker, job)] })
    else none

/-- The pool when a worker's job has finished. -/
def finish (p : Pool α) (worker : Nat) : Pool α :=
  match p.running.find? (·.1 == worker) with
  | none => p
  | some (_, job) =>
    { p with
      running := p.running.filter (·.1 != worker)
      finished := p.finished ++ [job.ticket]
      inFlight := p.inFlight - 1 }

/-- The pool when a job run by its submitter has finished. -/
def finishOnCaller (p : Pool α) (ticket : Nat) : Pool α :=
  if p.onCaller.any (·.ticket == ticket) then
    { p with
      onCaller := p.onCaller.filter (·.ticket != ticket)
      finished := p.finished ++ [ticket]
      inFlight := p.inFlight - 1 }
  else p

/-- Whether every job has finished, by the count. -/
def isIdle (p : Pool α) : Bool :=
  p.inFlight == 0

end Pool

end ApprovalFlow
