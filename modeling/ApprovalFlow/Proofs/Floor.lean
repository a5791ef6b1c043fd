import ApprovalFlow.Proofs.Effects
import ApprovalFlow.Proofs.Pass
import ApprovalFlow.Proofs.Pool.Places
import Mathlib.Logic.Relation

/-!
# A caller and its workers

While a caller goes on with what it has to do, workers take what it has left to the pools, and
everybody writes to one event log. `Floor` is a moment of that: the engine, what the caller still
has to do, and the runs of listeners that have begun and not ended. `Floor.Step` is one thing that
may happen next, and anybody may be next who is not waiting. A run begins and ends in two steps, so
that anything may come between its two entries in the log.

* `Floor.Sound`: what every step keeps. The row of each run, but for its number and its times, is
  in the log or still to come, and there are no others.
* `Floor.Opening.of_done`: so in the end the log holds the same rows, whoever went first.
* `Floor.Opening.steps_sequential`: a caller that does all it has to do while the workers rest, and
  then waits for them, is one case.
-/

namespace ApprovalFlow

/-- The row without its number and its times. -/
def EventRow.erased (row : EventRow) : EventRow :=
  { row with id := 0, startTime := default, endTime := row.endTime.map fun _ => default }

/-- The row that is left of a run, without its number and its times. -/
def Invocation.record (i : Invocation) : EventRow :=
  (closing (i.opening default) default i.outcome).getD (i.opening default)

/-- The run of a listener that is made or left to a pool. -/
def Effect.run? : Effect → Option Invocation
  | .ran i | .submitted i => some i
  | .noted _ | .stored _ => none

/-- The task rows after something has been done. -/
def Effect.table (tasks : TaskTable) : Effect → TaskTable
  | .stored tasks' => tasks'
  | .noted _ | .ran _ | .submitted _ => tasks

/-- Who runs a listener: the caller in line, the caller with a job that the queue has refused, or a
worker. -/
inductive Seat where
  | inLine
  | caller (family : Family) (ticket : Nat)
  | worker (family : Family) (number : Nat)

/-- A run that has begun, with its row as it was stored. -/
structure Underway where
  seat : Seat
  call : Invocation
  row : EventRow

/-- A moment of a caller and its workers. -/
structure Floor where
  engine : Engine TaskTable EventLog
  /-- What the caller still has to do. A run in line stays here until it has ended. -/
  todo : List Effect
  begun : List Underway

namespace Floor

/-- What there is to run at a seat. -/
inductive Holds (f : Floor) : Seat → Invocation → Prop
  | inLine {i : Invocation} {rest : List Effect} : f.todo = .ran i :: rest → f.Holds .inLine i
  | caller {family : Family} {job : Job Invocation} : job ∈ (f.engine.pool family).onCaller →
    f.Holds (.caller family job.ticket) job.work
  | worker {family : Family} {number : Nat} {job : Job Invocation} :
    (number, job) ∈ (f.engine.pool family).running → f.Holds (.worker family number) job.work

/-- The caller has no job on its hands that a queue has refused. -/
def IsFree (f : Floor) : Prop :=
  ∀ family, (f.engine.pool family).onCaller = []

/-- What was to be run at a seat has ended. -/
def leave (f : Floor) : Seat → Floor
  | .inLine => { f with todo := f.todo.tail }
  | .caller family ticket =>
    { f with engine := f.engine.withPool family ((f.engine.pool family).finishOnCaller ticket) }
  | .worker family number =>
    { f with engine := f.engine.withPool family ((f.engine.pool family).finish number) }

/-- A run has ended: its row is brought up to date. -/
def settle (f : Floor) (u : Underway) (others : List Underway) : Floor :=
  { f with engine := f.engine.endRecord u.row u.call.outcome, begun := others }

/-- One thing that happens. -/
inductive Step : Floor → Floor → Prop
  | does {f : Floor} {x : Effect} {rest : List Effect} : f.todo = x :: rest → x.run? = none →
    f.IsFree → Step f { f with engine := f.engine.perform x, todo := rest }
  | submits {f : Floor} {i : Invocation} {rest : List Effect} :
    f.todo = .submitted i :: rest → f.IsFree →
    Step f { f with
      engine := f.engine.withPool i.family ((f.engine.pool i.family).submit i)
      todo := rest }
  | takes {f : Floor} {family : Family} {number : Nat} {job : Job Invocation}
    {p : Pool Invocation} : (f.engine.pool family).take number = some (job, p) →
    Step f { f with engine := f.engine.withPool family p }
  /-- The jobs that wait may come on in any order. -/
  | reorders {f : Floor} {family : Family} {queue : List (Job Invocation)} :
    queue.Perm (f.engine.pool family).queued →
    Step f { f with
      engine := f.engine.withPool family { f.engine.pool family with queued := queue } }
  | begins {f : Floor} {seat : Seat} {i : Invocation} {row : EventRow}
    {e : Engine TaskTable EventLog} : f.Holds seat i → seat ∉ f.begun.map (·.seat) →
    (seat = .inLine → f.IsFree) → f.engine.beginRecord i = (some row, e) →
    Step f { f with engine := e.note i.observation, begun := f.begun ++ [⟨seat, i, row⟩] }
  | ends {f : Floor} {before after : List Underway} {u : Underway} :
    f.begun = before ++ u :: after → Step f ((f.settle u (before ++ after)).leave u.seat)
  | ticks {f : Floor} (now : Instant) : Step f { f with engine := { f.engine with now := now } }

/-- What may come of a moment. -/
abbrev Steps : Floor → Floor → Prop :=
  Relation.ReflTransGen Step

/-- The caller has nothing left to do, and both pools count no jobs. -/
structure Done (f : Floor) : Prop where
  todo : f.todo = []
  idle : ∀ family, (f.engine.pool family).isIdle = true

/-- What the pools have not finished. -/
def pooled (e : Engine TaskTable EventLog) : List Invocation :=
  (e.pool .process).unfinished ++ (e.pool .task).unfinished

/-- The runs that have not ended: those that the caller still has to make or leave to a pool, and
those that the pools have not finished. -/
def pending (f : Floor) : List Invocation :=
  f.todo.filterMap Effect.run? ++ pooled f.engine

/-- What every step keeps: the pools are tidy, the rows are numbered, whoever is at work has
something to run, the caller will leave the same task rows behind, and the rows that have been
brought up to date make up a fixed account with those that are still to come. -/
structure Sound (tasks : TaskTable) (account : List EventRow) (f : Floor) : Prop where
  tidy : ∀ family, (f.engine.pool family).Tidy
  tasks : f.todo.foldl Effect.table f.engine.tasks = tasks
  numbers : f.engine.events.rows.map (·.id) =
    (List.range f.engine.events.rows.length).map fun n : Nat => (n : Int) + 1
  seats : (f.begun.map (·.seat)).Nodup
  holds : ∀ u ∈ f.begun, f.Holds u.seat u.call
  opened : ∀ u ∈ f.begun, u.row.erased = u.call.opening default
  ledger : ∃ settled, f.engine.events.rows.Perm (settled ++ f.begun.map (·.row)) ∧
    (settled.map EventRow.erased ++ f.pending.map Invocation.record).Perm account

variable {tasks : TaskTable} {account : List EventRow} {f f' : Floor}

/-! ## Seats and pools -/

/-- What there is to run at a seat is still there as long as nothing has been taken away. -/
theorem Holds.mono {seat : Seat} {i : Invocation} (holds : f.Holds seat i)
    (inLine : ∀ rest, f.todo = .ran i :: rest → ∃ rest', f'.todo = .ran i :: rest')
    (onCaller : ∀ family, (f.engine.pool family).onCaller ⊆ (f'.engine.pool family).onCaller)
    (running : ∀ family, (f.engine.pool family).running ⊆ (f'.engine.pool family).running) :
    f'.Holds seat i := by
  cases holds with
  | inLine here =>
      obtain ⟨rest', there⟩ := inLine _ here
      exact .inLine there
  | caller member => exact .caller (onCaller _ member)
  | worker member => exact .worker (running _ member)

theorem Holds.congr {seat : Seat} {i : Invocation} (holds : f.Holds seat i)
    (todo : f'.todo = f.todo) (pools : f'.engine.pool = f.engine.pool) : f'.Holds seat i :=
  holds.mono (fun rest here => ⟨rest, todo.trans here⟩) (fun _ => by rw [pools]; exact fun _ => id)
    fun _ => by rw [pools]; exact fun _ => id

/-- What the pools have not finished when one of them has been changed. -/
theorem perm_pooled {e : Engine TaskTable EventLog} {family : Family} {p : Pool Invocation}
    (is js : List Invocation)
    (here : (is ++ p.unfinished).Perm (js ++ (e.pool family).unfinished)) :
    (is ++ pooled (e.withPool family p)).Perm (js ++ pooled e) := by
  cases family with
  | process =>
      have both := here.append_right (e.pool .task).unfinished
      rw [List.append_assoc, List.append_assoc] at both
      exact both
  | task =>
      have both := here.append_left (e.pool .process).unfinished
      exact (List.perm_append_comm_assoc ..).trans (both.trans (List.perm_append_comm_assoc ..))

theorem events_withPool (e : Engine TaskTable EventLog) (family : Family) (p : Pool Invocation) :
    (e.withPool family p).events = e.events := by
  cases family <;> rfl

theorem tasks_withPool (e : Engine TaskTable EventLog) (family : Family) (p : Pool Invocation) :
    (e.withPool family p).tasks = e.tasks := by
  cases family <;> rfl

/-! ## Steps that leave the log alone -/

theorem Sound.of_pools (sound : f.Sound tasks account) {e : Engine TaskTable EventLog}
    {todo : List Effect} (tidy : ∀ family, (e.pool family).Tidy)
    (events : e.events = f.engine.events) (rows : todo.foldl Effect.table e.tasks = tasks)
    (holds : ∀ u ∈ f.begun, ({ f with engine := e, todo := todo } : Floor).Holds u.seat u.call)
    (pending : ({ f with engine := e, todo := todo } : Floor).pending.Perm f.pending) :
    ({ f with engine := e, todo := todo } : Floor).Sound tasks account := by
  obtain ⟨settled, log, books⟩ := sound.ledger
  refine ⟨tidy, rows, ?_, sound.seats, holds, sound.opened, settled, ?_, ?_⟩
  · dsimp only
    rw [events]
    exact sound.numbers
  · dsimp only
    rw [events]
    exact log
  · exact ((pending.map Invocation.record).append_left _).trans books

/-- One pool is changed without anything being taken away from whoever runs it. -/
theorem Sound.of_pool (sound : f.Sound tasks account) {family : Family} {p : Pool Invocation}
    {todo : List Effect} (tidy : p.Tidy) (onCaller : (f.engine.pool family).onCaller ⊆ p.onCaller)
    (running : (f.engine.pool family).running ⊆ p.running)
    (inLine : ∀ i rest, f.todo = .ran i :: rest → ∃ rest', todo = .ran i :: rest')
    (rows : todo.foldl Effect.table f.engine.tasks = tasks)
    (pending : ({ f with engine := f.engine.withPool family p, todo := todo } : Floor).pending.Perm
      f.pending) :
    ({ f with engine := f.engine.withPool family p, todo := todo } : Floor).Sound
      tasks account := by
  have here := Engine.pool_withPool f.engine family p
  have others := fun other (apart : other ≠ family) =>
    Engine.pool_withPool_of_ne (e := f.engine) apart p
  refine sound.of_pools (fun other => ?_) (events_withPool ..) ?_ (fun u member => ?_) pending
  · by_cases same : other = family
    · rw [same, here]
      exact tidy
    · rw [others other same]
      exact sound.tidy other
  · rw [tasks_withPool]
    exact rows
  · refine (sound.holds u member).mono (inLine u.call) (fun other => ?_) (fun other => ?_)
    all_goals
      dsimp only
      by_cases same : other = family
      · rw [same, here]
        assumption
      · rw [others other same]
        exact fun _ => id

theorem Sound.does (sound : f.Sound tasks account) {x : Effect} {rest : List Effect}
    (todo : f.todo = x :: rest) (silent : x.run? = none) :
    ({ f with engine := f.engine.perform x, todo := rest } : Floor).Sound tasks account := by
  have rows := sound.tasks
  rw [todo] at rows
  have holds : ∀ e : Engine TaskTable EventLog, e.pool = f.engine.pool →
      ∀ u ∈ f.begun, ({ f with engine := e, todo := rest } : Floor).Holds u.seat u.call := by
    intro e pools u member
    refine (sound.holds u member).mono (fun _ here => ?_)
      (fun _ => by rw [pools]; exact fun _ => id)
      (fun _ => by rw [pools]; exact fun _ => id)
    rw [todo] at here
    cases here
    cases silent
  have pending : rest.filterMap Effect.run? ++ pooled f.engine = f.pending := by
    unfold Floor.pending
    rw [todo, List.filterMap_cons_none silent]
  cases x with
  | noted => exact sound.of_pools sound.tidy rfl rows (holds _ rfl) (List.Perm.of_eq pending)
  | stored => exact sound.of_pools sound.tidy rfl rows (holds _ rfl) (List.Perm.of_eq pending)
  | ran => cases silent
  | submitted => cases silent

theorem Sound.submits (sound : f.Sound tasks account) {i : Invocation} {rest : List Effect}
    (todo : f.todo = .submitted i :: rest) :
    ({ f with
      engine := f.engine.withPool i.family ((f.engine.pool i.family).submit i)
      todo := rest } : Floor).Sound tasks account := by
  have rows := sound.tasks
  rw [todo] at rows
  refine sound.of_pool ((sound.tidy i.family).submit i) (Pool.onCaller_subset_submit _ i) ?_ ?_ rows
    ?_
  · rw [Pool.running_submit]
    exact fun _ => id
  · intro _ _ here
    rw [todo] at here
    cases here
  · have more := perm_pooled [] [i] (Pool.unfinished_submit (f.engine.pool i.family) i)
    unfold pending
    rw [todo]
    exact (more.append_left _).trans List.perm_middle

theorem Sound.takes (sound : f.Sound tasks account) {family : Family} {number : Nat}
    {job : Job Invocation} {p : Pool Invocation}
    (taken : (f.engine.pool family).take number = some (job, p)) :
    ({ f with engine := f.engine.withPool family p } : Floor).Sound tasks account := by
  have same := perm_pooled [] [] (Pool.unfinished_take taken)
  have tidy := (sound.tidy family).take taken
  obtain ⟨rest, -, -, -, rfl⟩ := Pool.take_eq_some_iff.1 taken
  exact sound.of_pool tidy (fun _ => id) (List.subset_append_left ..)
    (fun _ rest here => ⟨rest, here⟩) sound.tasks (same.append_left _)

theorem Sound.reorders (sound : f.Sound tasks account) {family : Family}
    {queue : List (Job Invocation)} (same : queue.Perm (f.engine.pool family).queued) :
    ({ f with
      engine := f.engine.withPool family { f.engine.pool family with queued := queue } } :
      Floor).Sound tasks account := by
  have works : ({ f.engine.pool family with queued := queue } : Pool Invocation).unfinished.Perm
      (f.engine.pool family).unfinished :=
    ((same.map (·.work)).append_right _).append_right _
  exact sound.of_pool ((sound.tidy family).reorder same) (fun _ => id) (fun _ => id)
    (fun _ rest here => ⟨rest, here⟩) sound.tasks ((perm_pooled [] [] works).append_left _)

theorem Sound.ticks (sound : f.Sound tasks account) (now : Instant) :
    ({ f with engine := { f.engine with now := now } } : Floor).Sound tasks account :=
  sound.of_pools sound.tidy rfl sound.tasks
    (fun u member => (sound.holds u member).congr rfl rfl) (List.Perm.refl _)

/-! ## A run begins -/

theorem beginRecord_eq (e : Engine TaskTable EventLog) (i : Invocation) :
    e.beginRecord i = (some (e.events.fresh (i.opening e.now)),
      { e with events := e.events.insert (i.opening e.now) }) :=
  rfl

theorem Sound.begins (sound : f.Sound tasks account) {seat : Seat} {i : Invocation}
    {row : EventRow} {e : Engine TaskTable EventLog} (holds : f.Holds seat i)
    (fresh : seat ∉ f.begun.map (·.seat)) (stored : f.engine.beginRecord i = (some row, e)) :
    ({ f with engine := e.note i.observation, begun := f.begun ++ [⟨seat, i, row⟩] } : Floor).Sound
      tasks account := by
  rw [beginRecord_eq] at stored
  cases stored
  obtain ⟨settled, log, books⟩ := sound.ledger
  refine ⟨sound.tidy, sound.tasks, ?_, ?_, ?_, ?_, settled, ?_, books⟩
  · have numbers := sound.numbers
    simp only [Engine.note, EventLog.insert, List.map_append, List.length_append,
      List.length_singleton, List.range_succ, numbers]
    rfl
  · dsimp only
    rw [List.map_append, List.nodup_append]
    refine ⟨sound.seats, List.nodup_singleton seat, ?_⟩
    intro old there new here same
    have one : new = seat := List.mem_singleton.1 here
    exact fresh (one ▸ same ▸ there)
  · intro u member
    rcases List.mem_append.1 member with old | new
    · exact (sound.holds u old).congr rfl rfl
    · rw [List.mem_singleton.1 new]
      exact holds.congr rfl rfl
  · intro u member
    rcases List.mem_append.1 member with old | new
    · exact sound.opened u old
    · rw [List.mem_singleton.1 new]
      rfl
  · dsimp only [Engine.note, EventLog.insert]
    rw [List.map_append, ← List.append_assoc]
    exact log.append_right _

/-! ## A run ends -/

theorem erased_closing (row : EventRow) (now : Instant) (outcome : Outcome) :
    (Invocation.closing row now outcome).map EventRow.erased =
      Invocation.closing row.erased default outcome := by
  cases outcome <;> rfl

/-- Putting a row in the place of the one with its number. -/
theorem rows_replace {front back : List EventRow} {row row' : EventRow}
    (distinct : ((front ++ row :: back).map (·.id)).Nodup) (same : row'.id = row.id) :
    (EventLog.replace ⟨front ++ row :: back⟩ row').rows = front ++ row' :: back := by
  rw [List.map_append, List.map_cons, List.nodup_append, List.nodup_cons] at distinct
  obtain ⟨-, ⟨later, -⟩, apart⟩ := distinct
  -- Numbers are distinct, so no other row is hit.
  have kept : ∀ part : List EventRow, (∀ r ∈ part, r.id ≠ row.id) →
      part.map (fun r => if r.id = row'.id then row' else r) = part := by
    intro part others
    refine (List.map_congr_left fun r member => ?_).trans (List.map_id part)
    exact if_neg (same ▸ others r member)
  have early : ∀ r ∈ front, r.id ≠ row.id :=
    fun r member => apart r.id (List.mem_map_of_mem member) row.id (List.mem_cons_self ..)
  have late : ∀ r ∈ back, r.id ≠ row.id :=
    fun r member one => later (one ▸ List.mem_map_of_mem member)
  unfold EventLog.replace
  rw [List.map_append, List.map_cons, kept front early, kept back late, if_pos same.symm]

theorem Sound.nodup_numbers (sound : f.Sound tasks account) :
    (f.engine.events.rows.map (·.id)).Nodup := by
  rw [sound.numbers]
  refine List.Nodup.map (fun n m same => ?_) List.nodup_range
  omega

/-- Bringing the row of a run up to date settles it, in its place. -/
theorem rows_endRecord {e : Engine TaskTable EventLog} {i : Invocation} {row : EventRow}
    {front back : List EventRow} (distinct : (e.events.rows.map (·.id)).Nodup)
    (log : e.events.rows = front ++ row :: back) (opened : row.erased = i.opening default) :
    ∃ row', row'.id = row.id ∧ row'.erased = i.record ∧
      (e.endRecord row i.outcome).events.rows = front ++ row' :: back := by
  have record := erased_closing row e.now i.outcome
  rw [opened] at record
  unfold Engine.endRecord Invocation.record
  rw [← record]
  cases closed : Invocation.closing row e.now i.outcome with
  | none => exact ⟨row, rfl, opened, log⟩
  | some row' =>
      have same : row'.id = row.id := by
        cases answer : i.outcome <;> rw [answer] at closed <;> cases closed <;> rfl
      have there : e.events.rows.any (·.id == row'.id) = true := by
        refine List.any_eq_true.2 ⟨row, by rw [log]; simp, ?_⟩
        rw [same]
        exact beq_self_eq_true _
      have updated : (EventStore.update e.events row').2 = e.events.replace row' := by
        change (e.events.update row').2 = _
        unfold EventLog.update
        rw [if_pos there]
      rw [log] at distinct
      have replaced := rows_replace distinct same
      rw [← log] at replaced
      dsimp only
      rw [updated]
      exact ⟨row', same, rfl, replaced⟩

theorem perm_endRecord {e : Engine TaskTable EventLog} {i : Invocation} {row : EventRow}
    {others : List EventRow} (distinct : (e.events.rows.map (·.id)).Nodup)
    (log : e.events.rows.Perm (row :: others)) (opened : row.erased = i.opening default) :
    (e.endRecord row i.outcome).events.rows.map (·.id) = e.events.rows.map (·.id) ∧
      ∃ row', row'.erased = i.record ∧
        (e.endRecord row i.outcome).events.rows.Perm (row' :: others) := by
  obtain ⟨front, back, split⟩ := List.append_of_mem (log.mem_iff.2 (List.mem_cons_self ..))
  obtain ⟨row', same, record, rows⟩ := rows_endRecord distinct split opened
  rw [split] at log
  have rest := (List.perm_middle.symm.trans log).cons_inv
  refine ⟨?_, row', record, ?_⟩
  · rw [rows, split, List.map_append, List.map_append, List.map_cons, List.map_cons, same]
  · rw [rows]
    exact List.perm_middle.trans (rest.cons row')

/-- A seat is left where there was something to run: one pool at most is changed, as it should be,
and what was to be run has gone from what is pending. -/
inductive Left (f : Floor) (i : Invocation) : Floor → Prop
  | inLine {rest : List Effect} : f.todo = .ran i :: rest → Left f i { f with todo := rest }
  | pool {family : Family} {p : Pool Invocation} : p.Tidy →
    (f.engine.pool family).unfinished.Perm (i :: p.unfinished) →
    Left f i { f with engine := f.engine.withPool family p }

theorem Holds.left {seat : Seat} {i : Invocation} (holds : f.Holds seat i)
    (tidy : ∀ family, (f.engine.pool family).Tidy) : Left f i (f.leave seat) := by
  cases holds with
  | inLine here =>
      unfold leave
      rw [here]
      exact .inLine here
  | @caller family job member =>
      exact .pool ((tidy family).finishOnCaller member)
        ((tidy family).unfinished_finishOnCaller member)
  | @worker family number job member =>
      exact .pool ((tidy family).finish member) ((tidy family).unfinished_finish member)

theorem pool_leave (f : Floor) (seat : Seat) (family : Family) :
    (f.leave seat).engine.pool family = f.engine.pool family ∨
    (∃ ticket, seat = .caller family ticket ∧ (f.leave seat).engine.pool family =
      (f.engine.pool family).finishOnCaller ticket) ∨
    ∃ number, seat = .worker family number ∧ (f.leave seat).engine.pool family =
      (f.engine.pool family).finish number := by
  cases seat with
  | inLine => exact Or.inl rfl
  | caller place ticket =>
      by_cases same : family = place
      · subst same
        exact Or.inr (Or.inl ⟨ticket, rfl, Engine.pool_withPool ..⟩)
      · exact Or.inl (Engine.pool_withPool_of_ne same _)
  | worker place number =>
      by_cases same : family = place
      · subst same
        exact Or.inr (Or.inr ⟨number, rfl, Engine.pool_withPool ..⟩)
      · exact Or.inl (Engine.pool_withPool_of_ne same _)

/-- Whoever else is at work still has something to run. -/
theorem Holds.leave {seat other : Seat} {i : Invocation} (holds : f.Holds other i)
    (apart : other ≠ seat) : (f.leave seat).Holds other i := by
  cases holds with
  | inLine here =>
      cases seat with
      | inLine => exact (apart rfl).elim
      | caller => exact .inLine here
      | worker => exact .inLine here
  | @caller family job member =>
      apply Holds.caller
      rcases pool_leave f seat family with kept | ⟨ticket, rfl, finished⟩ | ⟨number, rfl, finished⟩
      · rw [kept]
        exact member
      · rw [finished]
        exact Pool.mem_onCaller_finishOnCaller member fun one => apart (one ▸ rfl)
      · rw [finished, Pool.onCaller_finish]
        exact member
  | @worker family number job member =>
      apply Holds.worker
      rcases pool_leave f seat family with kept | ⟨ticket, rfl, finished⟩ | ⟨other, rfl, finished⟩
      · rw [kept]
        exact member
      · rw [finished, Pool.running_finishOnCaller]
        exact member
      · rw [finished]
        exact Pool.mem_running_finish member fun one => apart (one ▸ rfl)

theorem begun_leave (f : Floor) (seat : Seat) : (f.leave seat).begun = f.begun := by
  cases seat <;> rfl

namespace Left

variable {i : Invocation}

theorem events_eq (left : Left f i f') : f'.engine.events = f.engine.events := by
  cases left with
  | inLine => rfl
  | pool => exact events_withPool ..

theorem tidy (left : Left f i f') (tidy : ∀ family, (f.engine.pool family).Tidy)
    (family : Family) : (f'.engine.pool family).Tidy := by
  cases left with
  | inLine => exact tidy family
  | @pool place p here =>
      dsimp only
      by_cases same : family = place
      · rw [same, Engine.pool_withPool]
        exact here
      · rw [Engine.pool_withPool_of_ne same]
        exact tidy family

theorem tasks_eq (left : Left f i f') : f'.todo.foldl Effect.table f'.engine.tasks =
    f.todo.foldl Effect.table f.engine.tasks := by
  cases left with
  | inLine here =>
      rw [here]
      rfl
  | pool =>
      dsimp only
      rw [tasks_withPool]

theorem pending (left : Left f i f') : f.pending.Perm (i :: f'.pending) := by
  cases left with
  | inLine here =>
      unfold Floor.pending
      rw [here]
      rfl
  | @pool place p _ gone =>
      have less := perm_pooled (e := f.engine) [i] [] gone.symm
      exact (less.symm.append_left _).trans List.perm_middle

end Left

theorem pool_endRecord (e : Engine TaskTable EventLog) (row : EventRow) (outcome : Outcome) :
    (e.endRecord row outcome).pool = e.pool := by
  unfold Engine.endRecord
  split <;> rfl

theorem tasks_endRecord (e : Engine TaskTable EventLog) (row : EventRow) (outcome : Outcome) :
    (e.endRecord row outcome).tasks = e.tasks := by
  unfold Engine.endRecord
  split <;> rfl

theorem Sound.ends (sound : f.Sound tasks account) {before after : List Underway} {u : Underway}
    (here : f.begun = before ++ u :: after) :
    ((f.settle u (before ++ after)).leave u.seat).Sound tasks account := by
  -- The row of `u` goes over from the begun rows to the settled ones, and in the same step its run
  -- from what is pending to the rows brought up to date; so the account stays.
  obtain ⟨settled, log, books⟩ := sound.ledger
  have begun : f.begun.Perm (u :: (before ++ after)) := by
    rw [here]
    exact List.perm_middle
  have seats := (begun.map (·.seat)).nodup_iff.1 sound.seats
  rw [List.map_cons, List.nodup_cons] at seats
  have mine : u ∈ f.begun := begun.mem_iff.2 (List.mem_cons_self ..)
  have rest : ∀ v ∈ before ++ after, v ∈ f.begun :=
    fun v member => begun.mem_iff.2 (List.mem_cons_of_mem _ member)
  have rows : f.engine.events.rows.Perm (u.row :: (settled ++ (before ++ after).map (·.row))) :=
    log.trans (((begun.map (·.row)).append_left settled).trans List.perm_middle)
  obtain ⟨ids, row', record, settles⟩ :=
    perm_endRecord sound.nodup_numbers rows (sound.opened u mine)
  have pools : (f.settle u (before ++ after)).engine.pool = f.engine.pool := pool_endRecord ..
  have tidy : ∀ family, ((f.settle u (before ++ after)).engine.pool family).Tidy := by
    rw [pools]
    exact sound.tidy
  have holds : (f.settle u (before ++ after)).Holds u.seat u.call :=
    (sound.holds u mine).congr rfl pools
  have left := holds.left tidy
  refine ⟨left.tidy tidy, ?_, ?_, ?_, ?_, ?_, settled ++ [row'], ?_, ?_⟩
  · rw [left.tasks_eq]
    dsimp only [settle]
    rw [tasks_endRecord]
    exact sound.tasks
  · have size := congrArg List.length ids
    rw [List.length_map, List.length_map] at size
    rw [left.events_eq]
    dsimp only [settle]
    rw [ids, size]
    exact sound.numbers
  · rw [begun_leave]
    exact seats.2
  · rw [begun_leave]
    intro v member
    have kept : (f.settle u (before ++ after)).Holds v.seat v.call :=
      (sound.holds v (rest v member)).congr rfl pools
    exact kept.leave fun same => seats.1 (same ▸ List.mem_map_of_mem member)
  · rw [begun_leave]
    exact fun v member => sound.opened v (rest v member)
  · rw [left.events_eq, begun_leave, List.append_assoc]
    exact settles.trans List.perm_middle.symm
  · have same : (f.settle u (before ++ after)).pending = f.pending := by
      unfold pending pooled
      rw [pools]
      rfl
    have gone := left.pending
    rw [same] at gone
    rw [List.map_append, List.append_assoc, List.map_singleton, record]
    exact ((gone.map Invocation.record).append_left _).symm.trans books

/-! ## From the beginning to the end -/

theorem Sound.step (sound : f.Sound tasks account) (step : Step f f') : f'.Sound tasks account := by
  cases step with
  | does todo silent => exact sound.does todo silent
  | submits todo => exact sound.submits todo
  | takes taken => exact sound.takes taken
  | reorders same => exact sound.reorders same
  | begins holds fresh _ stored => exact sound.begins holds fresh stored
  | ends here => exact sound.ends here
  | ticks now => exact sound.ticks now

theorem Sound.steps (sound : f.Sound tasks account) (steps : Steps f f') :
    f'.Sound tasks account := by
  induction steps with
  | refl => exact sound
  | tail _ step ih => exact ih.step step

/-- When all is done nobody is at work, and nothing is left to run. -/
theorem Sound.nothing_left (sound : f.Sound tasks account) (done : f.Done) :
    f.begun = [] ∧ f.pending = [] := by
  have empty := fun family => (sound.tidy family).eq_nil_of_isIdle (done.idle family)
  refine ⟨List.eq_nil_iff_forall_not_mem.2 fun u member => ?_, ?_⟩
  · -- Whoever were still at work would have something to run, but there is nothing.
    have holds := sound.holds u member
    obtain ⟨seat, call, row⟩ := u
    cases holds with
    | inLine here =>
        rw [done.todo] at here
        cases here
    | caller there =>
        rw [(empty _).2.2] at there
        cases there
    | worker there =>
        rw [(empty _).2.1] at there
        cases there
  · unfold pending pooled Pool.unfinished
    simp only [done.todo, empty, List.filterMap_nil, List.map_nil, List.append_nil]

/-- When all is done the task rows are the caller's, and the log holds what is on the account. -/
theorem Sound.of_done (sound : f.Sound tasks account) (done : f.Done) :
    f.engine.tasks = tasks ∧ (f.engine.events.rows.map EventRow.erased).Perm account := by
  obtain ⟨begun, nothing⟩ := sound.nothing_left done
  obtain ⟨settled, log, books⟩ := sound.ledger
  rw [begun, List.map_nil, List.append_nil] at log
  rw [nothing, List.map_nil, List.append_nil] at books
  have rows := sound.tasks
  rw [done.todo] at rows
  exact ⟨rows, (log.map EventRow.erased).trans books⟩

/-- An engine whose log is empty and whose pools have not been used. -/
structure Opening (e : Engine TaskTable EventLog) : Prop where
  log : e.events = .empty
  unused : ∀ family, ∃ config, e.pool family = .ofConfig config

theorem Opening.unfinished {e : Engine TaskTable EventLog} (opening : Opening e)
    (family : Family) : (e.pool family).unfinished = [] := by
  obtain ⟨config, unused⟩ := opening.unused family
  rw [unused]
  rfl

theorem Opening.sound {e : Engine TaskTable EventLog} (opening : Opening e) (fx : List Effect) :
    (⟨e, fx, []⟩ : Floor).Sound (fx.foldl Effect.table e.tasks)
      ((fx.filterMap Effect.run?).map Invocation.record) := by
  refine ⟨fun family => ?_, rfl, ?_, List.nodup_nil, fun _ member => ?_, fun _ member => ?_, [], ?_,
    ?_⟩
  · obtain ⟨config, unused⟩ := opening.unused family
    dsimp only
    rw [unused]
    exact Pool.tidy_ofConfig config
  · dsimp only
    rw [opening.log]
    rfl
  · cases member
  · cases member
  · dsimp only
    rw [opening.log]
    exact List.Perm.refl _
  · unfold pending pooled
    dsimp only
    rw [opening.unfinished, opening.unfinished, List.append_nil, List.append_nil]
    exact List.Perm.refl _

/-- Whoever went first, in the end the log holds one row for each run, which differs in nothing but
its number and its times, and the task rows are the caller's. -/
theorem Opening.of_done {e : Engine TaskTable EventLog} (opening : Opening e) {fx : List Effect}
    (steps : Steps ⟨e, fx, []⟩ f) (done : f.Done) :
    f.engine.tasks = fx.foldl Effect.table e.tasks ∧
      (f.engine.events.rows.map EventRow.erased).Perm
        ((fx.filterMap Effect.run?).map Invocation.record) :=
  ((opening.sound fx).steps steps).of_done done

/-! ## Workers that rest until the caller waits for them -/

/-- Nobody has a job. -/
def Quiet (e : Engine TaskTable EventLog) : Prop :=
  ∀ family, (e.pool family).running = [] ∧ (e.pool family).onCaller = []

theorem Opening.quiet {e : Engine TaskTable EventLog} (opening : Opening e) : Quiet e := by
  intro family
  obtain ⟨config, unused⟩ := opening.unused family
  rw [unused]
  exact ⟨rfl, rfl⟩

/-- A run that nothing comes between. -/
theorem steps_run {e : Engine TaskTable EventLog} {todo : List Effect} {seat : Seat}
    {i : Invocation} (holds : Holds ⟨e, todo, []⟩ seat i)
    (free : seat = .inLine → IsFree ⟨e, todo, []⟩) :
    Steps ⟨e, todo, []⟩ ((⟨(e.run i).2, todo, []⟩ : Floor).leave seat) := by
  have begun := Step.begins holds List.not_mem_nil free (beginRecord_eq e i)
  exact (Relation.ReflTransGen.single begun).tail
    (@Step.ends _ [] [] ⟨seat, i, e.events.fresh (i.opening e.now)⟩ rfl)

theorem Quiet.isFree {e : Engine TaskTable EventLog} (quiet : Quiet e) (todo : List Effect)
    (begun : List Underway) : IsFree ⟨e, todo, begun⟩ :=
  fun family => (quiet family).2

theorem quiet_withPool {e : Engine TaskTable EventLog} {family : Family} {p : Pool Invocation}
    (here : p.running = [] ∧ p.onCaller = [])
    (others : ∀ other, other ≠ family →
      (e.pool other).running = [] ∧ (e.pool other).onCaller = []) :
    Quiet (e.withPool family p) := by
  intro other
  by_cases same : other = family
  · rw [same, Engine.pool_withPool]
    exact here
  · rw [Engine.pool_withPool_of_ne same]
    exact others other same

theorem Quiet.run {e : Engine TaskTable EventLog} (quiet : Quiet e) (i : Invocation) :
    Quiet (e.run i).2 := by
  unfold Quiet
  rw [Engine.pool_run]
  exact quiet

/-- The caller leaves a listener to a pool, or runs it at once. -/
theorem Quiet.submit {e : Engine TaskTable EventLog} (quiet : Quiet e) (i : Invocation)
    (rest : List Effect) :
    Steps ⟨e, .submitted i :: rest, []⟩ ⟨e.submit i, rest, []⟩ ∧ Quiet (e.submit i) := by
  obtain ⟨running, onCaller⟩ := quiet i.family
  have submits : Step ⟨e, .submitted i :: rest, []⟩
      ⟨e.withPool i.family ((e.pool i.family).submit i), rest, []⟩ :=
    .submits rfl (quiet.isFree _ _)
  cases full : (e.pool i.family).isFull with
  | false =>
      rw [Engine.submit_of_room full]
      refine ⟨Relation.ReflTransGen.single submits,
        quiet_withPool ⟨?_, ?_⟩ fun other _ => quiet other⟩
      · rw [Pool.running_submit, running]
      · rw [Pool.submit_of_room full, onCaller]
  | true =>
      have held : ((e.pool i.family).submit i).onCaller = [(e.pool i.family).jobOf i] := by
        rw [Pool.submit_of_full full, onCaller]
        rfl
      have mine : (e.pool i.family).jobOf i ∈ ((e.pool i.family).submit i).onCaller := by
        rw [held]
        exact List.mem_singleton.2 rfl
      have holds : Holds ⟨e.withPool i.family ((e.pool i.family).submit i), rest, []⟩
          (.caller i.family (e.pool i.family).submitted) i := by
        refine @Holds.caller _ i.family ((e.pool i.family).jobOf i) ?_
        dsimp only
        rw [Engine.pool_withPool]
        exact mine
      have ends := steps_run holds (by rintro ⟨⟩)
      dsimp only [Floor.leave] at ends
      rw [Engine.pool_run, Engine.pool_withPool] at ends
      rw [Engine.submit_of_full full]
      refine ⟨(Relation.ReflTransGen.single submits).trans ends,
        quiet_withPool ?_ fun other apart => ?_⟩
      · have finished := Pool.finishOnCaller_eq mine
        dsimp only [Pool.jobOf] at finished
        rw [finished, held, Pool.running_submit, running]
        exact ⟨rfl, by simp [Pool.jobOf]⟩
      · rw [Engine.pool_run, Engine.pool_withPool_of_ne apart]
        exact quiet other

/-- What the caller does next, done at one go. -/
theorem Quiet.perform {e : Engine TaskTable EventLog} (quiet : Quiet e) (x : Effect)
    (rest : List Effect) :
    Steps ⟨e, x :: rest, []⟩ ⟨e.perform x, rest, []⟩ ∧ Quiet (e.perform x) := by
  cases x with
  | noted => exact ⟨Relation.ReflTransGen.single (.does rfl rfl (quiet.isFree _ _)), quiet⟩
  | stored => exact ⟨Relation.ReflTransGen.single (.does rfl rfl (quiet.isFree _ _)), quiet⟩
  | ran i => exact ⟨steps_run (.inLine rfl) (fun _ => quiet.isFree _ _), quiet.run i⟩
  | submitted i => exact quiet.submit i rest

/-- All that the caller does, done at one go. -/
theorem Quiet.performAll {e : Engine TaskTable EventLog} (quiet : Quiet e) (fx : List Effect) :
    Steps ⟨e, fx, []⟩ ⟨e.performAll fx, [], []⟩ ∧ Quiet (e.performAll fx) := by
  induction fx generalizing e with
  | nil => exact ⟨Relation.ReflTransGen.refl, quiet⟩
  | cons f rest ih =>
      obtain ⟨first, here⟩ := quiet.perform f rest
      obtain ⟨steps, still⟩ := ih here
      exact ⟨first.trans steps, still⟩

/-- A worker takes a job and runs it. -/
theorem Quiet.work {e : Engine TaskTable EventLog} (quiet : Quiet e) {family : Family}
    {job : Job Invocation} {rest : List (Job Invocation)}
    (queued : (e.pool family).queued = job :: rest) :
    ∃ p e', (e.pool family).take 0 = some (job, p) ∧
      e' = ((e.withPool family p).run job.work).2.withPool family
        ((((e.withPool family p).run job.work).2.pool family).finish 0) ∧
      Steps ⟨e, [], []⟩ ⟨e', [], []⟩ ∧ Quiet e' ∧ (e'.pool family).queued = rest ∧
      ∀ other, other ≠ family → e'.pool other = e.pool other := by
  obtain ⟨running, onCaller⟩ := quiet family
  obtain ⟨p, same⟩ : ∃ p, p = { e.pool family with queued := rest, running := [(0, job)] } :=
    ⟨_, rfl⟩
  have taken : (e.pool family).take 0 = some (job, p) := by
    refine Pool.take_eq_some_iff.2 ⟨rest, queued, Nat.lt_of_lt_of_le Nat.one_pos
      (Nat.le_max_right ..), ?_, ?_⟩
    · unfold Pool.isBusy
      rw [running]
      rfl
    · rw [same, running]
      rfl
  have holds : Holds ⟨e.withPool family p, [], []⟩ (.worker family 0) job.work := by
    apply Holds.worker
    dsimp only
    rw [Engine.pool_withPool, same]
    exact List.mem_singleton.2 rfl
  have finished : p.finish 0 = { p with
      running := []
      finished := p.finished ++ [job.ticket]
      inFlight := p.inFlight - 1 } := by
    rw [same]
    rfl
  refine ⟨p, _, taken, rfl, (Relation.ReflTransGen.single (.takes taken)).trans
    (steps_run holds (by rintro ⟨⟩)), ?_⟩
  rw [Engine.pool_run, Engine.pool_withPool, finished, same]
  refine ⟨quiet_withPool ⟨rfl, onCaller⟩ fun other apart => ?_, ?_, fun other apart => ?_⟩
  · rw [Engine.pool_run, Engine.pool_withPool_of_ne apart]
    exact quiet other
  · rw [Engine.pool_withPool]
  · rw [Engine.pool_withPool_of_ne apart, Engine.pool_run, Engine.pool_withPool_of_ne apart]

/-- A worker takes job after job off a queue until it is empty. -/
theorem Quiet.runQueued {e : Engine TaskTable EventLog} (quiet : Quiet e) (family : Family)
    {fuel : Nat} (enough : (e.pool family).queued.length ≤ fuel) :
    ∃ e', Engine.runQueued family fuel e = e' ∧ Steps ⟨e, [], []⟩ ⟨e', [], []⟩ ∧ Quiet e' ∧
      (e'.pool family).queued = [] ∧ ∀ other, other ≠ family → e'.pool other = e.pool other := by
  induction fuel generalizing e with
  | zero =>
      exact ⟨e, rfl, Relation.ReflTransGen.refl, quiet,
        List.eq_nil_of_length_eq_zero (Nat.le_zero.1 enough), fun _ _ => rfl⟩
  | succ fuel ih =>
      unfold Engine.runQueued
      cases queued : (e.pool family).queued with
      | nil =>
          have nothing : (e.pool family).take 0 = none := by
            unfold Pool.take
            rw [queued]
          rw [nothing]
          exact ⟨e, rfl, Relation.ReflTransGen.refl, quiet, queued, fun _ _ => rfl⟩
      | cons job rest =>
          obtain ⟨p, e', taken, worked, steps, still, less, others⟩ := quiet.work queued
          rw [taken]
          dsimp only
          rw [← worked]
          have left : (e'.pool family).queued.length ≤ fuel := by
            rw [queued, List.length_cons] at enough
            rw [less]
            omega
          obtain ⟨last, ran, more, resting, empty, same⟩ := ih still left
          exact ⟨last, ran, steps.trans more, resting, empty,
            fun other apart => (same other apart).trans (others other apart)⟩

/-- A caller that does all it has to do, and then waits for one worker that empties the queues one
after the other. -/
theorem Opening.steps_sequential {e : Engine TaskTable EventLog} (opening : Opening e)
    (fx : List Effect) :
    Steps ⟨e, fx, []⟩ ⟨(e.performAll fx).drain, [], []⟩ ∧
      Done ⟨(e.performAll fx).drain, [], []⟩ := by
  obtain ⟨calls, quiet⟩ := opening.quiet.performAll fx
  obtain ⟨e₁, first, steps₁, quiet₁, empty₁, others₁⟩ := quiet.runQueued .process (Nat.le_refl _)
  obtain ⟨e₂, second, steps₂, quiet₂, empty₂, others₂⟩ := quiet₁.runQueued .task (Nat.le_refl _)
  have drained : (e.performAll fx).drain = e₂ := by
    unfold Engine.drain Engine.drainPool
    rw [first, second]
  have steps := (calls.trans steps₁).trans steps₂
  rw [drained]
  refine ⟨steps, rfl, fun family => ?_⟩
  have tidy := ((opening.sound fx).steps steps).tidy family
  have queued : (e₂.pool family).queued = [] := by
    cases family with
    | process =>
        rw [others₂ .process (by rintro ⟨⟩)]
        exact empty₁
    | task => exact empty₂
  have count := tidy.inFlight
  dsimp only at count ⊢
  rw [queued, (quiet₂ family).1, (quiet₂ family).2] at count
  unfold Pool.isIdle
  rw [count]
  rfl

end Floor

end ApprovalFlow
