import ApprovalFlow.Proofs.Audit.Ledger
import ApprovalFlow.Store.Refusing

/-!
# A log that tells everything and changes nothing

What the calls of a notifier answer, which listeners they run and in which order does not depend on
the store of event rows, and a store that works is left with one row for each run.

* `Engine.Alike`: engines that differ at most in their stores do the same.
* `Desk.exists_records`: with a log that works, whoever goes first, the log records the runs that
  the calls ask for.
* `Notice.log_faithful_and_transparent`: both together, for all calls and all stores.
-/

namespace ApprovalFlow

/-! ## Engines with any stores -/

namespace Engine

variable {σ σ' : Type} {e : Engine TaskTable σ} {e' : Engine TaskTable σ'}

/-- Two engines that differ at most in their stores. -/
def Alike (e : Engine TaskTable σ) (e' : Engine TaskTable σ') : Prop :=
  e' = e.withEvents e'.events

theorem alike_withEvents (e : Engine TaskTable σ) (events : σ') : e.Alike (e.withEvents events) :=
  rfl

theorem Alike.pool (alike : e.Alike e') : e'.pool = e.pool := by
  rw [alike, pool_withEvents]

theorem Alike.withPool (alike : e.Alike e') (family : Family) (p : Pool Invocation) :
    (e.withPool family p).Alike (e'.withPool family p) := by
  unfold Alike
  rw [events_withPool, ← withPool_withEvents, ← alike]

variable [EventStore σ] [EventStore σ']

theorem Alike.run (alike : e.Alike e') (i : Invocation) : (e.run i).2.Alike (e'.run i).2 := by
  unfold Alike
  rw [run_eq, run_eq, closeRecord_eq_withEvents ((e.beginRecord i).2.note _),
    closeRecord_eq_withEvents ((e'.beginRecord i).2.note _), beginRecord_eq_withEvents e,
    beginRecord_eq_withEvents e', alike]
  rfl

theorem Alike.submit (alike : e.Alike e') (i : Invocation) :
    (e.submit i).Alike (e'.submit i) := by
  unfold Engine.submit
  dsimp only
  rw [alike.pool]
  have left := alike.withPool i.family ((e.pool i.family).submit i)
  split
  · have ran := left.run i
    rw [ran.pool]
    exact ran.withPool i.family _
  · exact left

theorem Alike.perform (alike : e.Alike e') (x : Effect) : (e.perform x).Alike (e'.perform x) := by
  cases x with
  | noted os => unfold Alike Engine.perform; dsimp only; rw [alike]; rfl
  | stored tasks => unfold Alike Engine.perform; dsimp only; rw [alike]; rfl
  | ran i => exact alike.run i
  | submitted i => exact alike.submit i

theorem Alike.performAll (alike : e.Alike e') (fx : List Effect) :
    (e.performAll fx).Alike (e'.performAll fx) := by
  induction fx generalizing e e' with
  | nil => exact alike
  | cons x rest ih => exact ih (alike.perform x)

theorem Alike.runQueued (alike : e.Alike e') (family : Family) (fuel : Nat) :
    (Engine.runQueued family fuel e).Alike (Engine.runQueued family fuel e') := by
  induction fuel generalizing e e' with
  | zero => exact alike
  | succ fuel ih =>
      unfold Engine.runQueued
      rw [alike.pool]
      cases (e.pool family).take 0 with
      | none => exact alike
      | some taken =>
          have ran := (alike.withPool family taken.2).run taken.1.work
          dsimp only
          rw [ran.pool]
          exact ih (ran.withPool family _)

theorem Alike.drain (alike : e.Alike e') : e.drain.Alike e'.drain := by
  unfold Engine.drain drainPool
  rw [alike.pool]
  have first := alike.runQueued .process (e.pool .process).queued.length
  rw [first.pool]
  exact first.runQueued .task _

end Engine

/-! ## What the calls ask for -/

theorem Effect.KeepsMode.eq_effect {x : Effect} {i : Invocation} (keeps : x.KeepsMode)
    (run : x.run? = some i) : x = i.effect := by
  unfold Invocation.effect
  cases x with
  | noted => cases run
  | stored => cases run
  | ran j =>
      cases run
      rw [show i.isAsync = false from keeps]
      rfl
  | submitted j =>
      cases run
      rw [show i.isAsync = true from keeps]
      rfl

namespace Notice

/-- The runs that calls ask for, in the order in which they are made or left to a pool. -/
def calls (settings : Settings) (catalogue : Catalogue) (ns : List Notice) : List Invocation :=
  (effects settings catalogue ns).filterMap Effect.run?

variable {settings : Settings} {catalogue : Catalogue} {ns : List Notice}

theorem exists_makes {x : Effect} (member : x ∈ effects settings catalogue ns) :
    ∃ n ∈ ns, n.Makes x := by
  obtain ⟨n, asked, does⟩ := List.mem_flatMap.1 member
  exact ⟨n, asked, makes_of_mem does⟩

theorem keepsMode_of_mem {x : Effect} (member : x ∈ effects settings catalogue ns) :
    x.KeepsMode := by
  obtain ⟨n, -, makes⟩ := exists_makes member
  exact makes.keepsMode

/-- Each run is asked for by one of the calls, in its mode. -/
theorem exists_makes_effect {i : Invocation} (member : i ∈ calls settings catalogue ns) :
    ∃ n ∈ ns, n.Makes i.effect := by
  obtain ⟨x, there, run⟩ := List.mem_filterMap.1 member
  rw [← (keepsMode_of_mem there).eq_effect run]
  exact exists_makes there

end Notice

/-! ## A caller with calls to make -/

namespace Desk

/-- A caller that has some calls to make. -/
def ofNotices {σ : Type} (e : Engine TaskTable σ) (ns : List Notice) : Desk σ :=
  ⟨e, Notice.effects e.settings e.catalogue ns, []⟩

/-- Whoever goes first, once all is done the log records the runs that the calls ask for, those in
line in the order in which they are made. -/
theorem exists_records {e : Engine TaskTable EventLog} (opening : Floor.Opening e)
    (silent : runs e.trace = []) {ns : List Notice} {d : Desk EventLog}
    (steps : Steps (ofNotices e ns) d) (done : d.Done) :
    ∃ is, d.engine.Records is ∧ is.Perm (Notice.calls e.settings e.catalogue ns) ∧
      is.filter (!·.isAsync) = (Notice.calls e.settings e.catalogue ns).filter (!·.isAsync) ∧
      ∀ i ∈ is, ∃ n ∈ ns, n.Makes i.effect := by
  obtain ⟨⟨f, shows_, sound⟩, entries, ledger⟩ :=
    steps.ledger opening silent fun _ => Notice.keepsMode_of_mem
  obtain ⟨begun, nothing⟩ := shows_.nothing_left sound done
  obtain ⟨is, records, same, inLine⟩ := ledger.of_done begun nothing done.todo
  exact ⟨is, records, same, inLine,
    fun i member => Notice.exists_makes_effect (same.mem_iff.1 member)⟩

/-- A caller that makes all its calls, and then waits for one worker that empties the queues one
after the other, is one case. -/
theorem steps_sendAll {e : Engine TaskTable EventLog} (opening : Floor.Opening e)
    (ns : List Notice) :
    Steps (ofNotices e ns) ⟨(Notice.sendAll e ns).2.drain, [], []⟩ ∧
      Done ⟨(Notice.sendAll e ns).2.drain, [], []⟩ := by
  rw [Notice.sendAll_eq]
  exact steps_sequential opening (Notice.effects e.settings e.catalogue ns)

end Desk

namespace Notice

variable {σ σ' : Type} [EventStore σ] [EventStore σ']

/-- What a call answers depends on the listeners that are registered and on nothing else. -/
theorem send_answer {e : Engine TaskTable σ} {e' : Engine TaskTable σ'}
    (settings : e'.settings = e.settings) (catalogue : e'.catalogue = e.catalogue) (n : Notice) :
    (n.send e').1 = (n.send e).1 := by
  rw [send_eq, send_eq, settings, catalogue]
  rfl

/-- What calls answer does not depend on the store, and neither does what they leave behind. -/
theorem sendAll_alike {e : Engine TaskTable σ} {e' : Engine TaskTable σ'} (alike : e.Alike e')
    (ns : List Notice) :
    (sendAll e' ns).1 = (sendAll e ns).1 ∧ (sendAll e ns).2.Alike (sendAll e' ns).2 := by
  have settings : e'.settings = e.settings := by rw [alike]; rfl
  have catalogue : e'.catalogue = e.catalogue := by rw [alike]; rfl
  rw [sendAll_eq, sendAll_eq, settings, catalogue]
  exact ⟨rfl, alike.performAll _⟩

/-- Two engines, one with a log that works, at which calls come to the same: each call answers the
same whenever it is made, and the same listeners run in the same order, when the workers rest until
the caller has made its calls as well as whoever goes first. -/
structure Unaffected (e : Engine TaskTable EventLog) (e' : Engine TaskTable σ) (ns : List Notice) :
    Prop where
  answer : ∀ n ∈ ns, ∀ x : Engine TaskTable σ, x.settings = e.settings →
    x.catalogue = e.catalogue → (n.send x).1 = (n.send e).1
  answers : (sendAll e' ns).1 = (sendAll e ns).1
  trace : (sendAll e' ns).2.drain.trace = (sendAll e ns).2.drain.trace
  does : ∀ d', Desk.Steps (Desk.ofNotices e' ns) d' →
    ∃ d, Desk.Steps (Desk.ofNotices e ns) d ∧ d.Alike d'
  may : ∀ d, Desk.Steps (Desk.ofNotices e ns) d →
    ∃ d', Desk.Steps (Desk.ofNotices e' ns) d' ∧ d.Alike d'

theorem unaffected (e : Engine TaskTable EventLog) (store : σ) (ns : List Notice) :
    Unaffected e (e.withEvents store) ns := by
  obtain ⟨answers, after⟩ := sendAll_alike (Engine.alike_withEvents e store) ns
  have start : (Desk.ofNotices e ns).Alike (Desk.ofNotices (e.withEvents store) ns) :=
    ⟨rfl, rfl, rfl⟩
  refine ⟨fun n _ x settings catalogue => send_answer settings catalogue n, answers, ?_, ?_,
    fun d steps => steps.alike start⟩
  · rw [after.drain]
    rfl
  · intro d' steps
    obtain ⟨d, same, alike⟩ := steps.alike start.symm
    exact ⟨d, same, alike.symm⟩

end Notice

/-- The log is faithful: with a log that works, whoever goes first, once the caller has made its
calls and both pools are idle there is one row for each run of a listener that the calls ask for,
which says what was run, for whom, in which mode and what has come of it, and the rows of the runs
in line stand in the order in which these were made. And it is transparent: with any other store the
calls answer the same, and the same listeners run in the same order. -/
theorem Notice.log_faithful_and_transparent {e : Engine TaskTable EventLog}
    (opening : Floor.Opening e) (silent : runs e.trace = []) (ns : List Notice) :
    (∀ d, Desk.Steps (Desk.ofNotices e ns) d → d.Done →
      ∃ is, d.engine.Records is ∧ is.Perm (calls e.settings e.catalogue ns) ∧
        is.filter (!·.isAsync) = (calls e.settings e.catalogue ns).filter (!·.isAsync) ∧
        ∀ i ∈ is, ∃ n ∈ ns, n.Makes i.effect) ∧
    (Desk.Steps (Desk.ofNotices e ns) ⟨(sendAll e ns).2.drain, [], []⟩ ∧
      Desk.Done ⟨(sendAll e ns).2.drain, [], []⟩) ∧
    ∀ (σ : Type) [EventStore σ] (store : σ), Unaffected e (e.withEvents store) ns :=
  ⟨fun _ steps done => Desk.exists_records opening silent steps done,
    Desk.steps_sendAll opening ns, fun _ _ store => unaffected e store ns⟩

/-! ## Four listeners -/

namespace Quartet

/-- A listener that answers the same to whatever it sees. -/
def listener (name : String) (event : ProcessEvent) (isAsync : Bool) (outcome : Outcome) :
    Listener ProcessEvent :=
  ⟨name, event, isAsync, fun _ => outcome⟩

/-- One listener succeeds, one fails with an error and one breaks off when a process is created,
and one refuses when it is complete. -/
def settings : Settings where
  processManager :=
    (((Registry.empty.add (listener "count" .create false .success)).add
      (listener "mail" .create true (.failure (.external "no connection")))).add
      (listener "page" .create true .panic)).add
      (listener "check" .complete false (.refusal "not today"))
  taskManager := .empty
  systemOperator := "system"

/-- The engine, with a log that works and one worker for each family. -/
def engine : Engine TaskTable EventLog :=
  .new settings 1 none .empty .empty .empty default

/-- The context of a process of the applicant. -/
def context : Context :=
  .base (.named "travel" "Travel") (.opened 7 "travel" "alice" default) none

/-- The process is created, the mail is sent once more while the caller waits for it, and the
process is complete. -/
def notices : List Notice :=
  [.processEvent .create context, .byName .process "mail" true context,
    .processEvent .complete context]

/-- Who was run in which mode, by the rows of a log. -/
def heard (log : List EventRow) : List (String × Bool) :=
  log.map fun row => (row.listener, row.isAsync)

/-- What has come of it. -/
def said (log : List EventRow) : List (EventStatus × Bool × Option String × Option String) :=
  log.map fun row => (row.status, row.endTime.isSome, row.remark, row.failure)

theorem opening : Floor.Opening engine :=
  ⟨rfl, fun family => by cases family <;> exact ⟨_, rfl⟩⟩

/-- The log has a row for each of the five runs, and one that keeps nothing makes no difference. -/
theorem log_tells_of_runs :
    (∃ is, (Notice.sendAll engine notices).2.drain.Records is ∧ is.length = 5) ∧
    heard (Notice.sendAll engine notices).2.drain.events.rows =
      [("count", false), ("mail", false), ("check", false), ("mail", true), ("page", true)] ∧
    said (Notice.sendAll engine notices).2.drain.events.rows =
      [(.success, true, none, none),
        (.failed, true, none, some (WorkflowError.external "no connection").message),
        (.failed, true, some "not today", none),
        (.failed, true, none, some (WorkflowError.external "no connection").message),
        (.executing, false, none, none)] ∧
    Notice.Unaffected engine (engine.withEvents (Refusing.ofStore EventLog.empty .all .all .all))
      notices := by
  obtain ⟨faithful, ⟨steps, done⟩, transparent⟩ :=
    Notice.log_faithful_and_transparent opening rfl notices
  obtain ⟨is, records, same, -⟩ := faithful _ steps done
  refine ⟨⟨is, records, ?_⟩, by decide +kernel, by decide +kernel, transparent _ _⟩
  have five : (Notice.calls engine.settings engine.catalogue notices).length = 5 := by
    decide +kernel
  exact same.length_eq.trans five

end Quartet

end ApprovalFlow
