import ApprovalFlow.Proofs.Listeners
import ApprovalFlow.Proofs.Notify
import ApprovalFlow.Proofs.Pool.Places
import ApprovalFlow.Store.EventLog

/-!
# One notification, listener by listener

* `Engine.notify_pass`: a notification runs the listeners in line, in their order, up to and with
  the first that does not succeed. If there is one, or if the providers fail, nothing is submitted
  and the caller gets the error; otherwise everything left to the pool is handed to it, once and in
  order.

`Ran` says which listeners have run between two states of the engine, `Handed` what has become of
what was submitted between them.
-/

namespace ApprovalFlow

/-- The runs among some observations. -/
def runs (trace : List Observation) : List Observation :=
  trace.filter fun
    | .ran .. => true
    | _ => false

theorem runs_append (first last : List Observation) :
    runs (first ++ last) = runs first ++ runs last :=
  List.filter_append ..

theorem runs_consulted (consultations : List Consultation) :
    runs (consultations.map .consulted) = [] := by
  induction consultations with
  | nil => rfl
  | cons first rest ih => exact ih

/-- A member of two lists in a row stands in the first or in the second. -/
theorem mem_split_cases {α : Type} {xs ys before after : List α} {x : α}
    (split : xs ++ ys = before ++ x :: after) :
    (∃ rest, xs = before ++ x :: rest) ∨
      ∃ early, before = xs ++ early ∧ ys = early ++ x :: after := by
  rcases List.append_eq_append_iff.1 split with ⟨early, rfl, rest⟩ | ⟨late, rfl, rest⟩
  · exact Or.inr ⟨early, rfl, rest⟩
  · cases late with
    | nil => exact Or.inr ⟨[], by simp, by simpa using rest.symm⟩
    | cons first late =>
        cases rest
        exact Or.inl ⟨late, rfl⟩

/-- A listener ends a notification that it is run in with an error. -/
inductive Listener.Stops {ε : Type} (l : Listener ε) (s : Snapshot) : WorkflowError → Prop
  /-- Its own error is passed on. -/
  | failure {err : WorkflowError} : l.respond s = .failure err → Stops l s err
  /-- Its refusal is passed on under its name. -/
  | refusal {message : String} :
    l.respond s = .refusal message → Stops l s (.listenerFailed l.name message)

theorem Listener.Stops.toResult {ε : Type} {l : Listener ε} {s : Snapshot} {err : WorkflowError}
    (stops : l.Stops s err) : (l.respond s).toResult l.name = .error err := by
  cases stops with
  | failure failed => rw [failed]; rfl
  | refusal refused => rw [refused]; rfl

namespace Pool

variable {α : Type}

/-- How many of some further jobs the queue has room for. -/
def room (p : Pool α) (jobs : Nat) : Nat :=
  match p.config.queueLimit with
  | some limit => min jobs (limit - p.queued.length)
  | none => jobs

theorem room_of_full {p : Pool α} (full : p.isFull = true) (jobs : Nat) : p.room jobs = 0 := by
  unfold isFull at full
  unfold room
  cases limit : p.config.queueLimit with
  | none => simp [limit] at full
  | some n =>
      have taken : n ≤ p.queued.length := by simpa [limit] using full
      dsimp only
      omega

/-- A job that is queued takes up room for one. -/
theorem room_submit {p : Pool α} (free : p.isFull = false) (work : α) (jobs : Nat) :
    p.room (jobs + 1) = (p.submit work).room jobs + 1 := by
  rw [submit_of_room free]
  unfold isFull at free
  unfold room
  cases limit : p.config.queueLimit with
  | none => rfl
  | some n =>
      have more : p.queued.length < n := by simpa [limit] using free
      simp only [List.length_append, List.length_singleton]
      omega

/-- A job that its submitter has run has come and gone. -/
theorem submit_finishOnCaller {p : Pool α} (full : p.isFull = true) (work : α) :
    ((p.submit work).finishOnCaller p.submitted).config = p.config ∧
      ((p.submit work).finishOnCaller p.submitted).queued = p.queued ∧
      ((p.submit work).finishOnCaller p.submitted).submitted = p.submitted + 1 ∧
      ((p.submit work).finishOnCaller p.submitted).finished = p.finished ++ [p.submitted] := by
  have held : p.jobOf work ∈ (p.submit work).onCaller := by
    rw [submit_of_full full]
    exact List.mem_append_right _ (List.mem_singleton.2 rfl)
  have done := finishOnCaller_eq held
  rw [show (p.jobOf work).ticket = p.submitted from rfl] at done
  rw [done, submit_of_full full]
  exact ⟨rfl, rfl, rfl, rfl⟩

end Pool

/-- Some work as the jobs that it becomes, with their numbers. -/
def numbered {α : Type} (first : Nat) (works : List α) : List (Job α) :=
  (works.zipIdx first).map fun (work, ticket) => ⟨ticket, work⟩

theorem numbered_cons {α : Type} (first : Nat) (work : α) (works : List α) :
    numbered first (work :: works) = ⟨first, work⟩ :: numbered (first + 1) works := by
  rw [numbered, List.zipIdx_cons, List.map_cons]
  rfl

namespace Engine

variable {τ σ : Type}

/-- Exactly these runs have been made between two states of the engine, in this order. -/
def Ran (is : List Invocation) (e e' : Engine τ σ) : Prop :=
  ∃ more, e'.trace = e.trace ++ more ∧ runs more = is.map (·.observation)

/-- What has become of work that was submitted to the pool of a family, while workers rested: what
its queue had room for waits, in order, and the submitter has finished the rest. -/
structure Handed (family : Family) (is : List Invocation) (e e' : Engine τ σ) : Prop where
  submitted : (e'.pool family).submitted = (e.pool family).submitted + is.length
  queued : (e'.pool family).queued = (e.pool family).queued ++
    (numbered (e.pool family).submitted is).take ((e.pool family).room is.length)
  finished : (e'.pool family).finished = (e.pool family).finished ++
    ((numbered (e.pool family).submitted is).drop ((e.pool family).room is.length)).map (·.ticket)
  ran : Ran (is.drop ((e.pool family).room is.length)) e e'
  others : ∀ other, other ≠ family → e'.pool other = e.pool other

variable {e e' e'' : Engine τ σ} {is js : List Invocation}

theorem Ran.refl (e : Engine τ σ) : Ran [] e e :=
  ⟨[], (List.append_nil _).symm, rfl⟩

theorem Ran.trans (left : Ran is e e') (right : Ran js e' e'') : Ran (is ++ js) e e'' := by
  obtain ⟨more, traceLeft, early⟩ := left
  obtain ⟨rest, traceRight, late⟩ := right
  refine ⟨more ++ rest, ?_, ?_⟩
  · rw [traceRight, traceLeft, List.append_assoc]
  · rw [runs_append, early, late, List.map_append]

theorem ran_dispatched (e : Engine τ σ) (family : Family) (event : String) (s : Snapshot) :
    Ran [] e (e.note (.dispatched family event s)) :=
  ⟨[.dispatched family event s], rfl, rfl⟩

theorem ran_noteConsulted (e : Engine τ σ) (consultations : List Consultation) :
    Ran [] e (e.noteConsulted consultations) :=
  ⟨consultations.map .consulted, rfl, runs_consulted consultations⟩

theorem ran_withPool (e : Engine τ σ) (family : Family) (p : Pool Invocation) :
    Ran [] e (e.withPool family p) := by
  cases family <;> exact ⟨[], (List.append_nil _).symm, rfl⟩

theorem pool_withPool_of_ne {family other : Family} (apart : other ≠ family)
    (p : Pool Invocation) : (e.withPool family p).pool other = e.pool other := by
  cases family <;> cases other <;> first | rfl | exact (apart rfl).elim

theorem handed_nil (family : Family) (e : Engine τ σ) : Handed family [] e e where
  submitted := rfl
  queued := by simp [numbered]
  finished := by simp [numbered]
  ran := by simpa using Ran.refl e
  others _ _ := rfl

variable [EventStore σ]

theorem trace_run (e : Engine τ σ) (i : Invocation) :
    (e.run i).2.trace = e.trace ++ [i.observation] := by
  unfold run endRecord
  dsimp only
  repeat' split
  all_goals rfl

theorem pool_run (e : Engine τ σ) (i : Invocation) : (e.run i).2.pool = e.pool := by
  unfold run endRecord
  dsimp only
  repeat' split
  all_goals rfl

theorem ran_run (e : Engine τ σ) (i : Invocation) : Ran [i] e (e.run i).2 :=
  ⟨[i.observation], trace_run e i, rfl⟩

/-! ## Listeners in line -/

theorem pool_runAll (e : Engine τ σ) (is : List Invocation) : (e.runAll is).2.pool = e.pool := by
  induction is generalizing e with
  | nil => rfl
  | cons i rest ih =>
      have kept : (e.runInLine i).2.pool = e.pool := pool_run e i
      unfold runAll
      rcases first : e.runInLine i with ⟨_ | _, e'⟩
      · rw [first] at kept
        exact kept
      · rw [first] at kept
        exact (ih e').trans kept

theorem runAll_cons (e : Engine τ σ) {i : Invocation} (succeeds : i.outcome = .success)
    (rest : List Invocation) : e.runAll (i :: rest) = (e.run i).2.runAll rest := by
  rw [runAll]
  simp only [runInLine, run_outcome, succeeds, Outcome.toResult]

theorem runAll_of_success (e : Engine τ σ) (calm : ∀ i ∈ is, i.outcome = .success) :
    (e.runAll is).1 = .ok () ∧ Ran is e (e.runAll is).2 := by
  induction is generalizing e with
  | nil => exact ⟨rfl, Ran.refl e⟩
  | cons i rest ih =>
      obtain ⟨succeeds, calm⟩ := List.forall_mem_cons.1 calm
      rw [runAll_cons e succeeds]
      obtain ⟨answer, ran⟩ := ih (e.run i).2 calm
      exact ⟨answer, (ran_run e i).trans ran⟩

/-- A run of listeners in line ends with the first that does not succeed, whatever follows. -/
theorem runAll_of_stop (e : Engine τ σ) {before : List Invocation}
    (calm : ∀ i ∈ before, i.outcome = .success) {i : Invocation} {err : WorkflowError}
    (stops : i.outcome.toResult i.listener = .error err) (after : List Invocation) :
    (e.runAll (before ++ i :: after)).1 = .error err ∧
      Ran (before ++ [i]) e (e.runAll (before ++ i :: after)).2 := by
  induction before generalizing e with
  | nil =>
      rw [List.nil_append, List.nil_append, runAll]
      simp only [runInLine, run_outcome, stops]
      exact ⟨trivial, ran_run e i⟩
  | cons j rest ih =>
      obtain ⟨succeeds, calm⟩ := List.forall_mem_cons.1 calm
      rw [List.cons_append, List.cons_append, runAll_cons e succeeds]
      obtain ⟨answer, ran⟩ := ih (e.run j).2 calm
      exact ⟨answer, (ran_run e j).trans ran⟩

section

variable {ε : Type} [EventScope ε]

/-- Listeners in line that all succeed have all run. -/
theorem runAll_listeners_of_success (e : Engine τ σ) (element : Element) {s : Snapshot}
    {ls : List (Listener ε)} (calm : ∀ l ∈ ls, l.respond s = .success) :
    ∃ e', e.runAll (ls.map (·.invocation element s false)) = (.ok (), e') ∧
      Ran (ls.map (·.invocation element s false)) e e' ∧ e'.pool = e.pool := by
  have calls : ∀ i ∈ ls.map (·.invocation element s false), i.outcome = .success := by
    rw [List.forall_mem_map]
    exact calm
  obtain ⟨answer, ran⟩ := runAll_of_success e calls
  exact ⟨_, Prod.ext answer rfl, ran, pool_runAll e _⟩

/-- One that does not succeed is the last that runs. -/
theorem runAll_listeners_of_stop (e : Engine τ σ) (element : Element) {s : Snapshot}
    {before : List (Listener ε)} (after : List (Listener ε)) {l : Listener ε}
    (calm : ∀ m ∈ before, m.respond s = .success) {err : WorkflowError} (stops : l.Stops s err) :
    ∃ e', e.runAll ((before ++ l :: after).map (·.invocation element s false)) = (.error err, e') ∧
      Ran ((before ++ [l]).map (·.invocation element s false)) e e' ∧ e'.pool = e.pool := by
  have calls : ∀ i ∈ before.map (·.invocation element s false), i.outcome = .success := by
    rw [List.forall_mem_map]
    exact calm
  obtain ⟨answer, ran⟩ := runAll_of_stop e (i := l.invocation element s false) calls
    stops.toResult (after.map (·.invocation element s false))
  rw [List.map_append, List.map_append]
  exact ⟨_, Prod.ext answer rfl, ran, pool_runAll e _⟩

end

/-! ## Listeners left to a pool -/

/-- The queue takes a job that it has room for. -/
theorem submit_of_room {i : Invocation} (free : (e.pool i.family).isFull = false) :
    e.submit i = e.withPool i.family ((e.pool i.family).submit i) := by
  unfold submit
  simp only [free, Bool.false_eq_true, if_false]

/-- The submitter runs a job that the queue has no room for. -/
theorem submit_of_full {i : Invocation} (full : (e.pool i.family).isFull = true) :
    e.submit i = (((e.withPool i.family ((e.pool i.family).submit i)).run i).2.withPool i.family
      (((e.pool i.family).submit i).finishOnCaller (e.pool i.family).submitted)) := by
  unfold submit
  simp only [full, if_true, pool_run, pool_withPool]

/-- Submitting one thing more before the rest. -/
theorem Handed.cons {i : Invocation} (handed : Handed i.family is (e.submit i) e') :
    Handed i.family (i :: is) e e' := by
  obtain ⟨submitted, queued, finished, ran, others⟩ := handed
  cases full : (e.pool i.family).isFull with
  | false =>
      have less := Pool.room_submit full i is.length
      have here := Pool.submit_of_room full i
      rw [submit_of_room full] at submitted queued finished ran others
      rw [pool_withPool] at submitted queued finished ran
      refine ⟨?_, ?_, ?_, ?_, ?_⟩
      · rw [submitted, Pool.submitted_submit, List.length_cons]
        omega
      · rw [queued, Pool.submitted_submit, List.length_cons, less, numbered_cons,
          List.take_succ_cons, here, List.append_assoc]
        rfl
      · rw [finished, Pool.submitted_submit, Pool.finished_submit, List.length_cons, less,
          numbered_cons, List.drop_succ_cons]
      · rw [List.length_cons, less, List.drop_succ_cons]
        exact (ran_withPool e i.family _).trans ran
      · intro other apart
        rw [others other apart, pool_withPool_of_ne apart]
  | true =>
      have none := Pool.room_of_full full
      obtain ⟨config, waiting, count, past⟩ := Pool.submit_finishOnCaller full i
      have still : (((e.pool i.family).submit i).finishOnCaller
          (e.pool i.family).submitted).isFull = true := by
        unfold Pool.isFull at full ⊢
        rw [config, waiting]
        exact full
      have none' := Pool.room_of_full still
      rw [submit_of_full full] at submitted queued finished ran others
      rw [pool_withPool] at submitted queued finished ran
      rw [none'] at queued finished ran
      refine ⟨?_, ?_, ?_, ?_, ?_⟩
      · rw [submitted, count, List.length_cons]
        omega
      · rw [queued, waiting, none, List.take_zero, List.take_zero]
      · rw [finished, count, past, none, List.drop_zero, List.drop_zero, numbered_cons,
          List.map_cons, List.append_assoc]
        rfl
      · rw [none, List.drop_zero]
        rw [List.drop_zero] at ran
        have queue := ran_withPool e i.family ((e.pool i.family).submit i)
        have first := queue.trans (ran_run _ i)
        exact (first.trans (ran_withPool _ i.family _)).trans ran
      · intro other apart
        rw [others other apart, pool_withPool_of_ne apart, pool_run, pool_withPool_of_ne apart]

theorem handed_submitAll {family : Family} (own : ∀ i ∈ is, i.family = family)
    (e : Engine τ σ) : Handed family is e (e.submitAll is) := by
  induction is generalizing e with
  | nil => exact handed_nil family e
  | cons i rest ih =>
      obtain ⟨rfl, own⟩ := List.forall_mem_cons.1 own
      exact (ih own (e.submit i)).cons

/-! ## A notification -/

variable {ε : Type} [DecidableEq ε] [EventScope ε]

/-- The listeners that an event finds in line: the manager's, and behind them, unless the providers
fail, the element's own and then the supplied ones. -/
def lineup (event : ε) (managed own : List (Listener ε))
    (supplied : Except WorkflowError (List (Listener ε))) : List (Listener ε) :=
  match supplied with
  | .error _ => inLine event managed
  | .ok more => inLine event managed ++ inLine event own ++ inLine event more

/-- The listeners that an event finds for the pool, in the same order. -/
def backlog (event : ε) (managed own more : List (Listener ε)) : List (Listener ε) :=
  inPool event managed ++ inPool event own ++ inPool event more

/-- How a notification of an event goes, given the listeners of the manager and of the element in
order of registration and what the element's providers supply. -/
structure Pass (e : Engine τ σ) (event : ε) (c : Context) (element : Element)
    (managed own : List (Listener ε)) (supplied : Except WorkflowError (List (Listener ε))) :
    Prop where
  /-- The first listener in line that does not succeed is the last that runs; the caller gets its
  error and the pools get nothing. -/
  stops : ∀ before l after, lineup event managed own supplied = before ++ l :: after →
    (∀ m ∈ before, m.respond c.snapshot = .success) → ∀ err, l.Stops c.snapshot err →
      ∃ e', e.notify event c = (.error err, e') ∧
        Ran ((before ++ [l]).map (·.invocation element c.snapshot false)) e e' ∧
        e'.pool = e.pool
  /-- Providers that fail end it too, once the manager's listeners have succeeded. -/
  unsupplied : ∀ err, supplied = .error err →
    (∀ m ∈ inLine event managed, m.respond c.snapshot = .success) →
      ∃ e', e.notify event c = (.error err, e') ∧
        Ran ((inLine event managed).map (·.invocation element c.snapshot false)) e e' ∧
        e'.pool = e.pool
  /-- If all succeed, each has run once, and what is left to the pool has been handed to it,
  whatever comes of it. -/
  completes : ∀ more, supplied = .ok more →
    (∀ m ∈ lineup event managed own supplied, m.respond c.snapshot = .success) →
      ∃ e₁ e', e.notify event c = (.ok (), e') ∧
        Ran ((lineup event managed own supplied).map (·.invocation element c.snapshot false))
          e e₁ ∧
        e₁.pool = e.pool ∧
        Handed (EventFamily.family ε)
          ((backlog event managed own more).map (·.invocation element c.snapshot true)) e₁ e'

variable {event : ε} {c : Context} {element : Element} {managed own : List (Listener ε)}

/-- A listener of the manager that does not succeed ends the notification. -/
theorem notify_of_managed_stop (e : Engine τ σ) (there : EventScope.element ε c = .ok element)
    (manager : Registry.ofListeners managed = .ok (EventScope.manager e.settings))
    {before after : List (Listener ε)} {l : Listener ε}
    (split : inLine event managed = before ++ l :: after)
    (calm : ∀ m ∈ before, m.respond c.snapshot = .success) {err : WorkflowError}
    (stops : l.Stops c.snapshot err) :
    ∃ e', e.notify event c = (.error err, e') ∧
      Ran ((before ++ [l]).map (·.invocation element c.snapshot false)) e e' ∧
      e'.pool = e.pool := by
  have found : (EventScope.manager e.settings : Registry ε).sync event = before ++ l :: after := by
    rw [Registry.sync, Registry.groups_of_ofListeners manager, split]
  have noted := ran_dispatched e (EventFamily.family ε) (EventFamily.name event) c.snapshot
  obtain ⟨e₁, answer, ran, pools⟩ := runAll_listeners_of_stop
    (e.note (.dispatched (EventFamily.family ε) (EventFamily.name event) c.snapshot))
    element after calm stops
  refine ⟨e₁, ?_, noted.trans ran, pools⟩
  unfold notify
  simp only [there, found, answer]

variable [ListedScope ε]

/-- Once the manager's listeners have succeeded, the element's are looked up. -/
theorem notify_of_managed_success (e : Engine τ σ) (there : EventScope.element ε c = .ok element)
    (manager : Registry.ofListeners managed = .ok (EventScope.manager e.settings))
    (registered : Registry.ofListeners own = .ok (ListedScope.registry c))
    (calm : ∀ m ∈ inLine event managed, m.respond c.snapshot = .success) :
    ∃ e₁, Ran ((inLine event managed).map (·.invocation element c.snapshot false)) e e₁ ∧
      e₁.pool = e.pool ∧
      e.notify event c = match ListedScope.supplied (ε := ε) e.catalogue c with
        | .error err => (.error err, e₁)
        | .ok more =>
          match e₁.runAll ((inLine event own ++ inLine event more).map
            (·.invocation element c.snapshot false)) with
          | (.error err, e₂) => (.error err, e₂)
          | (.ok (), e₂) => (.ok (), e₂.submitAll
            ((backlog event managed own more).map (·.invocation element c.snapshot true))) := by
  have found : (EventScope.manager e.settings : Registry ε).sync event = inLine event managed := by
    rw [Registry.sync, Registry.groups_of_ofListeners manager]
  have left : (EventScope.manager e.settings : Registry ε).async event = inPool event managed := by
    rw [Registry.async, Registry.groups_of_ofListeners manager]
  have listed : (EventScope.groups e.catalogue c event).found =
      (ListedScope.supplied e.catalogue c).map
        (((ListedScope.registry c : Registry ε).groups event).extendFor event) :=
    ListedScope.found_groups there
  rw [Registry.groups_of_ofListeners registered] at listed
  let noted := e.note (.dispatched (EventFamily.family ε) (EventFamily.name event) c.snapshot)
  have first : Ran [] e noted := ran_dispatched e _ _ _
  obtain ⟨e₁, answer, ran, pools⟩ := runAll_listeners_of_success noted element calm
  have shared : e₁.catalogue = e.catalogue := by
    have heard : Heard (fun _ => True) [] noted
        (noted.runAll ((inLine event managed).map (·.invocation element c.snapshot false))).2 :=
      heard_runAll (by simp) noted
    rw [answer] at heard
    exact heard.catalogue
  have asked := ran_noteConsulted e₁ (EventScope.groups e.catalogue c event).consultations
  refine ⟨e₁.noteConsulted (EventScope.groups e.catalogue c event).consultations, ?_, pools, ?_⟩
  · have all := (first.trans ran).trans asked
    rw [List.nil_append, List.append_nil] at all
    exact all
  · unfold notify
    simp only [there, found, left]
    change (match noted.runAll _ with | (.error err, e) => _ | (.ok (), e) => _) = _
    rw [answer]
    dsimp only
    rw [shared, listed]
    cases ListedScope.supplied (ε := ε) e.catalogue c with
    | error err => rfl
    | ok more =>
        have all : inPool event managed ++ (inPool event own ++ inPool event more) =
            backlog event managed own more := (List.append_assoc ..).symm
        dsimp only [Except.map]
        rw [Groups.extendFor_eq]
        dsimp only
        rcases runAll (σ := σ) _ _ with ⟨_ | ⟨⟩, e₂⟩
        · rfl
        · exact congrArg (fun ls : List (Listener ε) =>
            ((.ok (), e₂.submitAll (ls.map (·.invocation element c.snapshot true))) :
              Except WorkflowError Unit × Engine τ σ)) all

/-- A notification goes through its listeners one by one. -/
theorem notify_pass (e : Engine τ σ) (event : ε) (there : EventScope.element ε c = .ok element)
    (manager : Registry.ofListeners managed = .ok (EventScope.manager e.settings))
    (registered : Registry.ofListeners own = .ok (ListedScope.registry c)) :
    e.Pass event c element managed own (ListedScope.supplied e.catalogue c) := by
  constructor
  case stops =>
    intro before l after split calm err stops
    cases supply : ListedScope.supplied (ε := ε) e.catalogue c with
    | error failure =>
        rw [supply] at split
        exact notify_of_managed_stop e there manager split calm stops
    | ok more =>
        rw [supply, lineup, List.append_assoc] at split
        rcases mem_split_cases split with ⟨rest, managed_split⟩ | ⟨early, rfl, rest⟩
        · exact notify_of_managed_stop e there manager managed_split calm stops
        · rw [List.forall_mem_append] at calm
          obtain ⟨e₁, ran, pools, same⟩ :=
            notify_of_managed_success e there manager registered calm.1
          obtain ⟨e₂, answer, more_ran, kept⟩ := runAll_listeners_of_stop e₁ element after
            calm.2 stops
          simp only [supply, rest, answer] at same
          refine ⟨e₂, same, ?_, kept.trans pools⟩
          rw [List.append_assoc, List.map_append]
          exact ran.trans more_ran
  case unsupplied =>
    intro err supply calm
    obtain ⟨e₁, ran, pools, same⟩ := notify_of_managed_success e there manager registered calm
    rw [supply] at same
    exact ⟨e₁, same, ran, pools⟩
  case completes =>
    intro more supply calm
    rw [supply, lineup, List.append_assoc, List.forall_mem_append] at calm
    obtain ⟨e₁, ran, pools, same⟩ := notify_of_managed_success e there manager registered calm.1
    rw [← inLine_append] at calm
    obtain ⟨e₂, answer, more_ran, kept⟩ := runAll_listeners_of_success e₁ element calm.2
    simp only [supply, ← inLine_append, answer] at same
    have family : ∀ i ∈ (backlog event managed own more).map
        (·.invocation element c.snapshot true), i.family = EventFamily.family ε :=
      List.forall_mem_map.2 fun _ _ => rfl
    refine ⟨e₂, _, same, ?_, kept.trans pools, handed_submitAll family e₂⟩
    rw [supply, lineup, List.append_assoc, List.map_append, ← inLine_append]
    exact ran.trans more_ran

end Engine

/-! ## A deployment -/

namespace Deployment

/-- A listener that waits for a task to be completed. -/
def listener (name : String) (isAsync : Bool) (outcome : Outcome) : Listener TaskEvent :=
  ⟨name, .complete, isAsync, fun _ => outcome⟩

def managed : List (Listener TaskEvent) :=
  [listener "notify" true .success, listener "audit" false .success]

def own : List (Listener TaskEvent) :=
  [listener "check" false .success, listener "archive" true .panic]

/-- A task that has listeners of its own and from the catalogue. -/
def deploy : Task :=
  ⟨"deploy", "Deploy", .service ⟨[.initMq, .initSort], [.catalogue]⟩,
    own.foldl Registry.add .empty, ["end"]⟩

def context : Context :=
  { Context.base (.named "release" "Release") default none with current := some deploy }

/-- An engine whose queue has room for one job. -/
def engine : Engine Unit EventLog :=
  .new ⟨.empty, managed.foldl Registry.add .empty, "system"⟩ 1 (some 1)
    (Catalogue.empty.register .queue ⟨listener "topic" false (.refusal "no quota"), .always⟩) ()
    .empty default

/-- The catalogue's listener refuses after the others in line have succeeded, so those for the pool
are left out. -/
theorem deployed_pass :
    EventScope.element TaskEvent context = .ok ⟨"deploy", "Deploy"⟩ ∧
      Registry.ofListeners managed = .ok (EventScope.manager engine.settings) ∧
      Registry.ofListeners own = .ok (ListedScope.registry context) ∧
      engine.Pass TaskEvent.complete context ⟨"deploy", "Deploy"⟩ managed own
        (ListedScope.supplied engine.catalogue context) ∧
      ∃ e, engine.notify TaskEvent.complete context =
          (.error (.listenerFailed "topic" "no quota"), e) ∧ e.pool = engine.pool := by
  have pass : engine.Pass TaskEvent.complete context ⟨"deploy", "Deploy"⟩ managed own
      (ListedScope.supplied engine.catalogue context) :=
    Engine.notify_pass engine TaskEvent.complete rfl rfl rfl
  refine ⟨rfl, rfl, rfl, pass, ?_⟩
  obtain ⟨e, answer, -, kept⟩ := pass.stops
    [listener "audit" false .success, listener "check" false .success]
    (listener "topic" false (.refusal "no quota")) [] rfl (by simp [listener]) _ (.refusal rfl)
  exact ⟨e, answer, kept⟩

end Deployment

end ApprovalFlow
