import ApprovalFlow.Proofs.Audit.Notices

/-!
# A caller, its workers and any log

`Desk` is a caller at work beside its workers, as `Floor` is, but with any store of event rows, and
a run of a listener is made in three steps: its row is given to the store, the listener answers, and
the row is brought up to date if the store has kept one. Whatever the store answers, the run goes
on, so nobody can tell one store from another by what is run.

* `Desk.Step.alike`: what may happen at a desk may happen at another that differs in its store only.
* `Desk.Step.shows`, `Desk.steps_ofFloor`: with a log that works, a desk is a floor.
* `Desk.steps_sequential`: a caller whose workers rest until it has done all is one case.
-/

namespace ApprovalFlow

namespace Engine

variable {τ σ σ' : Type}

/-- The engine with another store of event rows. -/
def withEvents (e : Engine τ σ) (events : σ') : Engine τ σ' where
  settings := e.settings
  now := e.now
  tasks := e.tasks
  events := events
  catalogue := e.catalogue
  processPool := e.processPool
  taskPool := e.taskPool
  trace := e.trace

theorem pool_withEvents (e : Engine τ σ) (events : σ') : (e.withEvents events).pool = e.pool := by
  funext family
  cases family <;> rfl

theorem withPool_withEvents (e : Engine τ σ) (events : σ') (family : Family)
    (p : Pool Invocation) :
    (e.withEvents events).withPool family p = (e.withPool family p).withEvents events := by
  cases family <;> rfl

theorem events_withPool (e : Engine τ σ) (family : Family) (p : Pool Invocation) :
    (e.withPool family p).events = e.events := by
  cases family <;> rfl

variable [EventStore σ]

/-- Brings the row of a run up to date, if there is one. -/
def closeRecord (e : Engine τ σ) (saved : Option EventRow) (outcome : Outcome) : Engine τ σ :=
  match saved with
  | some row => e.endRecord row outcome
  | none => e

/-- A run is made in three steps. -/
theorem run_eq (e : Engine τ σ) (i : Invocation) :
    (e.run i).2 =
      ((e.beginRecord i).2.note i.observation).closeRecord (e.beginRecord i).1 i.outcome := by
  unfold run closeRecord
  dsimp only
  cases (e.beginRecord i).1 <;> rfl

theorem endRecord_withTrace (e : Engine τ σ) (trace : List Observation) (row : EventRow)
    (outcome : Outcome) :
    { e with trace := trace }.endRecord row outcome =
      { e.endRecord row outcome with trace := trace } := by
  unfold endRecord
  dsimp only
  split <;> rfl

/-- A store is touched by nothing but its own calls. -/
theorem beginRecord_eq_withEvents (e : Engine τ σ) (i : Invocation) :
    (e.beginRecord i).2 = e.withEvents (e.beginRecord i).2.events :=
  rfl

theorem closeRecord_eq_withEvents (e : Engine τ σ) (saved : Option EventRow) (outcome : Outcome) :
    e.closeRecord saved outcome = e.withEvents (e.closeRecord saved outcome).events := by
  unfold closeRecord endRecord
  cases saved with
  | none => rfl
  | some row =>
      dsimp only
      split <;> rfl

end Engine

/-- A run of a listener that has begun: its row, if the store has kept one, and whether the listener
has answered. -/
structure Hearing where
  seat : Seat
  call : Invocation
  row : Option EventRow
  heard : Bool

/-- A moment of a caller and its workers. -/
structure Desk (σ : Type) where
  engine : Engine TaskTable σ
  /-- What the caller still has to do. A run in line stays here until it has ended. -/
  todo : List Effect
  begun : List Hearing

namespace Desk

variable {σ σ' : Type}

/-- The desk as far as its store and the runs that have begun do not matter: who has what to run. -/
def floor (d : Desk σ) : Floor :=
  ⟨d.engine.withEvents .empty, d.todo, []⟩

/-- What was to be run at a seat has ended. -/
def leave (d : Desk σ) : Seat → Desk σ
  | .inLine => { d with todo := d.todo.tail }
  | .caller family ticket =>
    { d with engine := d.engine.withPool family ((d.engine.pool family).finishOnCaller ticket) }
  | .worker family number =>
    { d with engine := d.engine.withPool family ((d.engine.pool family).finish number) }

variable [EventStore σ] [EventStore σ']

/-- A run has ended: its row is brought up to date. -/
def settle (d : Desk σ) (u : Hearing) (others : List Hearing) : Desk σ :=
  { d with engine := d.engine.closeRecord u.row u.call.outcome, begun := others }

/-- One thing that happens. -/
inductive Step : Desk σ → Desk σ → Prop
  | does {d : Desk σ} {x : Effect} {rest : List Effect} : d.todo = x :: rest → x.run? = none →
    d.floor.IsFree → Step d { d with engine := d.engine.perform x, todo := rest }
  | submits {d : Desk σ} {i : Invocation} {rest : List Effect} :
    d.todo = .submitted i :: rest → d.floor.IsFree →
    Step d { d with
      engine := d.engine.withPool i.family ((d.engine.pool i.family).submit i)
      todo := rest }
  | takes {d : Desk σ} {family : Family} {number : Nat} {job : Job Invocation}
    {p : Pool Invocation} : (d.engine.pool family).take number = some (job, p) →
    Step d { d with engine := d.engine.withPool family p }
  /-- The jobs that wait may come on in any order. -/
  | reorders {d : Desk σ} {family : Family} {queue : List (Job Invocation)} :
    queue.Perm (d.engine.pool family).queued →
    Step d { d with
      engine := d.engine.withPool family { d.engine.pool family with queued := queue } }
  /-- A run begins: its row is given to the store. -/
  | opens {d : Desk σ} {seat : Seat} {i : Invocation} : d.floor.Holds seat i →
    seat ∉ d.begun.map (·.seat) → (seat = .inLine → d.floor.IsFree) →
    Step d { d with
      engine := (d.engine.beginRecord i).2
      begun := d.begun ++ [⟨seat, i, (d.engine.beginRecord i).1, false⟩] }
  /-- The listener answers. -/
  | hears {d : Desk σ} {before after : List Hearing} {u : Hearing} :
    d.begun = before ++ u :: after → u.heard = false →
    Step d { d with
      engine := d.engine.note u.call.observation
      begun := before ++ { u with heard := true } :: after }
  /-- A run ends: its row is brought up to date. -/
  | closes {d : Desk σ} {before after : List Hearing} {u : Hearing} :
    d.begun = before ++ u :: after → u.heard = true →
    Step d ((d.settle u (before ++ after)).leave u.seat)
  | ticks {d : Desk σ} (now : Instant) : Step d { d with engine := { d.engine with now := now } }

/-- What may come of a moment. -/
abbrev Steps : Desk σ → Desk σ → Prop :=
  Relation.ReflTransGen Step

omit [EventStore σ] in
/-- The caller has nothing left to do, and both pools count no jobs. -/
structure Done (d : Desk σ) : Prop where
  todo : d.todo = []
  idle : ∀ family, (d.engine.pool family).isIdle = true

/-! ## Another store -/

omit [EventStore σ] [EventStore σ'] in
/-- Two desks that differ at most in their stores and in what these have answered. -/
structure Alike (d : Desk σ) (d' : Desk σ') : Prop where
  engine : d'.engine = d.engine.withEvents d'.engine.events
  todo : d'.todo = d.todo
  begun : d'.begun.map (fun u => (u.seat, u.call, u.heard)) =
    d.begun.map fun u => (u.seat, u.call, u.heard)

section

variable {d d₁ : Desk σ} {d' : Desk σ'}

omit [EventStore σ] [EventStore σ']

theorem Alike.pool (alike : d.Alike d') : d'.engine.pool = d.engine.pool := by
  rw [alike.engine, Engine.pool_withEvents]

theorem Alike.floor (alike : d.Alike d') : d'.floor = d.floor := by
  unfold Desk.floor
  rw [alike.engine, alike.todo]
  rfl

theorem Alike.seats (alike : d.Alike d') : d'.begun.map (·.seat) = d.begun.map (·.seat) := by
  have seats := congrArg (List.map Prod.fst) alike.begun
  rw [List.map_map, List.map_map] at seats
  exact seats

theorem Alike.symm (alike : d.Alike d') : d'.Alike d := by
  refine ⟨?_, alike.todo.symm, alike.begun.symm⟩
  rw [alike.engine]
  rfl

/-- Whoever is at work at the one desk is at work at the other. -/
theorem Alike.split (alike : d.Alike d') {before after : List Hearing} {u : Hearing}
    (here : d.begun = before ++ u :: after) :
    ∃ before' u' after', d'.begun = before' ++ u' :: after' ∧
      before'.map (fun u => (u.seat, u.call, u.heard)) =
        before.map (fun u => (u.seat, u.call, u.heard)) ∧
      u'.seat = u.seat ∧ u'.call = u.call ∧ u'.heard = u.heard ∧
      after'.map (fun u => (u.seat, u.call, u.heard)) =
        after.map fun u => (u.seat, u.call, u.heard) := by
  have same := alike.begun
  rw [here, List.map_append, List.map_cons] at same
  obtain ⟨before', rest, here', front, back⟩ := List.map_eq_append_iff.1 same
  obtain ⟨u', after', rfl, one, back⟩ := List.map_eq_cons_iff.1 back
  simp only [Prod.mk.injEq] at one
  exact ⟨before', u', after', here', front, one.1, one.2.1, one.2.2, back⟩

/-- One pool is changed in the same way. -/
theorem Alike.withPool (alike : d.Alike d') (family : Family) (p : Pool Invocation)
    (todo : List Effect) :
    ({ d with engine := d.engine.withPool family p, todo := todo } : Desk σ).Alike
      { d' with engine := d'.engine.withPool family p, todo := todo } := by
  refine ⟨?_, rfl, alike.begun⟩
  dsimp only
  rw [Engine.events_withPool, ← Engine.withPool_withEvents, ← alike.engine]

theorem Alike.leave (alike : d.Alike d') (seat : Seat) : (d.leave seat).Alike (d'.leave seat) := by
  cases seat with
  | inLine => exact ⟨alike.engine, congrArg List.tail alike.todo, alike.begun⟩
  | caller family ticket =>
      have both := alike.withPool family ((d.engine.pool family).finishOnCaller ticket) d.todo
      unfold Desk.leave
      rw [alike.pool]
      exact ⟨both.engine, alike.todo, both.begun⟩
  | worker family number =>
      have both := alike.withPool family ((d.engine.pool family).finish number) d.todo
      unfold Desk.leave
      rw [alike.pool]
      exact ⟨both.engine, alike.todo, both.begun⟩

end

/-- What may happen at one desk may happen at the other. -/
theorem Step.alike {d d₁ : Desk σ} {d' : Desk σ'} (step : Step d d₁) (alike : d.Alike d') :
    ∃ d₁', Step d' d₁' ∧ d₁.Alike d₁' := by
  cases step with
  | @does x rest todo silent free =>
      refine ⟨_, .does (alike.todo.trans todo) silent (alike.floor ▸ free), ?_⟩
      have engine := alike.engine
      refine ⟨?_, rfl, alike.begun⟩
      cases x with
      | noted os => dsimp only [Engine.perform]; rw [engine]; rfl
      | stored tasks => dsimp only [Engine.perform]; rw [engine]; rfl
      | ran => cases silent
      | submitted => cases silent
  | @submits i rest todo free =>
      refine ⟨_, .submits (alike.todo.trans todo) (alike.floor ▸ free), ?_⟩
      rw [alike.pool]
      exact alike.withPool i.family _ rest
  | @takes family number job p taken =>
      refine ⟨_, .takes (alike.pool ▸ taken), ?_⟩
      have both := alike.withPool family p d.todo
      exact ⟨both.engine, alike.todo, both.begun⟩
  | @reorders family queue same =>
      refine ⟨_, @Step.reorders _ _ d' family queue (alike.pool ▸ same), ?_⟩
      rw [alike.pool]
      have both := alike.withPool family { d.engine.pool family with queued := queue } d.todo
      exact ⟨both.engine, alike.todo, both.begun⟩
  | @opens seat i holds fresh free =>
      refine ⟨_, .opens (alike.floor ▸ holds) (alike.seats ▸ fresh)
        (fun inLine => alike.floor ▸ free inLine), ?_, alike.todo, ?_⟩
      · dsimp only
        rw [Engine.beginRecord_eq_withEvents d'.engine, Engine.beginRecord_eq_withEvents d.engine]
        rw [alike.engine]
        rfl
      · rw [List.map_append, List.map_append, alike.begun]
        rfl
  | @hears before after u here silent =>
      obtain ⟨before', u', after', here', front, seat, call, heard, back⟩ := alike.split here
      refine ⟨_, .hears here' (heard.trans silent), ?_, alike.todo, ?_⟩
      · dsimp only
        rw [call, alike.engine]
        rfl
      · dsimp only
        rw [List.map_append, List.map_cons, List.map_append, List.map_cons, front, back, seat, call]
  | @closes before after u here answered =>
      obtain ⟨before', u', after', here', front, seat, call, heard, back⟩ := alike.split here
      have both : (d.settle u (before ++ after)).Alike (d'.settle u' (before' ++ after')) := by
        refine ⟨?_, alike.todo, ?_⟩
        · dsimp only [settle]
          rw [Engine.closeRecord_eq_withEvents d'.engine, Engine.closeRecord_eq_withEvents d.engine]
          rw [alike.engine]
          rfl
        · dsimp only [settle]
          rw [List.map_append, List.map_append, front, back]
      refine ⟨_, .closes here' (heard.trans answered), ?_⟩
      rw [seat]
      exact both.leave u.seat
  | ticks now =>
      refine ⟨_, .ticks now, ?_, alike.todo, alike.begun⟩
      dsimp only
      rw [alike.engine]
      rfl

theorem Steps.alike {d d₁ : Desk σ} {d' : Desk σ'} (steps : Steps d d₁) (alike : d.Alike d') :
    ∃ d₁', Steps d' d₁' ∧ d₁.Alike d₁' := by
  induction steps with
  | refl => exact ⟨d', Relation.ReflTransGen.refl, alike⟩
  | tail _ step ih =>
      obtain ⟨middle, before, both⟩ := ih
      obtain ⟨last, after, both⟩ := step.alike both
      exact ⟨last, before.tail after, both⟩

/-! ## A log that works -/

section

variable {d d₁ : Desk EventLog} {f f₁ : Floor}

/-- A floor that shows a desk: what the log and the pools hold is the same, and so is who is at
work, since a log that works has kept the row of each run. At a floor a listener is noted as soon as
its row is stored, so the notes may be others. -/
structure Shows (d : Desk EventLog) (f : Floor) : Prop where
  engine : f.engine = { d.engine with trace := f.engine.trace }
  todo : f.todo = d.todo
  begun : f.begun.map (fun u => (u.seat, u.call, some u.row)) =
    d.begun.map fun u => (u.seat, u.call, u.row)

theorem Shows.pool (shows_ : d.Shows f) : f.engine.pool = d.engine.pool := by
  rw [shows_.engine]
  funext family
  cases family <;> rfl

theorem Shows.holds (shows_ : d.Shows f) {seat : Seat} {i : Invocation} :
    f.Holds seat i ↔ d.floor.Holds seat i := by
  have pools : d.floor.engine.pool = d.engine.pool := Engine.pool_withEvents ..
  constructor
  · exact fun holds => holds.congr shows_.todo.symm (pools.trans shows_.pool.symm)
  · exact fun holds => holds.congr shows_.todo (shows_.pool.trans pools.symm)

theorem Shows.isFree (shows_ : d.Shows f) : f.IsFree ↔ d.floor.IsFree := by
  have pools : d.floor.engine.pool = d.engine.pool := Engine.pool_withEvents ..
  unfold Floor.IsFree
  rw [pools, shows_.pool]

theorem Shows.seats (shows_ : d.Shows f) : f.begun.map (·.seat) = d.begun.map (·.seat) := by
  have seats := congrArg (List.map Prod.fst) shows_.begun
  rw [List.map_map, List.map_map] at seats
  exact seats

theorem Shows.split (shows_ : d.Shows f) {before after : List Hearing} {u : Hearing}
    (here : d.begun = before ++ u :: after) :
    ∃ before' v after', f.begun = before' ++ v :: after' ∧
      before'.map (fun u => (u.seat, u.call, some u.row)) =
        before.map (fun u => (u.seat, u.call, u.row)) ∧
      v.seat = u.seat ∧ v.call = u.call ∧ u.row = some v.row ∧
      after'.map (fun u => (u.seat, u.call, some u.row)) =
        after.map fun u => (u.seat, u.call, u.row) := by
  have same := shows_.begun
  rw [here, List.map_append, List.map_cons] at same
  obtain ⟨before', rest, here', front, back⟩ := List.map_eq_append_iff.1 same
  obtain ⟨v, after', rfl, one, back⟩ := List.map_eq_cons_iff.1 back
  simp only [Prod.mk.injEq] at one
  exact ⟨before', v, after', here', front, one.1, one.2.1, one.2.2.symm, back⟩

theorem Shows.leave (shows_ : d.Shows f) (seat : Seat) : (d.leave seat).Shows (f.leave seat) := by
  have engine := shows_.engine
  cases seat with
  | inLine => exact ⟨engine, congrArg List.tail shows_.todo, shows_.begun⟩
  | caller family ticket =>
      refine ⟨?_, shows_.todo, shows_.begun⟩
      dsimp only [Floor.leave, Desk.leave]
      rw [shows_.pool, engine]
      cases family <;> rfl
  | worker family number =>
      refine ⟨?_, shows_.todo, shows_.begun⟩
      dsimp only [Floor.leave, Desk.leave]
      rw [shows_.pool, engine]
      cases family <;> rfl

/-- What happens at the desk happens at the floor, if it makes a difference there. -/
theorem Step.shows {d d₁ : Desk EventLog} {f : Floor} (step : Step d d₁) (shows_ : d.Shows f) :
    ∃ f₁, Floor.Steps f f₁ ∧ d₁.Shows f₁ := by
  have engine := shows_.engine
  cases step with
  | @does x rest todo silent free =>
      refine ⟨_, Relation.ReflTransGen.single
        (.does (shows_.todo.trans todo) silent (shows_.isFree.2 free)), ?_, rfl, shows_.begun⟩
      cases x with
      | noted os => dsimp only [Engine.perform]; rw [engine]
      | stored tasks => dsimp only [Engine.perform]; rw [engine]
      | ran => cases silent
      | submitted => cases silent
  | @submits i rest todo free =>
      refine ⟨_, Relation.ReflTransGen.single
        (.submits (shows_.todo.trans todo) (shows_.isFree.2 free)), ?_, rfl, shows_.begun⟩
      dsimp only
      rw [shows_.pool, engine]
      cases i.family <;> rfl
  | @takes family number job p taken =>
      refine ⟨_, Relation.ReflTransGen.single (.takes (shows_.pool ▸ taken)), ?_, shows_.todo,
        shows_.begun⟩
      dsimp only
      rw [engine]
      cases family <;> rfl
  | @reorders family queue same =>
      refine ⟨_, Relation.ReflTransGen.single
        (@Floor.Step.reorders f family queue (shows_.pool ▸ same)), ?_, shows_.todo, shows_.begun⟩
      dsimp only
      rw [shows_.pool, engine]
      cases family <;> rfl
  | @opens seat i holds fresh free =>
      refine ⟨_, Relation.ReflTransGen.single (.begins (shows_.holds.2 holds)
        (shows_.seats ▸ fresh) (fun inLine => shows_.isFree.2 (free inLine))
        (Floor.beginRecord_eq f.engine i)), ?_, shows_.todo, ?_⟩
      · dsimp only [Floor.beginRecord_eq, Engine.note]
        rw [engine]
      · dsimp only
        rw [List.map_append, List.map_append, shows_.begun, Floor.beginRecord_eq, engine]
        rfl
  | @hears before after u here silent =>
      refine ⟨f, Relation.ReflTransGen.refl, engine, shows_.todo, ?_⟩
      rw [shows_.begun, here]
      simp only [List.map_append, List.map_cons]
  | @closes before after u here answered =>
      obtain ⟨before', v, after', here', front, seat, call, row, back⟩ := shows_.split here
      have both : (d.settle u (before ++ after)).Shows (f.settle v (before' ++ after')) := by
        refine ⟨?_, shows_.todo, ?_⟩
        · dsimp only [Desk.settle, Floor.settle, Engine.closeRecord]
          rw [row, ← call, engine]
          dsimp only
          rw [Engine.endRecord_withTrace]
        · dsimp only [Desk.settle, Floor.settle]
          rw [List.map_append, List.map_append, front, back]
      refine ⟨_, Relation.ReflTransGen.single (.ends here'), ?_⟩
      rw [seat]
      exact both.leave u.seat
  | ticks now =>
      refine ⟨_, Relation.ReflTransGen.single (.ticks now), ?_, shows_.todo, shows_.begun⟩
      dsimp only
      rw [engine]

/-- A floor as a desk, where each listener that has begun has answered. -/
def ofFloor (f : Floor) : Desk EventLog :=
  ⟨f.engine, f.todo, f.begun.map fun u => ⟨u.seat, u.call, some u.row, true⟩⟩

theorem shows_ofFloor (f : Floor) : (ofFloor f).Shows f := by
  refine ⟨rfl, rfl, ?_⟩
  unfold ofFloor
  rw [List.map_map]
  rfl

theorem ofFloor_leave (f : Floor) (seat : Seat) :
    ofFloor (f.leave seat) = (ofFloor f).leave seat := by
  cases seat <;> rfl

theorem ofFloor_begins (f : Floor) (e : Engine TaskTable EventLog) (u : Underway) :
    ofFloor { f with engine := e, begun := f.begun ++ [u] } =
      { ofFloor f with
        engine := e
        begun := (ofFloor f).begun ++ [⟨u.seat, u.call, some u.row, true⟩] } := by
  unfold ofFloor
  rw [List.map_append]
  rfl

/-- What happens at a floor may happen at a desk. -/
theorem steps_ofFloor (step : Floor.Step f f₁) : Steps (ofFloor f) (ofFloor f₁) := by
  have shows_ := shows_ofFloor f
  cases step with
  | does todo silent free =>
      exact Relation.ReflTransGen.single (.does todo silent (shows_.isFree.1 free))
  | submits todo free =>
      exact Relation.ReflTransGen.single (.submits todo (shows_.isFree.1 free))
  | takes taken => exact Relation.ReflTransGen.single (.takes taken)
  | reorders same => exact Relation.ReflTransGen.single (.reorders same)
  | @begins seat i row e holds fresh free stored =>
      rw [Floor.beginRecord_eq] at stored
      cases stored
      have opens := Step.opens (shows_.holds.1 holds) (shows_.seats ▸ fresh)
        fun inLine => shows_.isFree.1 (free inLine)
      refine (Relation.ReflTransGen.single opens).tail ?_
      rw [ofFloor_begins]
      exact @Step.hears _ _ _ (ofFloor f).begun [] ⟨seat, i, _, false⟩ rfl rfl
  | @ends before after u here =>
      have closes := @Step.closes _ _ (ofFloor f)
        (before.map fun u => ⟨u.seat, u.call, some u.row, true⟩)
        (after.map fun u => ⟨u.seat, u.call, some u.row, true⟩)
        ⟨u.seat, u.call, some u.row, true⟩ (by unfold ofFloor; rw [here]; simp) rfl
      rw [ofFloor_leave]
      refine Relation.ReflTransGen.single ?_
      unfold ofFloor Floor.settle
      rw [List.map_append]
      exact closes
  | ticks now => exact Relation.ReflTransGen.single (.ticks now)

/-- A caller that does all it has to do, and then waits for one worker that empties the queues one
after the other. -/
theorem steps_sequential {e : Engine TaskTable EventLog} (opening : Floor.Opening e)
    (fx : List Effect) :
    Steps ⟨e, fx, []⟩ ⟨(e.performAll fx).drain, [], []⟩ ∧
      Done ⟨(e.performAll fx).drain, [], []⟩ := by
  obtain ⟨steps, done⟩ := opening.steps_sequential fx
  refine ⟨?_, done.todo, done.idle⟩
  have lifted := Relation.ReflTransGen.trans_induction_on
    (motive := fun {f f₁} _ => Steps (ofFloor f) (ofFloor f₁)) steps
    (fun _ => Relation.ReflTransGen.refl) steps_ofFloor fun _ _ first rest => first.trans rest
  exact lifted

end

end Desk

end ApprovalFlow
