import ApprovalFlow.Proofs.Work

/-!
# What a workflow call does

A workflow call shares the event log and the pools with the workers, and everything it does to them
is of few kinds: it runs a listener in line or leaves one to a pool, and gets nothing back that
depends on what is in the log or in the pools. So what a call does can be listed.

* `Engine.Does`: whatever is in the log, in the pools and in the trace, a call does the things of
  a list in their order, and its result is the same but for the engine that is left.
* `Engine.does_notify`, `Engine.insertTask_against` and `Engine.updateTask_against`: the calls that
  the others are made of.
-/

namespace ApprovalFlow

/-- One thing that a workflow call does to the engine. -/
inductive Effect where
  | noted (observations : List Observation)
  | stored (tasks : TaskTable)
  /-- A listener is run in line. -/
  | ran (i : Invocation)
  /-- A listener is left to a pool. -/
  | submitted (i : Invocation)

/-- What running listeners in line comes to, and what is done on the way. -/
def Invocation.inTurn : List Invocation → Except WorkflowError Unit × List Effect
  | [] => (.ok (), [])
  | i :: rest =>
    match i.outcome.toResult i.listener with
    | .error err => (.error err, [.ran i])
    | .ok () => ((inTurn rest).1, .ran i :: (inTurn rest).2)

namespace Engine

variable {σ β : Type} [EventStore σ] {e : Engine TaskTable σ} {gx : List Effect}

/-- The engine after one thing has been done. -/
def perform (e : Engine TaskTable σ) : Effect → Engine TaskTable σ
  | .noted observations => { e with trace := e.trace ++ observations }
  | .stored tasks => { e with tasks := tasks }
  | .ran i => (e.run i).2
  | .submitted i => e.submit i

/-- The engine after some things have been done, in order. -/
def performAll (e : Engine TaskTable σ) (fx : List Effect) : Engine TaskTable σ :=
  fx.foldl perform e

omit [EventStore σ] in
/-- An engine with the log, the pools and the trace of another. -/
def against (e x : Engine TaskTable σ) : Engine TaskTable σ :=
  { x with settings := e.settings, now := e.now, tasks := e.tasks, catalogue := e.catalogue }

/-- Whatever is in the log, in the pools and in the trace, a call does these things, and its result
is made of the engine that is left. -/
def Does (e : Engine TaskTable σ) (fx : List Effect) (call result : Engine TaskTable σ → β) :
    Prop :=
  ∀ x, call (e.against x) = result ((e.against x).performAll fx)

theorem performAll_append (e : Engine TaskTable σ) (fx gx : List Effect) :
    e.performAll (fx ++ gx) = (e.performAll fx).performAll gx :=
  List.foldl_append

omit [EventStore σ] in
theorem eq_against {e x : Engine TaskTable σ} (settings : x.settings = e.settings)
    (now : x.now = e.now) (tasks : x.tasks = e.tasks) (catalogue : x.catalogue = e.catalogue) :
    x = e.against x := by
  unfold against
  rw [← settings, ← now, ← tasks, ← catalogue]

theorem heard_perform_ran (e : Engine TaskTable σ) (i : Invocation) :
    Heard (fun _ => True) [] e (e.perform (.ran i)) :=
  heard_run trivial e

theorem heard_perform_submitted (e : Engine TaskTable σ) (i : Invocation) :
    Heard (fun _ => True) [] e (e.perform (.submitted i)) :=
  heard_submit trivial e

/-- What is done makes no difference to the call's own part but to its rows, and those it changes
in the same way against every engine. -/
theorem perform_against (e x : Engine TaskTable σ) (f : Effect) :
    (e.against x).perform f = (e.perform f).against ((e.against x).perform f) := by
  cases f with
  | noted => rfl
  | stored => rfl
  | ran i =>
      have own := heard_perform_ran e i
      have other := heard_perform_ran (e.against x) i
      exact eq_against (other.settings.trans own.settings.symm) (other.now.trans own.now.symm)
        (other.tasks.trans own.tasks.symm) (other.catalogue.trans own.catalogue.symm)
  | submitted i =>
      have own := heard_perform_submitted e i
      have other := heard_perform_submitted (e.against x) i
      exact eq_against (other.settings.trans own.settings.symm) (other.now.trans own.now.symm)
        (other.tasks.trans own.tasks.symm) (other.catalogue.trans own.catalogue.symm)

theorem performAll_against (e x : Engine TaskTable σ) (fx : List Effect) :
    (e.against x).performAll fx = (e.performAll fx).against ((e.against x).performAll fx) := by
  induction fx generalizing e x with
  | nil => rfl
  | cons f rest ih =>
      change ((e.against x).perform f).performAll rest =
        ((e.perform f).performAll rest).against (((e.against x).perform f).performAll rest)
      rw [perform_against]
      exact ih (e.perform f) _

theorem catalogue_performAll (e : Engine TaskTable σ) (fx : List Effect) :
    (e.performAll fx).catalogue = e.catalogue := by
  induction fx generalizing e with
  | nil => rfl
  | cons f rest ih =>
      have kept : (e.perform f).catalogue = e.catalogue := by
        cases f with
        | noted => rfl
        | stored => rfl
        | ran i => exact (heard_perform_ran e i).catalogue
        | submitted i => exact (heard_perform_submitted e i).catalogue
      exact (ih (e.perform f)).trans kept

/-- What a call does after something has been done. -/
theorem Does.after {call result : Engine TaskTable σ → β} (fx : List Effect)
    (does : (e.performAll fx).Does gx call result) (x : Engine TaskTable σ) :
    call ((e.against x).performAll fx) = result ((e.against x).performAll (fx ++ gx)) := by
  rw [performAll_append, performAll_against]
  exact does _

/-! ## Listeners -/

theorem runAll_eq (e : Engine TaskTable σ) (is : List Invocation) :
    e.runAll is = ((Invocation.inTurn is).1, e.performAll (Invocation.inTurn is).2) := by
  induction is generalizing e with
  | nil => rfl
  | cons i rest ih =>
      have answer : (e.runInLine i).1 = i.outcome.toResult i.listener :=
        congrArg (Outcome.toResult i.listener) (run_outcome e i)
      have left : (e.runInLine i).2 = e.perform (.ran i) := rfl
      unfold runAll Invocation.inTurn
      rcases first : e.runInLine i with ⟨err | ⟨⟩, e'⟩
      · rw [first] at answer left
        rw [← answer, show e' = e.perform (.ran i) from left]
        rfl
      · rw [first] at answer left
        rw [← answer, show e' = e.perform (.ran i) from left]
        exact ih (e.perform (.ran i))

theorem submitAll_eq (e : Engine TaskTable σ) (is : List Invocation) :
    e.submitAll is = e.performAll (is.map .submitted) := by
  unfold submitAll performAll
  rw [List.foldl_map]
  rfl

/-- What a notification comes to that finds its listeners, those of the manager to run in line,
those of the element, and those left to the pool, and what it does on the way. -/
def notification (announced : Observation) (consulted : List Observation)
    (managed own left : List Invocation) : Except WorkflowError Unit × List Effect :=
  match Invocation.inTurn managed with
  | (.error err, fx) => (.error err, .noted [announced] :: fx)
  | (.ok (), fx) =>
    match Invocation.inTurn own with
    | (.error err, gx) => (.error err, .noted [announced] :: fx ++ .noted consulted :: gx)
    | (.ok (), gx) =>
      (.ok (), .noted [announced] :: fx ++ .noted consulted :: gx ++ left.map .submitted)

section

variable {ε : Type} [EventScope ε]

theorem does_notify {event : ε} {c : Context} {element : Element} {g : Groups ε}
    (there : EventScope.element ε c = .ok element)
    (found : (EventScope.groups e.catalogue c event).found = .ok g) :
    let manager : Registry ε := EventScope.manager e.settings
    let script := notification
      (.dispatched (EventFamily.family ε) (EventFamily.name event) c.snapshot)
      ((EventScope.groups e.catalogue c event).consultations.map .consulted)
      ((manager.sync event).map (·.invocation element c.snapshot false))
      (g.sync.map (·.invocation element c.snapshot false))
      ((manager.async event ++ g.async).map (·.invocation element c.snapshot true))
    e.Does script.2 (·.notify event c) (script.1, ·) := by
  intro manager script x
  unfold notify
  dsimp only [script, notification]
  rw [there]
  dsimp only
  rw [show (e.against x).settings = e.settings from rfl]
  generalize (manager.sync event).map (·.invocation element c.snapshot false) = managed
  generalize Observation.dispatched (EventFamily.family ε) (EventFamily.name event) c.snapshot =
    announced
  have begun : (e.against x).note announced = (e.against x).performAll [.noted [announced]] := rfl
  rw [runAll_eq, begun, ← performAll_append]
  rcases Invocation.inTurn managed with ⟨err | ⟨⟩, fx⟩
  · rfl
  · dsimp only
    rw [show ((e.against x).performAll _).catalogue = e.catalogue from
      catalogue_performAll (e.against x) _, found]
    dsimp only
    generalize g.sync.map (·.invocation element c.snapshot false) = own
    rw [runAll_eq]
    rcases Invocation.inTurn own with ⟨err | ⟨⟩, gx⟩
    · rw [performAll_append _ _ (_ :: gx)]
      rfl
    · rw [performAll_append _ (_ ++ _), performAll_append _ _ (_ :: gx)]
      exact congrArg (Prod.mk _) (submitAll_eq _ _)

end

/-! ## Rows -/

theorem insertTask_against (e x : Engine TaskTable σ) (row : TaskRow) :
    (e.against x).insertTask row =
      (.ok (e.tasks.fresh row), (e.against x).performAll [.stored (e.tasks.insert row)]) :=
  rfl

theorem updateTask_against (e x : Engine TaskTable σ) {row saved : TaskRow} {t : TaskTable}
    (updated : e.tasks.update row = (.ok saved, t)) :
    (e.against x).updateTask row = (.ok saved, (e.against x).performAll [.stored t]) := by
  unfold updateTask
  rw [show TaskStore.update (e.against x).tasks row = (.ok saved, t) from updated]
  rfl

omit [EventStore σ] in
theorem updateTask_against_of_error (e x : Engine TaskTable σ) {row : TaskRow} {err : StoreError}
    (refused : e.tasks.update row = (.error err, e.tasks)) :
    (e.against x).updateTask row = (.error (.store err), e.against x) := by
  unfold updateTask
  rw [show TaskStore.update (e.against x).tasks row = (.error err, e.tasks) from refused]
  rfl

end Engine

end ApprovalFlow
