import ApprovalFlow.Engine.Notify
import Mathlib.Logic.Basic

/-!
# What a notification does to the engine

A notification writes to the event log, to the pools and to the trace, and to nothing else.

* `Engine.Heard`: one state of the engine comes from another by running listeners and dispatching
  events. It is closed under composition (`Heard.trans`), so each operation needs one lemma.
* `Engine.heard_notify`: a notification dispatches its event once, and every listener that runs
  then runs for that event's element and sees the same snapshot.
* `Engine.notify_eq_ok_iff`: a notification succeeds exactly when every listener in line does.
-/

namespace ApprovalFlow

/-- An event that was dispatched. -/
structure Dispatch where
  family : Family
  event : String
  snapshot : Snapshot

namespace Observation

/-- The event that was dispatched, if one was. -/
def dispatch? : Observation → Option Dispatch
  | dispatched family event snapshot => some ⟨family, event, snapshot⟩
  | _ => none

/-- An observation of one family that shows one snapshot. -/
def Shows (family : Family) (snapshot : Snapshot) : Observation → Prop
  | dispatched f _ s => f = family ∧ s = snapshot
  | consulted _ => True
  | ran f _ _ _ s => f = family ∧ s = snapshot

end Observation

/-- The events that were dispatched, in order. -/
def dispatches (trace : List Observation) : List Dispatch :=
  trace.filterMap Observation.dispatch?

theorem dispatches_append (first last : List Observation) :
    dispatches (first ++ last) = dispatches first ++ dispatches last :=
  List.filterMap_append

theorem Context.element_of_current {c : Context} {t : Task} (current : c.current = some t) :
    EventScope.element TaskEvent c = .ok ⟨t.name, t.displayName⟩ := by
  simp only [EventScope.element, task, current]
  rfl

namespace Engine

variable {τ σ : Type}

/-- The second state comes from the first by running listeners and dispatching some events. Every
observation made on the way has a property. -/
structure Heard (about : Observation → Prop) (events : List Dispatch) (e e' : Engine τ σ) :
    Prop where
  settings : e'.settings = e.settings
  now : e'.now = e.now
  tasks : e'.tasks = e.tasks
  catalogue : e'.catalogue = e.catalogue
  trace : ∃ more, e'.trace = e.trace ++ more ∧ dispatches more = events ∧ ∀ o ∈ more, about o

variable {about : Observation → Prop} {e e' e'' : Engine τ σ}

theorem Heard.refl (e : Engine τ σ) : Heard about [] e e :=
  ⟨rfl, rfl, rfl, rfl, [], by simp, rfl, by simp⟩

theorem Heard.trans {first last : List Dispatch} (left : Heard about first e e')
    (right : Heard about last e' e'') : Heard about (first ++ last) e e'' := by
  obtain ⟨more, traceLeft, firstEvents, firstAbout⟩ := left.trace
  obtain ⟨rest, traceRight, lastEvents, lastAbout⟩ := right.trace
  refine ⟨right.settings.trans left.settings, right.now.trans left.now,
    right.tasks.trans left.tasks, right.catalogue.trans left.catalogue, more ++ rest, ?_, ?_, ?_⟩
  · rw [traceRight, traceLeft, List.append_assoc]
  · rw [dispatches_append, firstEvents, lastEvents]
  · intro o member
    rcases List.mem_append.1 member with early | late
    · exact firstAbout o early
    · exact lastAbout o late

/-- Steps that dispatch nothing add nothing. -/
theorem Heard.trans_nil {events : List Dispatch} (left : Heard about events e e')
    (right : Heard about [] e' e'') : Heard about events e e'' := by
  have both := left.trans right
  rw [List.append_nil] at both
  exact both

/-- Noting one observation. -/
theorem heard_note {o : Observation} (shown : about o) (e : Engine τ σ) :
    Heard about o.dispatch?.toList e (e.note o) := by
  refine ⟨rfl, rfl, rfl, rfl, [o], rfl, ?_, by simpa using shown⟩
  cases h : o.dispatch? <;> simp [dispatches, h]

theorem heard_noteConsulted (all : ∀ consultation, about (.consulted consultation))
    (e : Engine τ σ) (consultations : List Consultation) :
    Heard about [] e (e.noteConsulted consultations) := by
  refine ⟨rfl, rfl, rfl, rfl, consultations.map .consulted, rfl, ?_, ?_⟩
  · rw [dispatches, List.filterMap_eq_nil_iff]
    intro o member
    obtain ⟨consultation, -, rfl⟩ := List.mem_map.1 member
    rfl
  · intro o member
    obtain ⟨consultation, -, rfl⟩ := List.mem_map.1 member
    exact all consultation

theorem heard_withPool (e : Engine τ σ) (family : Family) (p : Pool Invocation) :
    Heard about [] e (e.withPool family p) := by
  cases family <;> exact ⟨rfl, rfl, rfl, rfl, [], by simp [withPool], rfl, by simp⟩

/-! ## Runs of listeners -/

variable [EventStore σ]

/-- A recorded run shows up in the trace as one observation. -/
theorem heard_run {i : Invocation} (shown : about i.observation) (e : Engine τ σ) :
    Heard about [] e (e.run i).2 := by
  have noted : Heard about [] e ((e.beginRecord i).2.note i.observation) := by
    exact ⟨rfl, rfl, rfl, rfl, [i.observation], rfl, rfl, by simpa using shown⟩
  unfold run
  dsimp only
  cases saved : (e.beginRecord i).1 with
  | none => exact noted
  | some row =>
      refine noted.trans_nil ?_
      unfold endRecord
      dsimp only
      cases Invocation.closing row _ i.outcome with
      | none => exact Heard.refl _
      | some closed => exact ⟨rfl, rfl, rfl, rfl, [], by simp, rfl, by simp⟩

theorem heard_runInLine {i : Invocation} (shown : about i.observation) (e : Engine τ σ) :
    Heard about [] e (e.runInLine i).2 :=
  heard_run shown e

theorem heard_runAll {is : List Invocation} (shown : ∀ i ∈ is, about i.observation)
    (e : Engine τ σ) : Heard about [] e (e.runAll is).2 := by
  induction is generalizing e with
  | nil => exact Heard.refl e
  | cons i rest ih =>
      have first := heard_runInLine (shown i (List.mem_cons_self ..)) e
      unfold runAll
      rcases result : e.runInLine i with ⟨answer, e'⟩
      rw [result] at first
      cases answer with
      | error err => exact first
      | ok =>
          exact first.trans_nil (ih (fun i member => shown i (List.mem_cons_of_mem _ member)) e')

theorem heard_submit {i : Invocation} (shown : about i.observation) (e : Engine τ σ) :
    Heard about [] e (e.submit i) := by
  unfold submit
  dsimp only
  have queued : Heard about [] e (e.withPool i.family ((e.pool i.family).submit i)) :=
    heard_withPool e i.family _
  split
  · exact (queued.trans_nil (heard_run shown _)).trans_nil (heard_withPool _ _ _)
  · exact queued

theorem heard_submitAll {is : List Invocation} (shown : ∀ i ∈ is, about i.observation)
    (e : Engine τ σ) : Heard about [] e (e.submitAll is) := by
  unfold submitAll
  induction is generalizing e with
  | nil => exact Heard.refl e
  | cons i rest ih =>
      have first := heard_submit (shown i (List.mem_cons_self ..)) e
      exact first.trans_nil (ih (fun i member => shown i (List.mem_cons_of_mem _ member)) _)

/-- Draining a pool runs what is queued, whatever it shows. -/
theorem heard_drain (e : Engine τ σ) : Heard (fun _ => True) [] e e.drain := by
  have queue : ∀ (family : Family) (fuel : Nat) (e : Engine τ σ),
      Heard (fun _ => True) [] e (runQueued family fuel e) := by
    intro family fuel
    induction fuel with
    | zero => exact Heard.refl
    | succ fuel ih =>
        intro e
        unfold runQueued
        cases (e.pool family).take 0 with
        | none => exact Heard.refl e
        | some taken =>
            have run : Heard (fun _ => True) [] e
                ((e.withPool family taken.2).run taken.1.work).2 :=
              (heard_withPool e family taken.2).trans_nil (heard_run trivial _)
            exact (run.trans_nil (heard_withPool _ _ _)).trans_nil (ih _)
  exact (queue .process _ e).trans_nil (queue .task _ _)

/-! ## Notifications -/

variable {ε : Type} [EventScope ε]

/-- What notifying of an event dispatches: the event, if the context is at an element. -/
def announced (event : ε) (c : Context) : List Dispatch :=
  match EventScope.element ε c with
  | .error _ => []
  | .ok _ => [⟨EventFamily.family ε, EventFamily.name event, c.snapshot⟩]

omit [EventStore σ] in
theorem shows_invocation (l : Listener ε) (element : Element) (snapshot : Snapshot)
    (isAsync : Bool) :
    (l.invocation element snapshot isAsync).observation.Shows (EventFamily.family ε) snapshot :=
  ⟨rfl, rfl⟩

omit [EventStore σ] in
theorem shows_invocations (ls : List (Listener ε)) (element : Element) (snapshot : Snapshot)
    (isAsync : Bool) :
    ∀ i ∈ ls.map (·.invocation element snapshot isAsync),
      i.observation.Shows (EventFamily.family ε) snapshot := by
  intro i member
  obtain ⟨l, -, rfl⟩ := List.mem_map.1 member
  exact shows_invocation l element snapshot isAsync

/-- A notification dispatches its event and nothing else, and all that runs in it sees the snapshot
that was dispatched. -/
theorem heard_notify (e : Engine τ σ) (event : ε) (c : Context) :
    Heard (·.Shows (EventFamily.family ε) c.snapshot) (announced event c) e
      (e.notify event c).2 := by
  unfold notify announced
  cases EventScope.element ε c with
  | error err => exact Heard.refl e
  | ok element =>
      dsimp only
      have noted : Heard (·.Shows (EventFamily.family ε) c.snapshot)
          [⟨EventFamily.family ε, EventFamily.name event, c.snapshot⟩] e
          (e.note (.dispatched (EventFamily.family ε) (EventFamily.name event) c.snapshot)) :=
        heard_note (o := .dispatched _ _ _) (And.intro rfl rfl) e
      generalize e.note _ = e₁ at noted ⊢
      have managed := noted.trans_nil (heard_runAll (shows_invocations
        ((EventScope.manager e.settings : Registry ε).sync event) element c.snapshot false) e₁)
      rcases result : e₁.runAll _ with ⟨answer, e₂⟩
      rw [result] at managed
      cases answer with
      | error err => exact managed
      | ok =>
          have asked := managed.trans_nil (heard_noteConsulted (fun _ => trivial) e₂
            (EventScope.groups e₂.catalogue c event).consultations)
          dsimp only
          generalize e₂.noteConsulted _ = e₃ at asked ⊢
          cases (EventScope.groups e₂.catalogue c event).found with
          | error err => exact asked
          | ok groups =>
              have served := asked.trans_nil
                (heard_runAll (shows_invocations groups.sync element c.snapshot false) e₃)
              dsimp only
              rcases result : e₃.runAll _ with ⟨answer, e₄⟩
              rw [result] at served
              cases answer with
              | error err => exact served
              | ok => exact served.trans_nil (heard_submitAll (shows_invocations _ _ _ _) e₄)

omit [EventStore σ] in
theorem announced_of_current {c : Context} {t : Task} (current : c.current = some t)
    (event : TaskEvent) : announced event c = [⟨.task, event.name, c.snapshot⟩] := by
  rw [announced, Context.element_of_current current]
  rfl

/-- A notification of an event of the task that a context is at dispatches it once. -/
theorem dispatches_notify {c : Context} {t : Task} (current : c.current = some t)
    (e : Engine τ σ) (event : TaskEvent) :
    dispatches (e.notify event c).2.trace =
      dispatches e.trace ++ [⟨.task, event.name, c.snapshot⟩] := by
  obtain ⟨more, trace, told, -⟩ := (heard_notify e event c).trace
  rw [trace, dispatches_append, told, announced_of_current current]

theorem toResult_eq_ok_iff (listener : String) (outcome : Outcome) :
    outcome.toResult listener = .ok () ↔ outcome = .success := by
  cases outcome <;> simp [Outcome.toResult]

/-- Listeners in line succeed together exactly when each of them does. -/
theorem runAll_eq_ok_iff (e : Engine τ σ) (is : List Invocation) :
    (e.runAll is).1 = .ok () ↔ ∀ i ∈ is, i.outcome = .success := by
  induction is generalizing e with
  | nil => simp [runAll]
  | cons i rest ih =>
      have answer : (e.runInLine i).1 = i.outcome.toResult i.listener :=
        congrArg (Outcome.toResult i.listener) (run_outcome e i)
      unfold runAll
      rw [List.forall_mem_cons, ← toResult_eq_ok_iff i.listener, ← answer]
      rcases e.runInLine i with ⟨_ | _, e'⟩
      · simp
      · simpa using ih e'

theorem runAll_invocations_eq_ok_iff (e : Engine τ σ) (ls : List (Listener ε)) (element : Element)
    (snapshot : Snapshot) :
    (e.runAll (ls.map (·.invocation element snapshot false))).1 = .ok () ↔
      ∀ l ∈ ls, l.respond snapshot = .success := by
  rw [runAll_eq_ok_iff, List.forall_mem_map]
  exact Iff.rfl

/-- A notification succeeds exactly when the element's listeners are found and every listener in
line succeeds, those registered for all processes and the element's. -/
theorem notify_eq_ok_iff (e : Engine τ σ) (event : ε) (c : Context) :
    (e.notify event c).1 = .ok () ↔
      ∃ element groups, EventScope.element ε c = .ok element ∧
        (EventScope.groups e.catalogue c event).found = .ok groups ∧
        ∀ l ∈ (EventScope.manager e.settings : Registry ε).sync event ++ groups.sync,
          l.respond c.snapshot = .success := by
  unfold notify
  cases EventScope.element ε c with
  | error err => simp
  | ok element =>
      dsimp only
      have kept : (e.note (.dispatched (EventFamily.family ε) (EventFamily.name event)
        c.snapshot)).catalogue = e.catalogue := rfl
      generalize e.note _ = e₁ at kept ⊢
      have heard : Heard (fun _ => True) [] e₁
          (e₁.runAll (((EventScope.manager e.settings : Registry ε).sync event).map
            (·.invocation element c.snapshot false))).2 :=
        heard_runAll (by simp) e₁
      have managed := runAll_invocations_eq_ok_iff e₁
        ((EventScope.manager e.settings : Registry ε).sync event) element c.snapshot
      rcases result : e₁.runAll _ with ⟨answer, e₂⟩
      rw [result] at heard managed
      rw [← kept, ← heard.catalogue]
      cases answer with
      | error err =>
          simp only [reduceCtorEq, false_iff] at managed ⊢
          rintro ⟨_, groups, -, -, all⟩
          exact managed fun l member => all l (List.mem_append_left _ member)
      | ok =>
          dsimp only
          generalize e₂.noteConsulted _ = e₃
          cases (EventScope.groups e₂.catalogue c event).found with
          | error err => simp
          | ok groups =>
              have served := runAll_invocations_eq_ok_iff e₃ groups.sync element c.snapshot
              dsimp only
              rcases result : e₃.runAll _ with ⟨answer, e₄⟩
              rw [result] at served
              cases answer with
              | error err =>
                  simp only [reduceCtorEq, false_iff] at served ⊢
                  rintro ⟨_, _, -, found, all⟩
                  cases found
                  exact served fun l member => all l (List.mem_append_right _ member)
              | ok =>
                  simp only [true_iff] at managed served ⊢
                  refine ⟨element, groups, rfl, rfl, ?_⟩
                  intro l member
                  rcases List.mem_append.1 member with first | last
                  · exact managed l first
                  · exact served l last

end Engine

end ApprovalFlow
