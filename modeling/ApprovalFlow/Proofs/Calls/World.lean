import ApprovalFlow.Proofs.Calls.Stage
import ApprovalFlow.Proofs.Checks
import ApprovalFlow.Proofs.Notify

/-!
# Calls that share a table

Any number of calls share one table of task rows. `World` is the engine, every copy of a row that
has ever been handed out, and the calls so far; `World.Step` begins a call, lets one proceed by a
step, or changes anything of the engine but the table, since callers need not share listeners,
clocks or pools. A completion acts on a copy that was handed out at some time, however old.

A call keeps its own turns, so that what it stored (`Call.stored`) and what came of it
(`Call.observed`) can be told from what others did in between.
-/

namespace ApprovalFlow

variable {σ : Type}

/-- One step of a call: the engine before it and after it. -/
structure Turn (σ : Type) where
  before : Engine TaskTable σ
  after : Engine TaskTable σ

namespace Turn

/-- The rows that some steps put into the table. -/
def stored (turns : List (Turn σ)) : List TaskRow :=
  turns.flatMap fun turn => turn.before.tasks.added turn.after.tasks

/-- What was observed of some steps. -/
def observed (turns : List (Turn σ)) : List Observation :=
  turns.flatMap fun turn => turn.after.trace.drop turn.before.trace.length

/-- No step has made any difference. -/
def Quiet (turns : List (Turn σ)) : Prop :=
  ∀ turn ∈ turns, turn.after = turn.before

theorem stored_concat (turns : List (Turn σ)) (e e' : Engine TaskTable σ) :
    stored (turns ++ [⟨e, e'⟩]) = stored turns ++ e.tasks.added e'.tasks := by
  simp [stored]

theorem observed_concat (turns : List (Turn σ)) (e e' : Engine TaskTable σ) :
    observed (turns ++ [⟨e, e'⟩]) = observed turns ++ e'.trace.drop e.trace.length := by
  simp [observed]

theorem quiet_nil : Quiet ([] : List (Turn σ)) := by
  intro turn member
  cases member

theorem Quiet.concat {turns : List (Turn σ)} (quiet : Quiet turns) (e : Engine TaskTable σ) :
    Quiet (turns ++ [⟨e, e⟩]) := by
  intro turn member
  rcases List.mem_append.1 member with old | new
  · exact quiet turn old
  · rw [List.mem_singleton.1 new]

theorem Quiet.stored_eq_nil {turns : List (Turn σ)} (quiet : Quiet turns) : stored turns = [] := by
  rw [stored, List.flatMap_eq_nil_iff]
  intro turn member
  rw [quiet turn member, TaskTable.added_self]

theorem Quiet.observed_eq_nil {turns : List (Turn σ)} (quiet : Quiet turns) :
    observed turns = [] := by
  rw [observed, List.flatMap_eq_nil_iff]
  intro turn member
  rw [quiet turn member, List.drop_length]

end Turn

/-- A call: what was asked for, where it stands, and the steps it has made. -/
structure Call (σ : Type) where
  entry : Stage
  stage : Stage
  turns : List (Turn σ)

namespace Call

/-- A call that has made no step. -/
def begun (entry : Stage) : Call σ := ⟨entry, entry, []⟩

/-- The call after one more turn. -/
def turned (call : Call σ) (stage : Stage) (before after : Engine TaskTable σ) : Call σ :=
  ⟨call.entry, stage, call.turns ++ [⟨before, after⟩]⟩

/-- The rows that the call's own steps put into the table. -/
def stored (call : Call σ) : List TaskRow :=
  Turn.stored call.turns

/-- What was observed of the call's own steps. -/
def observed (call : Call σ) : List Observation :=
  Turn.observed call.turns

/-- No step of the call has made any difference. -/
def Quiet (call : Call σ) : Prop :=
  Turn.Quiet call.turns

/-- The copy that a completion acts on. -/
def acted (call : Call σ) : Option TaskRow :=
  match call.entry with
  | .completing p c => c.acted p
  | _ => none

end Call

/-- A call that may be made: to enter a known task, or to complete one by a copy that was
obtained. -/
inductive Stage.Asked (known : Task → Prop) (obtained : TaskRow → Prop) : Stage → Prop
  | enter {p : Processor} {t : Task} {c : Context} : known t →
    Asked known obtained (.entering p t c)
  | complete {p : Processor} {c : Context} :
    (∀ t, c.current = some t → known t) → (∀ row, c.acted p = some row → obtained row) →
    Asked known obtained (.completing p c)

theorem Stage.Asked.mono {known : Task → Prop} {obtained obtained' : TaskRow → Prop} {entry : Stage}
    (asked : entry.Asked known obtained) (weaker : ∀ row, obtained row → obtained' row) :
    entry.Asked known obtained' := by
  cases asked with
  | enter isKnown => exact .enter isKnown
  | complete isKnown copied => exact .complete isKnown fun row h => weaker row (copied row h)

/-- The engine, the copies handed out so far, and the calls. -/
structure World (σ : Type) where
  engine : Engine TaskTable σ
  copies : List TaskRow
  calls : List (Call σ)

namespace World

/-- The rows that are stored. -/
def rows (w : World σ) : List TaskRow :=
  w.engine.tasks.rows

variable [EventStore σ]

/-- A call makes its next step. What the table has then can be copied. -/
def proceed (w : World σ) (i : Nat) (call : Call σ) : World σ :=
  let (stage, e) := call.stage.step w.engine
  ⟨e, w.copies ++ e.tasks.rows, w.calls.set i (call.turned stage w.engine e)⟩

/-- One thing happens. -/
inductive Step (known : Task → Prop) : World σ → World σ → Prop
  /-- A call is made. -/
  | begin {w : World σ} {entry : Stage} : entry.Asked known (· ∈ w.copies) →
    Step known w { w with calls := w.calls ++ [.begun entry] }
  /-- A call makes a step. -/
  | proceed {w : World σ} {i : Nat} {call : Call σ} : w.calls[i]? = some call →
    Step known w (w.proceed i call)
  /-- The rest of the engine changes. -/
  | meanwhile {w : World σ} {e : Engine TaskTable σ} : e.tasks = w.engine.tasks →
    Step known w { w with engine := e }

/-- A world after another. -/
abbrev Later (known : Task → Prop) : World σ → World σ → Prop :=
  Relation.ReflTransGen (Step known)

/-- A world that comes from an empty table without calls. -/
def Reachable (known : Task → Prop) (w : World σ) : Prop :=
  ∃ e : Engine TaskTable σ, e.tasks = .empty ∧ Later known ⟨e, [], []⟩ w

theorem Reachable.later {known : Task → Prop} {w later : World σ} (reached : w.Reachable known)
    (h : Later known w later) : later.Reachable known := by
  obtain ⟨e, start, steps⟩ := reached
  exact ⟨e, start, steps.trans h⟩

/-- What may happen with some tasks may happen with more. -/
theorem Step.mono {known known' : Task → Prop} {w w' : World σ} (step : Step known w w')
    (more : ∀ t, known t → known' t) : Step known' w w' := by
  cases step with
  | begin asked =>
      cases asked with
      | enter isKnown => exact .begin (.enter (more _ isKnown))
      | complete isKnown copied =>
          exact .begin (.complete (fun t current => more t (isKnown t current)) copied)
  | proceed found => exact .proceed found
  | meanwhile same => exact .meanwhile same

theorem Reachable.mono {known known' : Task → Prop} {w : World σ} (reached : w.Reachable known)
    (more : ∀ t, known t → known' t) : w.Reachable known' := by
  obtain ⟨e, start, steps⟩ := reached
  exact ⟨e, start, Relation.ReflTransGen.mono (fun _ _ step => Step.mono step more) _ _ steps⟩

/-- The call at a place makes its next step, if there is one. -/
def turn (w : World σ) (i : Nat) : World σ :=
  match w.calls[i]? with
  | some call => w.proceed i call
  | none => w

/-- The calls at some places make their next steps, in order. -/
def schedule (w : World σ) (order : List Nat) : World σ :=
  order.foldl turn w

theorem later_schedule {known : Task → Prop} (w : World σ) (order : List Nat) :
    Later known w (w.schedule order) := by
  unfold schedule
  induction order generalizing w with
  | nil => exact Relation.ReflTransGen.refl
  | cons i rest ih =>
      refine Relation.ReflTransGen.trans ?_ (ih (w.turn i))
      unfold turn
      cases found : w.calls[i]? with
      | none => exact Relation.ReflTransGen.refl
      | some call => exact Relation.ReflTransGen.single (.proceed found)

/-- A call may be made at any time. -/
theorem Reachable.begins {known : Task → Prop} {w : World σ} (reached : w.Reachable known)
    {entry : Stage} (asked : entry.Asked known (· ∈ w.copies)) :
    ({ w with calls := w.calls ++ [.begun entry] } : World σ).Reachable known :=
  reached.later (Relation.ReflTransGen.single (.begin asked))

/-- And calls may proceed in any order. -/
theorem Reachable.schedules {known : Task → Prop} {w : World σ} (reached : w.Reachable known)
    (order : List Nat) : (w.schedule order).Reachable known :=
  reached.later (later_schedule w order)

end World

end ApprovalFlow
