import ApprovalFlow.Proofs.Replay.Trail
import Mathlib.Logic.Relation

/-!
# A replay, moment by moment

`Replay.run` is one function from the start to the report. Here the same replay is cut where the
table, the state of the process or the queue of names can change: `Moment` is what there is between
two such moves and `Moment.next` the next move, made of the replay's own operations. A walk takes
its names one by one and without a budget, so that a walk that goes round in a circle has all its
moments.

* `Moment.answers_run`: the run of a replay ends where its moments lead to.
* `Moment.Leads.total`: there is only one way on.
-/

namespace ApprovalFlow

/-- Where a replay stands. -/
inductive Phase where
  /-- Nothing has happened. -/
  | opening
  /-- A step takes names off the queue: what its outcome begins with, the names that are left, and
  the names taken. -/
  | walking (step before : String) (queue entered : List String)
  /-- A step has ended; the next action may come. -/
  | resting
  /-- An action has closed its row; what follows from it is to come. -/
  | following (spec : ActionSpec) (t : Task) (c : Context) (taskId : Int)
  /-- The replay has ended without a report. -/
  | broken (failure : ReplayFailure)

/-- A replay, where it stands, and the actions that are still to come. -/
structure Moment where
  replay : Replay
  phase : Phase
  actions : List ActionSpec

namespace Replay

/-- The context in which an action is applied to a row. -/
def actionContext (r : Replay) (spec : ActionSpec) (t : Task) (row : TaskRow) : Context :=
  { r.context with
    current := some t
    action := some ⟨spec.action, spec.operator, spec.remark, spec.form, spec.transferTo, row⟩ }

/-- The name of the step that starts the process. -/
def startName (r : Replay) : String :=
  "start " ++ r.definition.name

/-- What comes of an action when its row has been dealt with. -/
def dealWith (t : Task) (spec : ActionSpec) (reply : Except WorkflowError Bool × Context)
    (r : Replay) : Except Halt String × Replay :=
  match reply.1 with
  | .error err => (.error (.failed err), r)
  | .ok _ =>
    match reply.2.request with
    | .error err => (.error (.failed err), r)
    | .ok a => r.followUp t reply.2 a.row.id spec

theorem apply_of_untargeted {r : Replay} {spec : ActionSpec} {err : WorkflowError}
    (found : r.target spec = .error err) : r.apply spec = (.error (.failed err), r) := by
  unfold apply
  rw [found]

theorem apply_of_target {r : Replay} {spec : ActionSpec} {t : Task} {row : TaskRow}
    (found : r.target spec = .ok (t, row)) {answer : Except WorkflowError Bool} {c : Context}
    {e : Engine TaskTable EventLog}
    (completed : (Processor.ofTask t).complete (r.actionContext spec t row) r.engine =
      ⟨answer, c, e⟩) :
    r.apply spec = dealWith t spec (answer, c) { r with engine := e } := by
  unfold actionContext at completed
  unfold apply
  rw [found]
  dsimp only
  rw [completed]
  cases answer with
  | error err => rfl
  | ok done =>
      cases request : c.request with
      | error err => simp only [dealWith, request]
      | ok a => simp only [dealWith, request]

end Replay

namespace Moment

/-- A replay before its first step. -/
def begun (r : Replay) (actions : List ActionSpec) : Moment :=
  ⟨r, .opening, actions⟩

/-- The end of a step. -/
def settle (r : Replay) (actions : List ActionSpec) (step : String)
    (result : Except WorkflowError String) : Moment :=
  match r.record step (Replay.lift result) with
  | .ok r => ⟨r, .resting, actions⟩
  | .error failure => ⟨r, .broken failure, actions⟩

/-- The moment after an action has closed its row, or has failed to. -/
def applied (r : Replay) (actions : List ActionSpec) (spec : ActionSpec) (t : Task)
    (reply : Reply TaskTable EventLog Bool) : Moment :=
  match reply with
  | ⟨.error err, _, e⟩ => settle { r with engine := e } actions (Replay.stepName spec) (.error err)
  | ⟨.ok _, c, e⟩ =>
    match c.request with
    | .error err => settle { r with engine := e } actions (Replay.stepName spec) (.error err)
    | .ok a => ⟨{ r with engine := e }, .following spec t c a.row.id, actions⟩

/-- The moment after the successors of an approved task have been worked out. -/
def approved (r : Replay) (actions : List ActionSpec) (spec : ActionSpec) (taskId : Int)
    (successors : Except WorkflowError (List String) × Engine TaskTable EventLog) : Moment :=
  match successors with
  | (.error err, e) => settle { r with engine := e } actions (Replay.stepName spec) (.error err)
  | (.ok [], e) => settle { r with engine := e } actions (Replay.stepName spec)
      (.ok ("task " ++ toString taskId ++ " approved, waiting on other approvers"))
  | (.ok (name :: rest), e) => ⟨{ r with engine := e }, .walking (Replay.stepName spec)
      ("task " ++ toString taskId ++ " approved, ") (name :: rest) [], actions⟩

/-- The moment after an action has closed the process. -/
def closed (r : Replay) (actions : List ActionSpec) (spec : ActionSpec) (taskId : Int)
    (status : ProcessStatus) (event : ProcessEvent) (word : String) : Moment :=
  settle (r.close status event).2 actions (Replay.stepName spec)
    ((r.close status event).1.map fun _ =>
      "task " ++ toString taskId ++ " " ++ word ++ ", process " ++ word)

/-- The moment after a name has been taken off the queue. -/
def visited (actions : List ActionSpec) (step before : String) (rest entered : List String)
    (answer : Except WorkflowError (List String) × Replay) : Moment :=
  match answer with
  | (.error err, r) => settle r actions step (.error err)
  | (.ok names, r) => ⟨r, .walking step before (rest ++ names) entered, actions⟩

/-- The next moment; none if the replay has ended. -/
def next : Moment → Option Moment
  | ⟨r, .opening, actions⟩ =>
    match r.notifyProcess .create r.context with
    | (.error err, r) => some (settle r actions r.startName (.error err))
    | (.ok (), r) => some ⟨r, .walking r.startName "" r.definition.start [], actions⟩
  | ⟨r, .walking step before [] entered, actions⟩ =>
    some (settle r actions step
      (.ok (before ++ ("entered " ++ String.intercalate " -> " entered))))
  | ⟨r, .walking step before (name :: rest) entered, actions⟩ =>
    some (visited actions step before rest (entered ++ [name]) (r.visit name))
  | ⟨_, .resting, []⟩ => none
  | ⟨r, .resting, spec :: actions⟩ =>
    match r.target spec with
    | .error err => some (settle r actions (Replay.stepName spec) (.error err))
    | .ok (t, row) =>
      some (applied r actions spec t
        ((Processor.ofTask t).complete (r.actionContext spec t row) r.engine))
  | ⟨r, .following spec t c taskId, actions⟩ =>
    match spec.action with
    | .approve | .complete =>
      some (approved r actions spec taskId ((Processor.ofTask t).next t c r.engine))
    | .transfer =>
      some (settle (r.transfer t c spec.transferTo).2 actions (Replay.stepName spec)
        ((r.transfer t c spec.transferTo).1.map fun id =>
          "task " ++ toString taskId ++ " transferred to row " ++ toString id))
    | .reject => some (closed r actions spec taskId .rejected .reject "rejected")
    | .cancel => some (closed r actions spec taskId .canceled .cancel "canceled")
    | .terminate => some (closed r actions spec taskId .terminated .terminate "terminated")
    | .start =>
      some (settle r actions (Replay.stepName spec)
        (.error (.invalidAction "START cannot be applied to a task")))
  | ⟨_, .broken _, _⟩ => none

/-- The second moment comes some moves after the first, or is the first. -/
abbrev Leads : Moment → Moment → Prop :=
  Relation.ReflTransGen fun m m' => m.next = some m'

theorem Leads.single {m m' : Moment} (h : m.next = some m') : Leads m m' :=
  Relation.ReflTransGen.single h

/-- Of two moments that come after one, one comes after the other. -/
theorem Leads.total {m left right : Moment} (toLeft : Leads m left) (toRight : Leads m right) :
    Leads left right ∨ Leads right left := by
  refine Relation.ReflTransGen.total_of_right_unique ?_ toLeft toRight
  intro m m' m'' first second
  rw [first] at second
  exact Option.some.inj second

/-- Every moment of a replay that ends leads to its end. -/
theorem Leads.to_end {m middle last : Moment} (toMiddle : Leads m middle) (toLast : Leads m last)
    (ended : last.next = none) : Leads middle last := by
  rcases toMiddle.total toLast with on | back
  · exact on
  · rcases Relation.ReflTransGen.cases_head back with rfl | ⟨after, step, -⟩
    · exact Relation.ReflTransGen.refl
    · rw [ended] at step
      cases step

/-- The moment some moves later, or the last one if the replay has ended by then. -/
def after : Nat → Moment → Moment
  | 0, m => m
  | n + 1, m =>
    match m.next with
    | some m' => after n m'
    | none => m

theorem leads_after (n : Nat) (m : Moment) : Leads m (m.after n) := by
  induction n generalizing m with
  | zero => exact Relation.ReflTransGen.refl
  | succ n ih =>
      unfold after
      cases h : m.next with
      | none => exact Relation.ReflTransGen.refl
      | some m' => exact Relation.ReflTransGen.head h (ih m')

/-- Whether a replay ends within some moves and all its moments pass a test. -/
def passes (test : Moment → Bool) : Nat → Moment → Bool
  | 0, _ => false
  | n + 1, m => test m &&
    match m.next with
    | some m' => passes test n m'
    | none => true

theorem Leads.of_passes {test : Moment → Bool} {n : Nat} {m m' : Moment} (leads : Leads m m')
    (passed : m.passes test n = true) : test m' = true := by
  induction leads using Relation.ReflTransGen.head_induction_on generalizing n with
  | refl =>
      cases n with
      | zero => cases passed
      | succ n =>
          unfold passes at passed
          exact (Bool.and_eq_true_iff.1 passed).1
  | head h _ ih =>
      cases n with
      | zero => cases passed
      | succ n =>
          unfold passes at passed
          rw [h] at passed
          exact ih (Bool.and_eq_true_iff.1 passed).2

/-! ## The run of a replay -/

/-- Where a step of a replay leads to, by its outcome: to rest, to the end without a report, or to
walking on without an end. -/
def EndsIn (m : Moment) (actions : List ActionSpec) : Except ReplayFailure Replay → Prop
  | .ok r => Leads m ⟨r, .resting, actions⟩
  | .error ⟨step, .failed err⟩ => ∃ r, Leads m ⟨r, .broken ⟨step, .failed err⟩, actions⟩
  | .error ⟨step, .endless⟩ => ∃ r before name queue entered,
      Leads m ⟨r, .walking step before (name :: queue) entered, actions⟩

theorem EndsIn.of_leads {m m' : Moment} {actions : List ActionSpec}
    {outcome : Except ReplayFailure Replay} (first : Leads m m')
    (ends : EndsIn m' actions outcome) : EndsIn m actions outcome := by
  match outcome, ends with
  | .ok _, on => exact first.trans on
  | .error ⟨_, .failed _⟩, ⟨r, on⟩ => exact ⟨r, first.trans on⟩
  | .error ⟨_, .endless⟩, ⟨r, before, name, queue, entered, on⟩ =>
      exact ⟨r, before, name, queue, entered, first.trans on⟩

theorem endsIn_settle (r : Replay) (actions : List ActionSpec) (step : String)
    (result : Except WorkflowError String) :
    EndsIn (settle r actions step result) actions (r.record step (Replay.lift result)) := by
  unfold settle
  rcases recorded : r.record step (Replay.lift result) with ⟨step', err | ⟨⟩⟩ | r'
  · exact ⟨r, Relation.ReflTransGen.refl⟩
  · -- Only a walk is endless, and a settled step is none.
    unfold Replay.record Replay.lift at recorded
    cases result with
    | ok outcome => cases recorded
    | error err =>
        dsimp only at recorded
        split at recorded
        · cases recorded
        · cases recorded
  · exact Relation.ReflTransGen.refl

/-- Where a walk with a budget leads to, by its answer. -/
def WalksTo (m : Moment) (step before : String) (actions : List ActionSpec) :
    Except Halt (List String) × Replay → Prop
  | (.ok names, r) => Leads m ⟨r, .walking step before [] names, actions⟩
  | (.error (.failed err), r) => Leads m (settle r actions step (.error err))
  | (.error .endless, r) => ∃ name rest names,
      Leads m ⟨r, .walking step before (name :: rest) names, actions⟩

theorem WalksTo.of_leads {m m' : Moment} {step before : String} {actions : List ActionSpec}
    {answer : Except Halt (List String) × Replay} (first : Leads m m')
    (walks : WalksTo m' step before actions answer) : WalksTo m step before actions answer := by
  match answer, walks with
  | (.ok _, _), on => exact first.trans on
  | (.error (.failed _), _), on => exact first.trans on
  | (.error .endless, _), ⟨name, rest, names, on⟩ => exact ⟨name, rest, names, first.trans on⟩

/-- A walk with a budget goes the way of the moments as far as it comes. -/
theorem walksTo_walk (fuel : Nat) (queue entered : List String) (r : Replay) (step before : String)
    (actions : List ActionSpec) :
    WalksTo ⟨r, .walking step before queue entered, actions⟩ step before actions
      (Replay.walk fuel queue entered r) := by
  induction fuel generalizing queue entered r with
  | zero =>
      cases queue with
      | nil => exact Relation.ReflTransGen.refl
      | cons name rest => exact ⟨name, rest, entered, Relation.ReflTransGen.refl⟩
  | succ fuel ih =>
      cases queue with
      | nil => exact Relation.ReflTransGen.refl
      | cons name rest =>
          unfold Replay.walk
          rcases answer : r.visit name with ⟨err | names, r'⟩
          · exact Leads.single (by simp only [next, answer, visited])
          · exact (ih (rest ++ names) (entered ++ [name]) r').of_leads
              (Leads.single (by simp only [next, answer, visited]))

/-- Going to some tasks is walking until the step ends. -/
theorem endsIn_advance (r : Replay) (names : List String) (step before : String)
    (actions : List ActionSpec) :
    EndsIn ⟨r, .walking step before names [], actions⟩ actions
      ((r.advance names).2.record step ((r.advance names).1.map (before ++ ·))) := by
  have walks := walksTo_walk (Replay.budget r.definition names) names [] r step before actions
  unfold Replay.advance
  rcases walked : Replay.walk (Replay.budget r.definition names) names [] r with ⟨halt | all, r'⟩
  · rw [walked] at walks
    cases halt with
    | failed err => exact (endsIn_settle r' actions step (.error err)).of_leads walks
    | endless =>
        obtain ⟨name, rest, entered, on⟩ := walks
        exact ⟨r', before, name, rest, entered, on⟩
  · rw [walked] at walks
    have last : Leads ⟨r, .walking step before names [], actions⟩
        (settle r' actions step (.ok (before ++ ("entered " ++ String.intercalate " -> " all)))) :=
      Relation.ReflTransGen.tail walks rfl
    exact (endsIn_settle r' actions step (.ok _)).of_leads last

/-- The first step of a replay. -/
theorem endsIn_start (r : Replay) (actions : List ActionSpec) :
    EndsIn (begun r actions) actions r.start := by
  unfold Replay.start Replay.startProcess
  rcases told : r.notifyProcess .create r.context with ⟨err | ⟨⟩, r'⟩
  · have kept : r'.definition = r.definition := congrArg (·.2.definition) told.symm
    have first : Leads (begun r actions) (settle r' actions r'.startName (.error err)) :=
      Leads.single (by simp only [begun, next, told])
    dsimp only
    exact (endsIn_settle r' actions r'.startName (.error err)).of_leads first
  · have first : Leads (begun r actions)
        ⟨r', .walking r'.startName "" r'.definition.start [], actions⟩ :=
      Leads.single (by simp only [begun, next, told])
    have walked := endsIn_advance r' r'.definition.start r'.startName "" actions
    have same : ((r'.advance r'.definition.start).1.map ("" ++ ·)) =
        (r'.advance r'.definition.start).1 := by
      cases (r'.advance r'.definition.start).1 <;> simp [Except.map]
    rw [same] at walked
    dsimp only
    rw [(Replay.onward_advance r' r'.definition.start).definition]
    exact walked.of_leads first

/-- Going on to the successors of an approved task. -/
theorem endsIn_approved (r : Replay) (t : Task) (c : Context) (taskId : Int) (spec : ActionSpec)
    (actions : List ActionSpec) (approves : spec.action = .approve ∨ spec.action = .complete) :
    EndsIn (approved r actions spec taskId ((Processor.ofTask t).next t c r.engine)) actions
      ((r.followUp t c taskId spec).2.record (Replay.stepName spec)
        (r.followUp t c taskId spec).1) := by
  unfold Replay.followUp
  rcases approves with action | action
  all_goals
    rw [action]
    dsimp only
    rcases (Processor.ofTask t).next t c r.engine with ⟨err | ⟨_ | ⟨name, rest⟩⟩, e⟩
    · exact endsIn_settle _ actions _ (.error err)
    · exact endsIn_settle _ actions _ (.ok _)
    · exact endsIn_advance _ (name :: rest) _ _ actions

/-- Closing the process after an action. -/
theorem endsIn_closed (r : Replay) (taskId : Int) (spec : ActionSpec) (status : ProcessStatus)
    (event : ProcessEvent) (word : String) (actions : List ActionSpec) :
    EndsIn (closed r actions spec taskId status event word) actions
      ((r.closeAfter taskId status event word).2.record (Replay.stepName spec)
        (r.closeAfter taskId status event word).1) :=
  endsIn_settle _ actions _ _

/-- What follows from an action. -/
theorem endsIn_followUp (r : Replay) (t : Task) (c : Context) (taskId : Int) (spec : ActionSpec)
    (actions : List ActionSpec) :
    EndsIn ⟨r, .following spec t c taskId, actions⟩ actions
      ((r.followUp t c taskId spec).2.record (Replay.stepName spec)
        (r.followUp t c taskId spec).1) := by
  have step : ∀ {m : Moment}, Moment.next ⟨r, .following spec t c taskId, actions⟩ = some m →
      EndsIn m actions ((r.followUp t c taskId spec).2.record (Replay.stepName spec)
        (r.followUp t c taskId spec).1) →
      EndsIn ⟨r, .following spec t c taskId, actions⟩ actions
        ((r.followUp t c taskId spec).2.record (Replay.stepName spec)
          (r.followUp t c taskId spec).1) :=
    fun first ends => ends.of_leads (Leads.single first)
  cases action : spec.action with
  | approve =>
      refine step (by simp only [next, action]; rfl) ?_
      exact endsIn_approved r t c taskId spec actions (Or.inl action)
  | complete =>
      refine step (by simp only [next, action]; rfl) ?_
      exact endsIn_approved r t c taskId spec actions (Or.inr action)
  | transfer =>
      refine step (by simp only [next, action]; rfl) ?_
      simp only [Replay.followUp, action]
      exact endsIn_settle _ actions _ _
  | reject =>
      refine step (by simp only [next, action]; rfl) ?_
      simp only [Replay.followUp, action]
      exact endsIn_closed r taskId spec .rejected .reject "rejected" actions
  | cancel =>
      refine step (by simp only [next, action]; rfl) ?_
      simp only [Replay.followUp, action]
      exact endsIn_closed r taskId spec .canceled .cancel "canceled" actions
  | terminate =>
      refine step (by simp only [next, action]; rfl) ?_
      simp only [Replay.followUp, action]
      exact endsIn_closed r taskId spec .terminated .terminate "terminated" actions
  | start =>
      refine step (by simp only [next, action]; rfl) ?_
      simp only [Replay.followUp, action]
      exact endsIn_settle _ actions _ (.error _)

/-- One action of a replay. -/
theorem endsIn_act (r : Replay) (spec : ActionSpec) (actions : List ActionSpec) :
    EndsIn ⟨r, .resting, spec :: actions⟩ actions (r.act spec) := by
  unfold Replay.act Replay.apply
  rcases target : r.target spec with err | ⟨t, row⟩
  · have first : Leads ⟨r, .resting, spec :: actions⟩
        (settle r actions (Replay.stepName spec) (.error err)) :=
      Leads.single (by simp only [next, target])
    exact (endsIn_settle r actions _ (.error err)).of_leads first
  · have first : Leads ⟨r, .resting, spec :: actions⟩ (applied r actions spec t
        ((Processor.ofTask t).complete (r.actionContext spec t row) r.engine)) :=
      Leads.single (by simp only [next, target])
    refine EndsIn.of_leads first ?_
    unfold Replay.actionContext
    dsimp only
    rcases (Processor.ofTask t).complete _ r.engine with ⟨err | done, c, e⟩
    · exact endsIn_settle _ actions _ (.error err)
    · dsimp only [applied]
      cases request : c.request with
      | error err => exact endsIn_settle _ actions _ (.error err)
      | ok a => exact endsIn_followUp _ t c a.row.id spec actions

/-- Where the run of a replay leads to, by its answer: to its report, which is drawn up when no
action is left; to its failure; or to walking round in a circle. -/
def Answers (m : Moment) : Except ReplayFailure ReplayReport → Prop
  | .ok report => ∃ r, Leads m ⟨r, .resting, []⟩ ∧ report = r.report
  | .error ⟨step, .failed err⟩ => ∃ r actions, Leads m ⟨r, .broken ⟨step, .failed err⟩, actions⟩
  | .error ⟨step, .endless⟩ => ∃ r before name queue entered actions,
      Leads m ⟨r, .walking step before (name :: queue) entered, actions⟩

theorem EndsIn.answers_of_error {m : Moment} {actions : List ActionSpec} {failure : ReplayFailure}
    (ends : EndsIn m actions (.error failure)) : Answers m (.error failure) := by
  match failure, ends with
  | ⟨_, .failed _⟩, ⟨r, on⟩ => exact ⟨r, actions, on⟩
  | ⟨_, .endless⟩, ⟨r, before, name, queue, entered, on⟩ =>
      exact ⟨r, before, name, queue, entered, actions, on⟩

theorem Answers.of_leads {m m' : Moment} {answer : Except ReplayFailure ReplayReport}
    (first : Leads m m') (answers : Answers m' answer) : Answers m answer := by
  match answer, answers with
  | .ok _, ⟨r, on, same⟩ => exact ⟨r, first.trans on, same⟩
  | .error ⟨_, .failed _⟩, ⟨r, actions, on⟩ => exact ⟨r, actions, first.trans on⟩
  | .error ⟨_, .endless⟩, ⟨r, before, name, queue, entered, actions, on⟩ =>
      exact ⟨r, before, name, queue, entered, actions, first.trans on⟩

/-- The actions of a replay, one after the other. -/
theorem answers_acts (r : Replay) (actions : List ActionSpec) :
    Answers ⟨r, .resting, actions⟩ (do
      let r ← actions.foldlM Replay.act r
      return r.report) := by
  induction actions generalizing r with
  | nil => exact ⟨r, Relation.ReflTransGen.refl, rfl⟩
  | cons spec rest ih =>
      have first := endsIn_act r spec rest
      rw [List.foldlM_cons]
      cases acted : r.act spec with
      | error failure =>
          rw [acted] at first
          exact first.answers_of_error
      | ok r' =>
          rw [acted] at first
          exact (ih r').of_leads first

/-- The run of a replay ends where its moments lead to. -/
theorem answers_run (r : Replay) (actions : List ActionSpec) :
    Answers (begun r actions) (r.run actions) := by
  have first := endsIn_start r actions
  unfold Replay.run
  cases started : r.start with
  | error failure =>
      rw [started] at first
      exact first.answers_of_error
  | ok r' =>
      rw [started] at first
      exact (answers_acts r' actions).of_leads first

end Moment

end ApprovalFlow
