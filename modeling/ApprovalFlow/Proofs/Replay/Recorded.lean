import ApprovalFlow.Proofs.Replay.Refusals
import ApprovalFlow.Proofs.Replay.Unanimity

/-!
# What an action leaves on its row

An action that is accepted closes its row. On the row of a user task it leaves its own state and its
operator. The engine's own tasks are closed by the engine, under the operator that it is configured
with, also when somebody completes one that was left with an open row.

* `Processor.writes_of_complete`: what completing a task writes on its row.
* `Scenario.accepted_actions_recorded`: what the row says of an action from its step on.
-/

namespace ApprovalFlow

/-- A row is stored by an update with nothing but its version changed. -/
theorem TaskTable.eq_bumped_of_update {t t' : TaskTable} {row saved : TaskRow}
    (updated : t.update row = (.ok saved, t')) : saved = bumped row := by
  unfold update at updated
  split at updated
  · cases updated
  · split at updated
    · cases updated
    · cases updated
      rfl

/-- What a row says of an action that has closed it. -/
def Processor.Writes (p : Processor) (operator : String) (a : ActionRequest) (row : TaskRow) :
    Prop :=
  match p with
  | user => a.action.taskStatus = some row.status ∧ row.operator = some a.operator
  | service => row.status = .completed ∧ row.operator = some operator

theorem ServiceTask.ofTask_of_typeName {t : Task} (h : t.typeName = Task.serviceType) :
    Processor.ofTask t = .service := by
  obtain ⟨part, kind⟩ := Task.typeName_eq_serviceType_iff.1 h
  rw [Processor.ofTask, kind]

section Completing

variable {σ : Type} [EventStore σ] {e e' : Engine TaskTable σ} {c c' : Context} {a : ActionRequest}

omit [EventStore σ] in
theorem ServiceTask.stored_of_finish {status : TaskStatus} {remark : Option String}
    {stored : TaskRow} (finished : finish status remark c e = ⟨.ok stored, c', e'⟩) :
    stored.status = status ∧ stored.operator = some e.settings.systemOperator := by
  unfold finish at finished
  cases request : c.request with
  | error err =>
      rw [request] at finished
      cases finished
  | ok a =>
      rw [request] at finished
      dsimp only at finished
      rcases answer : e.tasks.update
        (closedRow a.row status e.settings.systemOperator remark e.now) with ⟨err | saved, t⟩
      · simp only [Engine.updateTask, TaskStore.update, answer] at finished
        cases finished
      · simp only [Engine.updateTask, TaskStore.update, answer] at finished
        cases finished
        rw [TaskTable.eq_bumped_of_update answer]
        exact ⟨rfl, rfl⟩

theorem UserTask.writes_of_complete (sound : e.tasks.Sound) (action : c.action = some a)
    (here : a.row ∈ e.tasks.rows) {done : Bool} (completed : complete c e = ⟨.ok done, c', e'⟩) :
    ∃ closed, e.tasks.ClosedBy e'.tasks a.row closed ∧
      a.action.taskStatus = some closed.status ∧ closed.operator = some a.operator := by
  cases planned : plan c e.now with
  | error err =>
      simp only [complete, planned] at completed
      cases completed
  | ok answer =>
      obtain ⟨event, row⟩ := answer
      obtain ⟨t, b, checked⟩ := planned_of_plan planned
      have one : b = a := Option.some.inj (checked.action.symm.trans action)
      rw [one] at checked
      obtain ⟨stored, by_, -, -, same⟩ := complete_of_plan sound action here planned
      have told := (Engine.heard_notify stored event (c.withRow (TaskTable.bumped row))).tasks
      have engine : e' = (stored.notify event (c.withRow (TaskTable.bumped row))).2 := by
        rw [completed] at same
        exact congrArg Reply.engine same
      rw [← engine] at told
      exact ⟨TaskTable.bumped row, told ▸ by_, checked.status, checked.operator⟩

theorem ServiceTask.writes_of_complete (sound : e.tasks.Sound) (action : c.action = some a)
    (here : a.row ∈ e.tasks.rows) {done : Bool} (completed : complete c e = ⟨.ok done, c', e'⟩) :
    ∃ closed, e.tasks.ClosedBy e'.tasks a.row closed ∧
      closed.status = .completed ∧ closed.operator = some e.settings.systemOperator := by
  unfold complete at completed
  rcases prepared : prepare c e.settings.systemOperator with ⟨err | ⟨⟩, ready⟩
  · rw [prepared] at completed
    cases completed
  · rw [prepared] at completed
    obtain ⟨t, b, checked⟩ := prepared_of_prepare prepared
    have acted : some a.row = some b.row := by
      have row := checked.acted
      unfold Context.acted at row
      rwa [action] at row
    have pending : a.row.status = .pending := by
      rw [Option.some.inj acted]
      exact checked.pending
    have same := ready_of_action action prepared
    rw [same] at completed
    have heard := Engine.heard_notify e TaskEvent.complete c
    dsimp only at completed
    rcases told : e.notify TaskEvent.complete c with ⟨err | ⟨⟩, e₁⟩
    · rw [told] at completed
      cases completed
    · rw [told] at completed heard
      have tasks : e₁.tasks = e.tasks := heard.tasks
      obtain ⟨closed, e₂, finished, by_, -⟩ := finish_of_stored .completed none
        (tasks ▸ sound) action (tasks ▸ here) pending rfl
      obtain ⟨status, operator⟩ := stored_of_finish finished
      dsimp only at completed
      rw [finished] at completed
      cases completed
      rw [tasks] at by_
      rw [show e₁.settings = e.settings from heard.settings] at operator
      exact ⟨closed, by_, status, operator⟩

/-- A task that has been completed has closed its row, and left on it what goes with its kind. -/
theorem Processor.writes_of_complete (p : Processor) (sound : e.tasks.Sound)
    (action : c.action = some a) (here : a.row ∈ e.tasks.rows) {done : Bool}
    (completed : p.complete c e = ⟨.ok done, c', e'⟩) :
    ∃ closed, e.tasks.ClosedBy e'.tasks a.row closed ∧
      p.Writes e.settings.systemOperator a closed := by
  cases p with
  | user => exact UserTask.writes_of_complete sound action here completed
  | service => exact ServiceTask.writes_of_complete sound action here completed

end Completing

namespace Moment

variable {start m m' : Moment} {r r' : Replay} {spec : ActionSpec} {rest : List ActionSpec}
  {outcome : String}

theorem Leads.steady (leads : Leads m m') : m.replay.engine.Steady m'.replay.engine := by
  induction leads with
  | refl => exact Engine.Steady.refl _
  | tail _ h ih => exact ih.trans (steady_next h)

/-- An action that is accepted has closed its row by the next moment. -/
theorem final_of_accepted (rest : List ActionSpec) (sound : r.engine.tasks.Sound)
    (accepted : (r.apply spec).1 = .ok outcome) :
    ∃ t row closed m', r.target spec = .ok (t, row) ∧ row.SameTask closed ∧
      (Processor.ofTask t).Writes r.engine.settings.systemOperator
        ⟨spec.action, spec.operator, spec.remark, spec.form, spec.transferTo, row⟩ closed ∧
      next ⟨r, .resting, spec :: rest⟩ = some m' ∧ m'.table.Final closed := by
  cases target : r.target spec with
  | error err =>
      rw [Replay.apply_of_untargeted target] at accepted
      cases accepted
  | ok found =>
      obtain ⟨t, row⟩ := found
      have member := (Replay.targets_of_target target).member
      rcases completed : (Processor.ofTask t).complete (r.actionContext spec t row) r.engine with
        ⟨err | done, c, e⟩
      · rw [Replay.apply_of_target target completed] at accepted
        cases accepted
      · obtain ⟨closed, by_, writes⟩ :=
          (Processor.ofTask t).writes_of_complete sound rfl member completed
        refine ⟨t, row, closed, _, rfl, by_.same, writes, by simp only [next, target]; rfl, ?_⟩
        obtain ⟨steps, same⟩ := applied_replay r rest spec t
          ((Processor.ofTask t).complete (r.actionContext spec t row) r.engine)
        rw [Moment.table, same, completed]
        exact by_.final

/-- Whenever a step is on record as a success, the row that its action was applied to is there from
then on, and says something. -/
def Records (start : Moment) (entry : Task → ActionSpec → TaskRow → Prop) : Prop :=
  ∀ r r' rest spec outcome, Leads start ⟨r, .resting, spec :: rest⟩ → r.act spec = .ok r' →
    r'.steps = r.steps ++ [⟨Replay.stepName spec, true, outcome⟩] →
    ∃ t row closed, r.target spec = .ok (t, row) ∧ row.SameTask closed ∧ entry t spec closed ∧
      ∀ m, Leads ⟨r', .resting, rest⟩ m → closed ∈ m.table.rows

/-- A step that is on record as a success was one. -/
theorem accepted_of_act (acted : r.act spec = .ok r')
    (recorded : r'.steps = r.steps ++ [⟨Replay.stepName spec, true, outcome⟩]) :
    (r.apply spec).1 = .ok outcome := by
  rcases Replay.act_eq_ok_iff.1 acted with ⟨outcome', accepted, rfl⟩ | ⟨err, -, -, rfl⟩
  · have last := List.append_cancel_left recorded
    cases last
    exact accepted
  · have last := List.append_cancel_left recorded
    cases last

theorem records_writes (orderly : start.Orderly) :
    start.Records fun t spec closed => ∃ row, (Processor.ofTask t).Writes
      start.replay.engine.settings.systemOperator
      ⟨spec.action, spec.operator, spec.remark, spec.form, spec.transferTo, row⟩ closed := by
  intro r r' rest spec outcome leads acted recorded
  have now := Leads.orderly leads orderly
  obtain ⟨t, row, closed, m', target, same, writes, h, final⟩ :=
    final_of_accepted rest now.sound (accepted_of_act acted recorded)
  have settings : r.engine.settings = start.replay.engine.settings := leads.steady.settings
  rw [settings] at writes
  refine ⟨t, row, closed, target, same, ⟨row, writes⟩, fun m on => ?_⟩
  -- The step has ended after the move that closed the row, since one action fewer is to come.
  have ends := endsIn_act r spec rest
  rw [acted] at ends
  rcases Relation.ReflTransGen.cases_head ends with stays | ⟨m'', h', toEnd⟩
  · have fewer : spec :: rest = rest := congrArg Moment.actions stays
    exact absurd (congrArg List.length fewer) (by simp)
  · rw [h] at h'
    cases h'
    exact (final.mono (Leads.keeps (toEnd.trans on) (now.next h)).2.2).1

end Moment

/-- In the replay of an accepted scenario, whatever its listeners answer and whatever is done, an
action that is accepted is what the row of a user task says, by its state and its operator. If the
engine's own task is completed by somebody, its row says so too, but under the engine's operator. -/
theorem Scenario.accepted_actions_recorded {s : Scenario} {now : Instant} {b : BuiltScenario}
    (built : s.build now = .ok b) (config : WorkflowConfig) (time : Instant)
    (actions : List ActionSpec) :
    (Moment.begun (b.replay config time) actions).Records fun t spec closed =>
      (t.typeName = Task.userType →
        spec.action.taskStatus = some closed.status ∧ closed.operator = some spec.operator) ∧
      (t.typeName = Task.serviceType → spec.action = .complete →
        spec.action.taskStatus = some closed.status ∧
          closed.operator = some config.systemOperator) := by
  obtain ⟨orderly, -⟩ := Moment.orderly_begun built config time actions
  intro r r' rest spec outcome leads acted recorded
  obtain ⟨t, row, closed, target, same, ⟨_, writes⟩, stays⟩ :=
    Moment.records_writes orderly r r' rest spec outcome leads acted recorded
  refine ⟨t, row, closed, target, same, ⟨?_, ?_⟩, stays⟩
  · intro isUser
    rw [UserTask.ofTask_of_typeName isUser] at writes
    exact writes
  · intro isService completes
    rw [ServiceTask.ofTask_of_typeName isService] at writes
    obtain ⟨status, operator⟩ := writes
    rw [completes, status]
    exact ⟨rfl, operator⟩

/-! ## An engine's own task that somebody else acts on -/

/-- An action that is accepted, and what the rows say then. -/
structure Acceptance where
  action : Action
  operator : String
  rows : List (TaskStatus × Option String)
  deriving DecidableEq

namespace Moment

/-- The next action if it is about to be accepted. -/
def acceptance? (m : Moment) : Option Acceptance :=
  match m with
  | ⟨r, .resting, spec :: _⟩ =>
    match r.apply spec with
    | (.ok _, r') =>
      some ⟨spec.action, spec.operator, r'.engine.tasks.rows.map fun row =>
        (row.status, row.operator)⟩
    | _ => none
  | _ => none

theorem Records.of_acceptance? {start m : Moment} {entry : Task → ActionSpec → TaskRow → Prop}
    (records : start.Records entry) (leads : Leads start m) {x : Acceptance}
    (accepts : m.acceptance? = some x) :
    ∃ t spec closed, spec.action = x.action ∧ spec.operator = x.operator ∧
      (closed.status, closed.operator) ∈ x.rows ∧ entry t spec closed := by
  obtain ⟨r, phase, actions⟩ := m
  cases phase with
  | resting =>
      cases actions with
      | nil => cases accepts
      | cons spec rest =>
          simp only [acceptance?] at accepts
          rcases applied : r.apply spec with ⟨halt | outcome, r'⟩
          · rw [applied] at accepts
            cases accepts
          · rw [applied] at accepts
            cases accepts
            have acted := Replay.act_eq_ok_iff.2
              (Or.inl ⟨outcome, congrArg Prod.fst applied, rfl⟩)
            obtain ⟨t, row, closed, -, -, written, stays⟩ :=
              records r _ rest spec outcome leads acted rfl
            have member := stays _ Relation.ReflTransGen.refl
            rw [Moment.table] at member
            dsimp only at member
            rw [applied] at member
            exact ⟨t, spec, closed, rfl, rfl, List.mem_map.2 ⟨closed, member, rfl⟩, written⟩
  | _ => cases accepts

end Moment

namespace Scenario

/-- An engine's own task cannot be entered because a listener fails, and its row is left open.
Somebody acts on it. -/
def leftOpen (action : Action) : Scenario where
  process := ⟨1, "P", none, "carol", none, ["archive"]⟩
  form := none
  tasks := [⟨"archive", none, .service [], ["end"]⟩]
  listeners := [⟨"reserve_space", .task "archive", "CREATE", false, some "disk full"⟩]
  actions := [⟨"archive", "dave", action, none, none, []⟩]

/-- Somebody completes the engine's own task, and its row says so under the engine's operator. -/
theorem leftOpen_recorded : ∃ b m, (leftOpen .complete).build default = .ok b ∧
    Moment.Leads (.begun (b.replay .standard default) b.actions) m ∧
    m.acceptance? = some ⟨.complete, "dave", [(.completed, some "admin")]⟩ ∧
    (Moment.begun (b.replay .standard default) b.actions).Records fun t spec closed =>
      (t.typeName = Task.userType →
        spec.action.taskStatus = some closed.status ∧ closed.operator = some spec.operator) ∧
      (t.typeName = Task.serviceType → spec.action = .complete →
        spec.action.taskStatus = some closed.status ∧ closed.operator = some "admin") := by
  have accepts : (leftOpen .complete).moment?.bind (fun m => (m.after 2).acceptance?) =
      some ⟨.complete, "dave", [(.completed, some "admin")]⟩ := by
    decide +kernel
  obtain ⟨m, there, accepts⟩ := Option.bind_eq_some_iff.1 accepts
  obtain ⟨b, built, rfl⟩ := build_of_moment? there
  exact ⟨b, _, built, Moment.leads_after 2 _, accepts, accepted_actions_recorded built _ _ _⟩

/-- The row of an engine's own task does not say who has completed it, and it does not say that
somebody has rejected it. -/
theorem leftOpen_misrecorded :
    (∃ b, (leftOpen .complete).build default = .ok b ∧
      ¬ (Moment.begun (b.replay .standard default) b.actions).Records fun _ spec closed =>
        closed.operator = some spec.operator) ∧
    ∃ b, (leftOpen .reject).build default = .ok b ∧
      ¬ (Moment.begun (b.replay .standard default) b.actions).Records fun _ spec closed =>
        spec.action.taskStatus = some closed.status := by
  constructor
  · have accepts : (leftOpen .complete).moment?.bind (fun m => (m.after 2).acceptance?) =
        some ⟨.complete, "dave", [(.completed, some "admin")]⟩ := by
      decide +kernel
    obtain ⟨m, there, accepts⟩ := Option.bind_eq_some_iff.1 accepts
    obtain ⟨b, built, rfl⟩ := build_of_moment? there
    refine ⟨b, built, fun records => ?_⟩
    obtain ⟨t, spec, closed, -, operator, member, written⟩ :=
      records.of_acceptance? (Moment.leads_after 2 _) accepts
    have row := (Prod.mk.inj (List.mem_singleton.1 member)).2
    rw [row, operator] at written
    exact absurd written (by decide)
  · have accepts : (leftOpen .reject).moment?.bind (fun m => (m.after 2).acceptance?) =
        some ⟨.reject, "dave", [(.completed, some "admin")]⟩ := by
      decide +kernel
    obtain ⟨m, there, accepts⟩ := Option.bind_eq_some_iff.1 accepts
    obtain ⟨b, built, rfl⟩ := build_of_moment? there
    refine ⟨b, built, fun records => ?_⟩
    obtain ⟨t, spec, closed, action, -, member, written⟩ :=
      records.of_acceptance? (Moment.leads_after 2 _) accepts
    have row := (Prod.mk.inj (List.mem_singleton.1 member)).1
    rw [row, action] at written
    exact absurd written (by decide)

end Scenario

end ApprovalFlow
