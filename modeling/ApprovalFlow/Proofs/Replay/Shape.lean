import ApprovalFlow.Proofs.Replay.Duties
import ApprovalFlow.Proofs.Replay.Endless
import ApprovalFlow.Proofs.Replay.Respondents
import ApprovalFlow.Proofs.Replay.Unanimity

/-!
# The shape of a replay

A replay that ends does so by a step that ends in a fatal error, which leaves no report, or because
no action is left. What the report shows then fits the steps: one entry for each, rows numbered as
they were stored, and in the event log what the listeners of the scenario have answered.

* `TaskTable.Grows.forall₂_take`: rows are in the order in which they were stored.
* `Scenario.replay_shape`: the shape of every replay that ends.
-/

namespace ApprovalFlow

namespace TaskTable

variable {t t' : TaskTable}

/-- The rows of a table are the first ones that it has later, as they were or closed. -/
theorem Grows.forall₂_take (grows : t.Grows t') (numbered : t.Numbered) (numbered' : t'.Numbered) :
    List.Forall₂ TaskRow.Precedes t.rows (t'.rows.take t.size) := by
  have later : ∀ (i : Nat) (row : TaskRow), t.rows[i]? = some row →
      ∃ stored, t'.rows[i]? = some stored ∧ row.Precedes stored := by
    intro i row here
    obtain ⟨stored, member, precedes⟩ := grows row (List.mem_iff_getElem?.2 ⟨i, here⟩)
    obtain ⟨j, there⟩ := List.mem_iff_getElem?.1 member
    have place : j = i := by
      have old := numbered i row here
      have new := numbered' j stored there
      have same := precedes.sameTask.id_eq
      omega
    exact ⟨stored, place ▸ there, precedes⟩
  have few : t.rows.length ≤ t'.rows.length := by
    by_contra more
    have last : t'.rows.length < t.rows.length := Nat.lt_of_not_le more
    obtain ⟨stored, there, -⟩ := later _ _ (List.getElem?_eq_getElem last)
    simp at there
  refine List.forall₂_iff_get.2 ⟨?_, ?_⟩
  · rw [size, List.length_take, Nat.min_eq_left few]
  · intro i here there
    obtain ⟨stored, found, precedes⟩ := later i _ (List.getElem?_eq_getElem here)
    have same : (t'.rows.take t.size).get ⟨i, there⟩ = stored := by
      rw [List.get_eq_getElem, List.getElem_take]
      exact Option.some.inj ((List.getElem?_eq_getElem _).symm.trans found)
    rw [same]
    exact precedes

end TaskTable

namespace Moment

variable {m start : Moment}

/-- All rows are rows of the process. -/
theorem Leads.processId_eq (leads : Leads start m) (orderly : start.Orderly)
    (empty : start.table.duties = []) {row : TaskRow} (member : row ∈ m.table.rows) :
    row.processId = m.replay.process.id := by
  have id := (Leads.keeps leads orderly).2.1
  have there : row.duty ∈ m.table.duties := TaskTable.mem_duties.2 ⟨row, member, rfl⟩
  rcases (leads.mem_duties_iff orderly).1 there with first | ⟨earlier, toEarlier, -, assigns⟩
  · rw [empty] at first
    cases first
  · have same : earlier.replay.process.id = m.replay.process.id :=
      (Leads.keeps toEarlier orderly).2.1.trans id.symm
    rw [← same]
    rcases mem_assigned_iff.1 assigns with ⟨t, -, assigned⟩ | ⟨t, users, -, duty⟩
    · exact (Task.of_mem_duties assigned).1
    · exact congrArg Duty.processId duty

end Moment

/-! ## Reports -/

/-- What a report shows of the replay that it is drawn up on. -/
structure ReplayReport.Shape (s : Scenario) (r : Replay) (actions : List ActionSpec)
    (p : ReplayReport) : Prop where
  /-- There is a step for the start and one for each action, in order. -/
  steps : p.steps.map (·.step) = r.startName :: actions.map Replay.stepName
  /-- The rows are numbered from one on. -/
  ids : p.tasks.map (·.id) = (List.range p.tasks.length).map fun i : Nat => (i : Int) + 1
  /-- What has been stored by some moment comes first. -/
  created : ∀ m, Moment.Leads (.begun r actions) m →
    List.Forall₂ TaskRow.Precedes m.table.rows (p.tasks.take m.table.size)
  /-- The event log says what listeners of the scenario have answered, each where it listens. -/
  events : ∀ row ∈ p.events, ∃ l ∈ s.listeners,
    l.target.Hears r.definition row.eventType row.elementName ∧ row.Records l

/-- What a replay of a scenario is like. -/
structure Replay.Shape (s : Scenario) (r : Replay) (actions : List ActionSpec) : Prop where
  /-- It fails by the first step that ends in a fatal error, and only so. -/
  fails : ∀ failure, r.run actions = .error failure ↔ ∃ rest, r.FailsAt actions failure rest
  /-- The actions that are left then are never applied. -/
  stops : ∀ failure rest, r.FailsAt actions failure rest →
    ∀ m, Moment.Leads (.begun r actions) m → rest <:+ m.actions
  /-- Otherwise there is a report. -/
  reports : (∀ failure rest, ¬ r.FailsAt actions failure rest) →
    ∃ last, r.Goes actions last ∧ r.run actions = .ok last.report ∧
      last.report.Shape s r actions
  /-- Actions that find the process closed are recorded as failed and do nothing else. -/
  closed : ∀ done r', r.Goes done r' → r'.process.status ≠ .processing → ∀ later,
    r.Goes (done ++ later) { r' with steps := r'.steps ++ later.map r'.refusal }
  /-- An action on a task that is not there ends the replay of an open process. -/
  unknown : ∀ done spec rest r', actions = done ++ spec :: rest → r.Goes done r' →
    r'.process.status = .processing → r'.definition.task? spec.task = none →
    r.run actions = .error ⟨stepName spec, .failed (.configuration
      ("process " ++ r'.definition.name ++ " has no task " ++ spec.task))⟩

theorem Scenario.shape_of_goes {s : Scenario} {now : Instant} {b : BuiltScenario}
    (built : s.build now = .ok b) {config : WorkflowConfig} {time : Instant} {last : Replay}
    (goes : (b.replay config time).Goes b.actions last) :
    last.report.Shape s (b.replay config time) b.actions := by
  obtain ⟨orderly, -⟩ := Moment.orderly_begun built config time b.actions
  have toEnd : Moment.Leads (.begun (b.replay config time) b.actions) ⟨last, .resting, []⟩ := by
    have leads := Moment.leads_goes goes []
    rw [List.append_nil] at leads
    exact leads
  have sound := (Moment.Leads.orderly toEnd orderly).sound
  have all : last.report.tasks = last.engine.tasks.rows := by
    have kept : last.engine.drain.tasks = last.engine.tasks :=
      (Engine.heard_drain last.engine).tasks
    change last.engine.drain.tasks.ofProcess last.process.id = _
    rw [kept]
    refine List.filter_eq_self.2 fun row member => ?_
    have own : row.processId = last.process.id := toEnd.processId_eq orderly rfl member
    rw [own]
    exact beq_self_eq_true _
  refine ⟨goes.names, ?_, ?_, ?_⟩
  · rw [all]
    exact sound.numbered.map_id
  · intro m leads
    have on : Moment.Leads m ⟨last, .resting, []⟩ := leads.to_end toEnd rfl
    have now := Moment.Leads.orderly leads orderly
    rw [all]
    exact (on.keeps now).2.2.forall₂_take now.sound.numbered sound.numbered
  · intro row member
    exact exists_listener_of_goes built goes member

/-- The replay of an accepted scenario, if it ends: which steps it fails by, what its report shows
otherwise, and what an action comes to that finds the process closed. -/
theorem Scenario.replay_shape {s : Scenario} {now : Instant} {b : BuiltScenario}
    (built : s.build now = .ok b) (config : WorkflowConfig) (time : Instant) {last : Moment}
    (toLast : Moment.Leads (.begun (b.replay config time) b.actions) last)
    (ended : last.next = none) : (b.replay config time).Shape s b.actions := by
  have goesOn := (ends_iff built config time b.actions).1 ⟨last, toLast, ended⟩
  have fails : ∀ failure, (b.replay config time).run b.actions = .error failure ↔
      ∃ rest, (b.replay config time).FailsAt b.actions failure rest := by
    rintro ⟨step, err | ⟨⟩⟩
    · exact Replay.run_eq_error_iff
    · refine ⟨fun endless => (goesOn step endless).elim, ?_⟩
      rintro ⟨rest, failsAt⟩
      cases failsAt
  refine ⟨fails, fun failure rest failsAt m leads => Moment.suffix_of_failsAt failsAt leads, ?_,
    ?_, ?_⟩
  · intro fine
    cases ran : (b.replay config time).run b.actions with
    | error failure =>
        obtain ⟨rest, failsAt⟩ := (fails failure).1 ran
        exact (fine failure rest failsAt).elim
    | ok report =>
        obtain ⟨last, goes, rfl⟩ := Replay.exists_goes_of_run ran
        exact ⟨last, goes, rfl, shape_of_goes built goes⟩
  · intro done r' goes closed later
    exact goes.append (Replay.acts_of_closed closed later)
  · intro done spec rest r' split goes opened missing
    exact Replay.run_eq_error_iff.2 ⟨rest, .action split goes
      (Replay.apply_of_unknown opened missing) rfl⟩

/-! ## A task that is not there, after the end and before it -/

namespace Scenario

/-- One task that one person approves, and a bell that does not ring when the process ends. -/
def oneTask (actions : List ActionSpec) : Scenario :=
  { straight with
    listeners := [⟨"bell", .process, "COMPLETE", true, some "out of order"⟩]
    actions := actions }

/-- The task is approved. Then somebody acts on one that is not there, and the approver acts
again. -/
def tooLate : Scenario :=
  oneTask [⟨"review", "alice", .approve, none, none, []⟩,
    ⟨"audit", "dave", .reject, none, none, []⟩, ⟨"review", "alice", .approve, none, none, []⟩]

/-- The two last steps are on record as failed, and the bell's row says what has become of it. -/
theorem tooLate_shape : ∃ b p, tooLate.build default = .ok b ∧
    (b.replay .standard default).run b.actions = .ok p ∧
    p.steps.map (·.ok) = [true, true, false, false] ∧
    p.events.map (fun row => (row.listener, row.status, row.remark)) =
      [("bell", .failed, some "out of order")] ∧
    (b.replay .standard default).Shape tooLate b.actions := by
  have reported : (tooLate.report? .standard).map (fun p =>
      (p.steps.map (·.ok), p.events.map fun row => (row.listener, row.status, row.remark))) =
      some ([true, true, false, false], [("bell", .failed, some "out of order")]) := by
    decide +kernel
  have ended : tooLate.moment?.map (fun m => (m.after 16).next.isNone) = some true := by
    decide +kernel
  obtain ⟨p, there, shown⟩ := Option.map_eq_some_iff.1 reported
  obtain ⟨steps, events⟩ := Prod.mk.inj shown
  obtain ⟨b, built, ran⟩ := run_of_report? there
  obtain ⟨m, there, last⟩ := Option.map_eq_some_iff.1 ended
  obtain ⟨b', built', rfl⟩ := build_of_moment? there
  have same : b' = b := Except.ok.inj (built'.symm.trans built)
  rw [same] at last
  exact ⟨b, p, built, ran, steps, events, replay_shape built .standard default
    (Moment.leads_after 16 _) (Option.isNone_iff_eq_none.1 last)⟩

/-- While the process is open, acting on a task that is not there ends the replay. -/
example : ((oneTask [⟨"audit", "dave", .reject, none, none, []⟩]).build default).toOption.map
    (fun b => ((b.replay .standard default).run b.actions).toOption.isNone) = some true := by
  decide +kernel

end Scenario

end ApprovalFlow
