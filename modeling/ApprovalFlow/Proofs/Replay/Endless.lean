import ApprovalFlow.Proofs.Replay.Course
import ApprovalFlow.Proofs.Walk.Budget

/-!
# Replays without an end

The moments of a replay take no notice of the budget of its walks. Where a walk uses it up, the
moments go on for ever; so a replay runs out of a budget exactly if it has no end.

* `Moment.Stuck.next`: a walk that is stuck goes on and is stuck.
* `Scenario.ends_iff`: which replays end.
-/

namespace ApprovalFlow

variable {roles : ListenerSpec → ListenerSpec → Prop}

/-! ## Where a budget is used up -/

namespace Replay

variable {r : Replay} {spec : ActionSpec}

theorem advance_of_startProcess (endless : r.startProcess.1 = .error .endless) :
    ∃ r', r.notifyProcess .create r.context = (.ok (), r') ∧
      (r'.advance r'.definition.start).1 = .error .endless := by
  unfold startProcess at endless
  rcases told : r.notifyProcess .create r.context with ⟨err | ⟨⟩, r'⟩
  · rw [told] at endless
    cases endless
  · rw [told] at endless
    exact ⟨r', rfl, endless⟩

theorem lift_ne_endless {α : Type} (result : Except WorkflowError α) :
    lift result ≠ .error .endless := by
  cases result with
  | ok => rintro ⟨⟩
  | error => rintro ⟨⟩

/-- Of what can follow from an action only walking on can be without an end. -/
theorem advance_of_followUp {t : Task} {c : Context} {taskId : Int}
    (endless : (r.followUp t c taskId spec).1 = .error .endless) :
    (spec.action = .approve ∨ spec.action = .complete) ∧ ∃ name rest e,
      (Processor.ofTask t).next t c r.engine = (.ok (name :: rest), e) ∧
      ({ r with engine := e }.advance (name :: rest)).1 = .error .endless := by
  unfold followUp at endless
  cases action : spec.action with
  | approve | complete =>
      rw [action] at endless
      dsimp only at endless
      rcases successors : (Processor.ofTask t).next t c r.engine with ⟨err | ⟨_ | ⟨name, rest⟩⟩, e⟩
      · rw [successors] at endless
        cases endless
      · rw [successors] at endless
        cases endless
      · rw [successors] at endless
        exact ⟨by simp, name, rest, e, rfl, eq_error_of_map endless⟩
  | transfer =>
      rw [action] at endless
      exact absurd endless (lift_ne_endless _)
  | reject | cancel | terminate =>
      rw [action] at endless
      exact absurd endless (lift_ne_endless _)
  | start =>
      rw [action] at endless
      cases endless

end Replay

namespace Moment

variable {m m' : Moment} {r : Replay} {actions : List ActionSpec} {step : String}

/-- A walk is on its way for which no budget is enough. -/
def Stuck (m : Moment) : Prop :=
  ∃ step before queue entered, m.phase = .walking step before queue entered ∧
    ∀ fuel, (Replay.walk fuel queue entered m.replay).1 = .error .endless

/-- A walk that is stuck goes on and is stuck. -/
theorem Stuck.next (stuck : m.Stuck) : ∃ m', m.next = some m' ∧ m'.Stuck := by
  obtain ⟨r, phase, actions⟩ := m
  obtain ⟨step, before, queue, entered, rfl, endless⟩ := stuck
  cases queue with
  | nil =>
      have finished := endless 0
      rw [Replay.walk_nil] at finished
      cases finished
  | cons name rest =>
      refine ⟨_, rfl, ?_⟩
      have on : ∀ fuel, (Replay.walk (fuel + 1) (name :: rest) entered r).1 = .error .endless :=
        fun fuel => endless (fuel + 1)
      unfold Replay.walk at on
      rcases answer : r.visit name with ⟨err | names, r'⟩
      · rw [answer] at on
        cases on 0
      · rw [answer] at on
        exact ⟨step, before, rest ++ names, entered ++ [name], rfl, on⟩

theorem Stuck.of_leads (stuck : m.Stuck) (leads : Leads m m') : m'.Stuck := by
  induction leads with
  | refl => exact stuck
  | tail _ h ih =>
      obtain ⟨m'', h', stuck⟩ := ih.next
      rw [h] at h'
      cases h'
      exact stuck

/-- From a walk that is stuck there is no end to come to. -/
theorem Stuck.not_ends (stuck : m.Stuck) (leads : Leads m m') : m'.next ≠ none := by
  obtain ⟨m'', h, -⟩ := (stuck.of_leads leads).next
  rw [h]
  rintro ⟨⟩

/-- A walk that uses up its budget is stuck. -/
theorem stuck_of_advance {before : String} {names : List String} (scripted : r.Scripted roles)
    (sound : r.engine.tasks.Sound) (endless : (r.advance names).1 = .error .endless) :
    Stuck ⟨r, .walking step before names [], actions⟩ := by
  refine ⟨step, before, names, [], rfl, fun fuel => ?_⟩
  refine Replay.walk_of_budget scripted sound ?_ fuel []
  unfold Replay.advance at endless
  rcases walked : Replay.walk (Replay.budget r.definition names) names [] r with ⟨halt | all, r'⟩
  · rw [walked] at endless
    cases endless
    rfl
  · rw [walked] at endless
    cases endless

/-- An action that uses up a budget walks on from its task. -/
theorem leads_of_apply {spec : ActionSpec} (rest : List ActionSpec)
    (endless : (r.apply spec).1 = .error .endless) :
    ∃ r' before names, Leads ⟨r, .resting, spec :: rest⟩
        ⟨r', .walking (Replay.stepName spec) before names [], rest⟩ ∧
      (r'.advance names).1 = .error .endless := by
  cases target : r.target spec with
  | error err =>
      rw [Replay.apply_of_untargeted target] at endless
      cases endless
  | ok found =>
      obtain ⟨t, row⟩ := found
      rcases completed : (Processor.ofTask t).complete (r.actionContext spec t row) r.engine with
        ⟨err | done, c, e⟩
      · rw [Replay.apply_of_target target completed] at endless
        cases endless
      · rw [Replay.apply_of_target target completed] at endless
        simp only [Replay.dealWith] at endless
        cases request : c.request with
        | error err =>
            rw [request] at endless
            cases endless
        | ok a =>
            rw [request] at endless
            obtain ⟨approves, name, names, e', successors, walked⟩ :=
              Replay.advance_of_followUp endless
            have first : Leads ⟨r, .resting, spec :: rest⟩
                ⟨{ r with engine := e }, .following spec t c a.row.id, rest⟩ :=
              Leads.single (by simp only [Moment.next, target, completed, applied, request])
            refine ⟨{ r with engine := e' }, "task " ++ toString a.row.id ++ " approved, ",
              name :: names, first.tail ?_, walked⟩
            rcases approves with action | action
            · simp only [Moment.next, action, approved, successors]
            · simp only [Moment.next, action, approved, successors]

/-- What a replay that has used up a budget has come to. -/
theorem exists_advance_of_run (endless : r.run actions = .error ⟨step, .endless⟩) :
    ∃ r' before names rest, Leads (begun r actions) ⟨r', .walking step before names [], rest⟩ ∧
      (r'.advance names).1 = .error .endless := by
  rcases Replay.run_eq_error_iff_step.1 endless with
    started | ⟨done, spec, rest, r', rfl, goes, failed⟩
  · rcases Replay.start_eq_error_iff.1 started with ⟨err, -, -, same⟩ | ⟨used, same⟩
    · cases same
    · cases same
      obtain ⟨r', told, walked⟩ := Replay.advance_of_startProcess used
      have name : r'.startName = r.startName := by
        rw [show r' = (r.notifyProcess .create r.context).2 by rw [told]]
        rfl
      refine ⟨r', "", r'.definition.start, actions, Leads.single ?_, walked⟩
      simp only [begun, Moment.next, told, name]
  · rcases Replay.act_eq_error_iff.1 failed with ⟨err, -, -, same⟩ | ⟨used, same⟩
    · cases same
    · cases same
      obtain ⟨r'', before, names, on, walked⟩ := leads_of_apply rest used
      exact ⟨r'', before, names, rest, (leads_goes goes (spec :: rest)).trans on, walked⟩

end Moment

/-- A replay of an accepted scenario ends exactly if none of its walks uses up its budget. -/
theorem Scenario.ends_iff {s : Scenario} {now : Instant} {b : BuiltScenario}
    (built : s.build now = .ok b) (config : WorkflowConfig) (time : Instant)
    (actions : List ActionSpec) :
    (∃ last, Moment.Leads (.begun (b.replay config time) actions) last ∧ last.next = none) ↔
      ∀ step, (b.replay config time).run actions ≠ .error ⟨step, .endless⟩ := by
  obtain ⟨orderly, -⟩ := Moment.orderly_begun built config time actions
  constructor
  · rintro ⟨last, toLast, ended⟩ step endless
    obtain ⟨r, before, names, rest, leads, walked⟩ := Moment.exists_advance_of_run endless
    have scripted := Moment.Leads.scripted leads orderly (scripted_of_build built config time)
    have stuck : Moment.Stuck ⟨r, .walking step before names [], rest⟩ :=
      Moment.stuck_of_advance scripted (Moment.Leads.orderly leads orderly).sound walked
    exact stuck.not_ends (leads.to_end toLast ended) ended
  · intro goesOn
    have answers := Moment.answers_run (b.replay config time) actions
    cases ran : (b.replay config time).run actions with
    | ok report =>
        rw [ran] at answers
        obtain ⟨r, leads, -⟩ := answers
        exact ⟨_, leads, rfl⟩
    | error failure =>
        obtain ⟨step, err | ⟨⟩⟩ := failure
        · rw [ran] at answers
          obtain ⟨r, rest, leads⟩ := answers
          exact ⟨_, leads, rfl⟩
        · exact (goesOn step ran).elim

end ApprovalFlow
