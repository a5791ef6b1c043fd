import ApprovalFlow.Proofs.Replay.Moves
import Mathlib.Data.List.Infix

/-!
# The course of a replay

A replay goes from step to step: it starts, and then applies one action after the other, until a
step ends in a fatal error. Every step that it goes on after is on record. Once an action finds the
process closed nothing but refusals comes.

* `Replay.run_eq_error_iff`: the first step that ends in a fatal error decides.
* `Replay.acts_of_closed`: what comes when the process is closed.
* `Moment.leads_goes`: the steps are taken in the moments of the replay.
-/

namespace ApprovalFlow

/-! ## From step to step -/

namespace Replay

variable {r r' r'' : Replay} {spec : ActionSpec} {before after actions : List ActionSpec}
  {failure : ReplayFailure}

/-- The start and some actions are done, and the replay has gone on. -/
def Goes (r : Replay) (done : List ActionSpec) (r' : Replay) : Prop :=
  ∃ started, r.start = .ok started ∧ done.foldlM act started = .ok r'

/-- A step ends in a fatal error, and none before it has. These actions are left then. -/
inductive FailsAt (r : Replay) (actions : List ActionSpec) :
    ReplayFailure → List ActionSpec → Prop
  | start {err : WorkflowError} : r.startProcess.1 = .error (.failed err) → err.isFatal = true →
    FailsAt r actions ⟨r.startName, .failed err⟩ actions
  | action {before after : List ActionSpec} {spec : ActionSpec} {r' : Replay}
    {err : WorkflowError} : actions = before ++ spec :: after → r.Goes before r' →
    (r'.apply spec).1 = .error (.failed err) → err.isFatal = true →
    FailsAt r actions ⟨stepName spec, .failed err⟩ after

theorem start_eq (r : Replay) : r.start = r.startProcess.2.record r.startName r.startProcess.1 := by
  unfold start startName
  dsimp only
  rw [(onward_startProcess r).definition]

theorem act_eq_error_iff : r.act spec = .error failure ↔
    (∃ err, (r.apply spec).1 = .error (.failed err) ∧ err.isFatal = true ∧
      failure = ⟨stepName spec, .failed err⟩) ∨
    (r.apply spec).1 = .error .endless ∧ failure = ⟨stepName spec, .endless⟩ := by
  unfold act
  exact record_eq_error_iff

theorem Goes.append (goes : r.Goes before r') (on : after.foldlM act r' = .ok r'') :
    r.Goes (before ++ after) r'' := by
  obtain ⟨started, start, done⟩ := goes
  refine ⟨started, start, ?_⟩
  rw [List.foldlM_append, done]
  exact on

theorem run_eq_of_start {started : Replay} (start : r.start = .ok started)
    (actions : List ActionSpec) : r.run actions = (actions.foldlM act started).map report := by
  unfold run
  rw [start]
  change (actions.foldlM act started >>= fun r => pure r.report) = _
  cases actions.foldlM act started <;> rfl

/-- Actions fail by the first one that does. -/
theorem foldlM_act_eq_error_iff : actions.foldlM act r = .error failure ↔
    ∃ before spec after r', actions = before ++ spec :: after ∧ before.foldlM act r = .ok r' ∧
      r'.act spec = .error failure := by
  constructor
  · intro failed
    induction actions generalizing r with
    | nil => cases failed
    | cons spec rest ih =>
        rw [List.foldlM_cons] at failed
        cases acted : r.act spec with
        | error failure' =>
            rw [acted] at failed
            cases failed
            exact ⟨[], spec, rest, r, rfl, rfl, acted⟩
        | ok r₁ =>
            rw [acted] at failed
            obtain ⟨before, spec', after, r', rfl, done, failed⟩ := ih failed
            refine ⟨spec :: before, spec', after, r', rfl, ?_, failed⟩
            rw [List.foldlM_cons, acted]
            exact done
  · rintro ⟨before, spec, after, r', rfl, done, failed⟩
    rw [List.foldlM_append, done]
    change (spec :: after).foldlM act r' = _
    rw [List.foldlM_cons, failed]
    rfl

/-- A replay fails by its start or by the first action that fails. -/
theorem run_eq_error_iff_step : r.run actions = .error failure ↔
    r.start = .error failure ∨ ∃ before spec after r', actions = before ++ spec :: after ∧
      r.Goes before r' ∧ r'.act spec = .error failure := by
  cases started : r.start with
  | error failure' =>
      unfold run
      rw [started]
      constructor
      · intro failed
        cases failed
        exact Or.inl rfl
      · rintro (failed | ⟨-, -, -, -, -, ⟨r₁, goes, -⟩, -⟩)
        · cases failed
          rfl
        · rw [started] at goes
          cases goes
  | ok r₁ =>
      have fold : r.run actions = .error failure ↔
          actions.foldlM act r₁ = .error failure := by
        rw [run_eq_of_start started]
        cases actions.foldlM act r₁ <;> simp [Except.map]
      rw [fold, foldlM_act_eq_error_iff]
      constructor
      · rintro ⟨before, spec, after, r', split, done, failed⟩
        exact Or.inr ⟨before, spec, after, r', split, ⟨r₁, started, done⟩, failed⟩
      · rintro (failed | ⟨before, spec, after, r', split, ⟨r₂, goes, done⟩, failed⟩)
        · cases failed
        · rw [started] at goes
          cases goes
          exact ⟨before, spec, after, r', split, done, failed⟩

theorem start_eq_error_iff : r.start = .error failure ↔
    (∃ err, r.startProcess.1 = .error (.failed err) ∧ err.isFatal = true ∧
      failure = ⟨r.startName, .failed err⟩) ∨
    r.startProcess.1 = .error .endless ∧ failure = ⟨r.startName, .endless⟩ := by
  rw [start_eq]
  exact record_eq_error_iff

/-- A replay fails exactly if a step ends in a fatal error, and by the first such step. -/
theorem run_eq_error_iff {step : String} {err : WorkflowError} :
    r.run actions = .error ⟨step, .failed err⟩ ↔
      ∃ rest, r.FailsAt actions ⟨step, .failed err⟩ rest := by
  rw [run_eq_error_iff_step]
  constructor
  · rintro (failed | ⟨before, spec, after, r', split, goes, failed⟩)
    · rcases start_eq_error_iff.1 failed with ⟨err', failed, fatal, same⟩ | ⟨-, same⟩
      · cases same
        exact ⟨actions, .start failed fatal⟩
      · cases same
    · rcases act_eq_error_iff.1 failed with ⟨err', failed, fatal, same⟩ | ⟨-, same⟩
      · cases same
        exact ⟨after, .action split goes failed fatal⟩
      · cases same
  · rintro ⟨rest, failsAt⟩
    cases failsAt with
    | start failed fatal =>
        exact Or.inl (start_eq_error_iff.2 (Or.inl ⟨err, failed, fatal, rfl⟩))
    | action split goes failed fatal =>
        exact Or.inr ⟨_, _, _, _, split, goes,
          act_eq_error_iff.2 (Or.inl ⟨err, failed, fatal, rfl⟩)⟩

/-! ## The steps on record -/

theorem names_record {step : String} {result : Except Halt String}
    (recorded : r.record step result = .ok r') :
    r'.steps.map (·.step) = r.steps.map (·.step) ++ [step] := by
  rcases record_eq_ok_iff.1 recorded with ⟨outcome, -, rfl⟩ | ⟨err, -, -, rfl⟩
  · simp
  · simp

theorem names_act (acted : r.act spec = .ok r') :
    r'.steps.map (·.step) = r.steps.map (·.step) ++ [stepName spec] := by
  rcases act_eq_ok_iff.1 acted with ⟨outcome, -, rfl⟩ | ⟨err, -, -, rfl⟩
  · simp
  · simp

/-- There is a step on record for each action, in order. -/
theorem names_acts (acted : actions.foldlM act r = .ok r') :
    r'.steps.map (·.step) = r.steps.map (·.step) ++ actions.map stepName := by
  induction actions generalizing r with
  | nil =>
      cases acted
      exact (List.append_nil _).symm
  | cons spec rest ih =>
      rw [List.foldlM_cons] at acted
      obtain ⟨r₁, first, acted⟩ := Except.bind_eq_ok.1 acted
      rw [ih acted, names_act first, List.append_assoc, List.map_cons, List.singleton_append]

theorem Goes.names (goes : r.Goes actions r') :
    r'.steps.map (·.step) = r.steps.map (·.step) ++ r.startName :: actions.map stepName := by
  obtain ⟨started, start, done⟩ := goes
  rw [start_eq] at start
  rw [names_acts done, names_record start, (onward_startProcess r).steps, List.append_assoc,
    List.singleton_append]

theorem exists_goes_of_run {report : ReplayReport} (ran : r.run actions = .ok report) :
    ∃ r', r.Goes actions r' ∧ report = r'.report := by
  obtain ⟨started, start, ran⟩ := Except.bind_eq_ok.1 ran
  obtain ⟨r', done, ran⟩ := Except.bind_eq_ok.1 ran
  cases ran
  exact ⟨r', ⟨started, start, done⟩, rfl⟩

/-! ## Closed processes -/

/-- What is on record of an action that finds the process closed. -/
def refusal (r : Replay) (spec : ActionSpec) : StepRecord :=
  ⟨stepName spec, false, (WorkflowError.invalidState
    ("process " ++ toString r.process.id ++ " is " ++ r.process.status.label)).message⟩

/-- An action that finds the process closed is refused, whatever it names. -/
theorem act_of_closed (closed : r.process.status ≠ .processing) (spec : ActionSpec) :
    r.act spec = .ok { r with steps := r.steps ++ [r.refusal spec] } := by
  have refused : r.target spec = .error (.invalidState
      ("process " ++ toString r.process.id ++ " is " ++ r.process.status.label)) := by
    unfold target
    rw [if_pos closed]
    rfl
  rw [act, apply_of_untargeted refused]
  rfl

/-- Nothing but refusals comes after the process has been closed. -/
theorem acts_of_closed (closed : r.process.status ≠ .processing) (later : List ActionSpec) :
    later.foldlM act r = .ok { r with steps := r.steps ++ later.map r.refusal } := by
  induction later generalizing r with
  | nil =>
      rw [List.map_nil, List.append_nil]
      rfl
  | cons spec rest ih =>
      rw [List.foldlM_cons, act_of_closed closed]
      refine (ih (r := { r with steps := r.steps ++ [r.refusal spec] }) closed).trans ?_
      dsimp only
      rw [List.append_assoc]
      rfl

/-- In an open process an action on a task that the definition does not have is fatal. -/
theorem apply_of_unknown (opened : r.process.status = .processing)
    (unknown : r.definition.task? spec.task = none) :
    (r.apply spec).1 = .error (.failed (.configuration
      ("process " ++ r.definition.name ++ " has no task " ++ spec.task))) := by
  have missing : r.target spec = .error (.configuration
      ("process " ++ r.definition.name ++ " has no task " ++ spec.task)) := by
    unfold target
    rw [if_neg (by rw [opened]; decide)]
    simp only [task, unknown]
    rfl
  rw [apply_of_untargeted missing]

end Replay

/-! ## Moments -/

namespace Moment

variable {r r' : Replay} {m m' start : Moment} {done actions rest : List ActionSpec}
  {failure : ReplayFailure}

theorem actions_settle (r : Replay) (actions : List ActionSpec) (step : String)
    (result : Except WorkflowError String) :
    (settle r actions step result).actions = actions := by
  obtain ⟨steps, phase, same, -⟩ := settle_eq r actions step result
  rw [same]

theorem suffix_settle (r : Replay) (actions : List ActionSpec) (step : String)
    (result : Except WorkflowError String) :
    (settle r actions step result).actions <:+ actions := by
  rw [actions_settle]

theorem actions_applied (r : Replay) (actions : List ActionSpec) (spec : ActionSpec) (t : Task)
    (reply : Reply TaskTable EventLog Bool) :
    (applied r actions spec t reply).actions = actions := by
  unfold applied
  split
  · exact actions_settle ..
  · split
    · exact actions_settle ..
    · rfl

/-- The next action is taken off the list. -/
theorem actions_of_resting {spec : ActionSpec} (h : next ⟨r, .resting, spec :: actions⟩ = some m') :
    m'.actions = actions := by
  rcases target : r.target spec with err | ⟨t, row⟩
  · simp only [next, target] at h
    cases h
    exact actions_settle ..
  · simp only [next, target] at h
    cases h
    exact actions_applied ..

/-- A move takes the next action at most. -/
theorem suffix_next (h : m.next = some m') : m'.actions <:+ m.actions := by
  match m, h with
  | ⟨r, .opening, actions⟩, h =>
      rcases answer : r.notifyProcess .create r.context with ⟨err | ⟨⟩, r'⟩
      · simp only [next, answer] at h
        cases h
        exact suffix_settle ..
      · simp only [next, answer] at h
        cases h
        exact List.suffix_refl _
  | ⟨r, .walking step before [] entered, actions⟩, h =>
      cases h
      exact suffix_settle ..
  | ⟨r, .walking step before (name :: rest) entered, actions⟩, h =>
      cases h
      rcases r.visit name with ⟨err | names, r'⟩
      · exact suffix_settle ..
      · exact List.suffix_refl _
  | ⟨r, .resting, []⟩, h => cases h
  | ⟨r, .resting, spec :: actions⟩, h =>
      rw [actions_of_resting h]
      exact List.suffix_cons spec actions
  | ⟨r, .following spec t c taskId, actions⟩, h =>
      cases followed_of_next h with
      | goesOn approves =>
          unfold approved
          split
          · exact suffix_settle ..
          · exact suffix_settle ..
          · exact List.suffix_refl _
      | handsOver action => exact suffix_settle ..
      | closes veto final terminal => exact suffix_settle ..
      | refuses action => exact suffix_settle ..
  | ⟨r, .broken failure, actions⟩, h => cases h

theorem Leads.suffix (leads : Leads m m') : m'.actions <:+ m.actions := by
  induction leads with
  | refl => exact List.suffix_refl _
  | tail _ h ih => exact (suffix_next h).trans ih

theorem leads_acts (acted : done.foldlM Replay.act r = .ok r') (rest : List ActionSpec) :
    Leads ⟨r, .resting, done ++ rest⟩ ⟨r', .resting, rest⟩ := by
  induction done generalizing r with
  | nil =>
      cases acted
      exact Relation.ReflTransGen.refl
  | cons spec later ih =>
      rw [List.foldlM_cons] at acted
      obtain ⟨r₁, first, acted⟩ := Except.bind_eq_ok.1 acted
      have ends := endsIn_act r spec (later ++ rest)
      rw [first] at ends
      exact Relation.ReflTransGen.trans ends (ih acted)

/-- The steps of a replay are taken in its moments. -/
theorem leads_goes (goes : r.Goes done r') (rest : List ActionSpec) :
    Leads (begun r (done ++ rest)) ⟨r', .resting, rest⟩ := by
  obtain ⟨started, start, acted⟩ := goes
  have ends := endsIn_start r (done ++ rest)
  rw [start] at ends
  exact Relation.ReflTransGen.trans ends (leads_acts acted rest)

/-- After a fatal error nothing comes. -/
theorem leads_failsAt (failsAt : r.FailsAt actions failure rest) :
    ∃ r', Leads (begun r actions) ⟨r', .broken failure, rest⟩ := by
  cases failsAt with
  | start failed fatal =>
      have ends := endsIn_start r actions
      rw [Replay.start_eq_error_iff.2 (Or.inl ⟨_, failed, fatal, rfl⟩)] at ends
      exact ends
  | @action before after spec r₁ err split goes failed fatal =>
      have ends := endsIn_act r₁ spec rest
      rw [Replay.act_eq_error_iff.2 (Or.inl ⟨_, failed, fatal, rfl⟩)] at ends
      obtain ⟨r', last⟩ := ends
      rw [split]
      exact ⟨r', Relation.ReflTransGen.trans (leads_goes goes (spec :: rest)) last⟩

theorem suffix_of_failsAt (failsAt : r.FailsAt actions failure rest)
    (leads : Leads (begun r actions) m) : rest <:+ m.actions := by
  obtain ⟨r', last⟩ := leads_failsAt failsAt
  exact (leads.to_end last rfl).suffix

end Moment

end ApprovalFlow
