import ApprovalFlow.Replay.Steps

/-!
# The steps on record

A step of a replay is put on record when it has ended, and nothing else touches the record
(`Replay.Onward`). `Replay.act_eq_ok_iff` says what is on record after an action that the replay
goes on after.
-/

namespace ApprovalFlow

namespace Replay

/-- A replay has gone on within a step. -/
structure Onward (r r' : Replay) : Prop where
  definition : r'.definition = r.definition
  form : r'.form = r.form
  steps : r'.steps = r.steps

variable {r r' r'' : Replay}

theorem Onward.refl (r : Replay) : r.Onward r :=
  ⟨rfl, rfl, rfl⟩

theorem Onward.trans (left : r.Onward r') (right : r'.Onward r'') : r.Onward r'' :=
  ⟨right.definition.trans left.definition, right.form.trans left.form,
    right.steps.trans left.steps⟩

theorem onward_enter (r : Replay) (t : Task) : r.Onward (r.enter t).2 := by
  unfold enter
  dsimp only
  split
  · exact ⟨rfl, rfl, rfl⟩
  · split
    · exact ⟨rfl, rfl, rfl⟩
    · split
      · exact ⟨rfl, rfl, rfl⟩
      · exact ⟨rfl, rfl, rfl⟩

theorem onward_visit (r : Replay) (name : String) : r.Onward (r.visit name).2 := by
  unfold visit
  split
  · exact ⟨rfl, rfl, rfl⟩
  · split
    · exact Onward.refl r
    · exact onward_enter r _

theorem onward_walk (fuel : Nat) (queue entered : List String) (r : Replay) :
    r.Onward (walk fuel queue entered r).2 := by
  induction fuel generalizing queue entered r with
  | zero => cases queue <;> exact Onward.refl r
  | succ fuel ih =>
      cases queue with
      | nil => exact Onward.refl r
      | cons name rest =>
          have first := onward_visit r name
          unfold walk
          rcases visited : r.visit name with ⟨err | names, r'⟩
          · rw [visited] at first
            exact first
          · rw [visited] at first
            exact first.trans (ih _ _ r')

theorem onward_advance (r : Replay) (names : List String) : r.Onward (r.advance names).2 := by
  have walked := onward_walk (budget r.definition names) names [] r
  unfold advance
  rcases answer : walk (budget r.definition names) names [] r with ⟨halt | entered, r'⟩
  · rw [answer] at walked
    exact walked
  · rw [answer] at walked
    exact walked

theorem onward_startProcess (r : Replay) : r.Onward r.startProcess.2 := by
  unfold startProcess
  rcases told : r.notifyProcess .create r.context with ⟨err | ⟨⟩, r'⟩
  all_goals
    have first : r.Onward r' := by
      rw [show r' = (r.notifyProcess .create r.context).2 by rw [told]]
      exact ⟨rfl, rfl, rfl⟩
  · exact first
  · exact first.trans (onward_advance r' r'.definition.start)

theorem onward_transfer (r : Replay) (t : Task) (c : Context) (users : List String) :
    r.Onward (r.transfer t c users).2 := by
  unfold transfer
  split
  · exact Onward.refl r
  · exact ⟨rfl, rfl, rfl⟩

theorem onward_followUp (r : Replay) (t : Task) (c : Context) (taskId : Int) (spec : ActionSpec) :
    r.Onward (r.followUp t c taskId spec).2 := by
  unfold followUp
  cases spec.action with
  | approve | complete =>
      dsimp only
      rcases (Processor.ofTask t).next t c r.engine with ⟨err | ⟨_ | ⟨name, rest⟩⟩, e⟩
      · exact ⟨rfl, rfl, rfl⟩
      · exact ⟨rfl, rfl, rfl⟩
      · have gone := onward_advance { r with engine := e } (name :: rest)
        exact ⟨gone.definition, gone.form, gone.steps⟩
  | transfer => exact onward_transfer r t c spec.transferTo
  | reject => exact ⟨rfl, rfl, rfl⟩
  | cancel => exact ⟨rfl, rfl, rfl⟩
  | terminate => exact ⟨rfl, rfl, rfl⟩
  | start => exact Onward.refl r

theorem onward_apply (r : Replay) (spec : ActionSpec) : r.Onward (r.apply spec).2 := by
  unfold apply
  rcases r.target spec with err | ⟨t, row⟩
  · exact Onward.refl r
  · dsimp only
    rcases (Processor.ofTask t).complete _ r.engine with ⟨err | done, c, e⟩
    · exact ⟨rfl, rfl, rfl⟩
    · dsimp only
      cases c.request with
      | error err => exact ⟨rfl, rfl, rfl⟩
      | ok a =>
          have gone := onward_followUp { r with engine := e } t c a.row.id spec
          exact ⟨gone.definition, gone.form, gone.steps⟩

/-- A step with its outcome is put on record unless it has failed for good. -/
theorem record_eq_ok_iff {step : String} {result : Except Halt String} :
    r.record step result = .ok r' ↔
      (∃ outcome, result = .ok outcome ∧
        r' = { r with steps := r.steps ++ [⟨step, true, outcome⟩] }) ∨
      ∃ err, result = .error (.failed err) ∧ err.isFatal = false ∧
        r' = { r with steps := r.steps ++ [⟨step, false, err.message⟩] } := by
  unfold record
  constructor
  · intro recorded
    rcases result with ⟨err | ⟨⟩⟩ | outcome
    · dsimp only at recorded
      split at recorded
      · cases recorded
      · rename_i ordinary
        cases recorded
        exact Or.inr ⟨err, rfl, by simpa using ordinary, rfl⟩
    · cases recorded
    · cases recorded
      exact Or.inl ⟨outcome, rfl, rfl⟩
  · rintro (⟨outcome, rfl, rfl⟩ | ⟨err, rfl, ordinary, rfl⟩)
    · rfl
    · dsimp only
      rw [ordinary]
      rfl

theorem record_eq_error_iff {step : String} {result : Except Halt String}
    {failure : ReplayFailure} :
    r.record step result = .error failure ↔
      (∃ err, result = .error (.failed err) ∧ err.isFatal = true ∧
        failure = ⟨step, .failed err⟩) ∨
      result = .error .endless ∧ failure = ⟨step, .endless⟩ := by
  unfold record
  constructor
  · intro stopped
    rcases result with ⟨err | ⟨⟩⟩ | outcome
    · dsimp only at stopped
      split at stopped
      · rename_i fatal
        cases stopped
        exact Or.inl ⟨err, rfl, fatal, rfl⟩
      · cases stopped
    · cases stopped
      exact Or.inr ⟨rfl, rfl⟩
    · cases stopped
  · rintro (⟨err, rfl, fatal, rfl⟩ | ⟨rfl, rfl⟩)
    · dsimp only
      rw [fatal]
      rfl
    · rfl

/-- An action that the replay goes on after has been put on record, as a success or as a failure. -/
theorem act_eq_ok_iff {spec : ActionSpec} :
    r.act spec = .ok r' ↔
      (∃ outcome, (r.apply spec).1 = .ok outcome ∧
        r' = { (r.apply spec).2 with steps := r.steps ++ [⟨stepName spec, true, outcome⟩] }) ∨
      ∃ err, (r.apply spec).1 = .error (.failed err) ∧ err.isFatal = false ∧
        r' = { (r.apply spec).2 with
          steps := r.steps ++ [⟨stepName spec, false, err.message⟩] } := by
  unfold act
  rw [record_eq_ok_iff, (onward_apply r spec).steps]

end Replay

end ApprovalFlow
