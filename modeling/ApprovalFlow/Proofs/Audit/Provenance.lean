import ApprovalFlow.Proofs.Audit.Desk

/-!
# Where the runs at a desk come from

A run of a listener is settled when it is made up: it carries what the listener gets to see. From
then on it is handed on as it is, from the caller to a pool and from there to a worker, and nothing
is run that has not been made up by somebody.

* `Desk.Admits`: all that is there to run at a desk, is being run or has run comes from a stock of
  runs.
* `Desk.Step.admits`: whatever happens next, that remains so; `Desk.Steps.admits` for any time.
-/

namespace ApprovalFlow

namespace Pool

variable {α : Type} {p : Pool α} {work : α}

theorem mem_unfinished_finish {worker : Nat} (member : work ∈ (p.finish worker).unfinished) :
    work ∈ p.unfinished := by
  unfold finish at member
  split at member
  · exact member
  · simp only [unfinished, List.mem_append, List.mem_map, List.mem_filter] at member ⊢
    rcases member with (waits | ⟨job, ⟨runs, -⟩, same⟩) | held
    · exact Or.inl (Or.inl waits)
    · exact Or.inl (Or.inr ⟨job, runs, same⟩)
    · exact Or.inr held

theorem mem_unfinished_finishOnCaller {ticket : Nat}
    (member : work ∈ (p.finishOnCaller ticket).unfinished) : work ∈ p.unfinished := by
  unfold finishOnCaller at member
  split at member
  · simp only [unfinished, List.mem_append, List.mem_map, List.mem_filter] at member ⊢
    rcases member with waits | ⟨job, ⟨held, -⟩, same⟩
    · exact Or.inl waits
    · exact Or.inr ⟨job, held, same⟩
  · exact member

end Pool

namespace Desk

variable {σ : Type} {P : Invocation → Prop} {past : List Observation} {d d' : Desk σ}

/-- All that there is to run at a desk, is being run or has run since some notes were made comes
from a stock of runs. -/
structure Admits (P : Invocation → Prop) (past : List Observation) (d : Desk σ) : Prop where
  todo : ∀ x ∈ d.todo, ∀ i, x.run? = some i → P i
  /-- Nobody notes a run that has not been made. -/
  notes : ∀ os, .noted os ∈ d.todo → runs os = []
  pools : ∀ family, ∀ i ∈ (d.engine.pool family).unfinished, P i
  begun : ∀ u ∈ d.begun, P u.call
  trace : ∃ more, d.engine.trace = past ++ more ∧
    ∀ o ∈ runs more, ∃ i, P i ∧ o = i.observation

/-- Whoever has something to run has it from the stock. -/
theorem Admits.holds (admits : d.Admits P past) {seat : Seat} {i : Invocation}
    (holds : d.floor.Holds seat i) : P i := by
  have pools : d.floor.engine.pool = d.engine.pool := Engine.pool_withEvents ..
  cases holds with
  | inLine todo => exact admits.todo _ (todo ▸ List.mem_cons_self ..) i rfl
  | @caller family job member =>
      rw [pools] at member
      refine admits.pools family _ ?_
      exact List.mem_append_right _ (List.mem_map_of_mem member)
  | @worker family number job member =>
      rw [pools] at member
      refine admits.pools family _ ?_
      exact List.mem_append_left _ (List.mem_append_right _ (List.mem_map.2 ⟨_, member, rfl⟩))

/-- One pool is changed, and nothing is done that was not to be done. -/
theorem Admits.withPool (admits : d.Admits P past) {family : Family} {p : Pool Invocation}
    {todo : List Effect} (here : ∀ i ∈ p.unfinished, P i) (rest : todo ⊆ d.todo) :
    ({ d with engine := d.engine.withPool family p, todo := todo } : Desk σ).Admits P past where
  todo x member := admits.todo x (rest member)
  notes os member := admits.notes os (rest member)
  pools other i member := by
    by_cases same : other = family
    · subst same
      rw [Engine.pool_withPool] at member
      exact here i member
    · rw [Engine.pool_withPool_of_ne same] at member
      exact admits.pools other i member
  begun := admits.begun
  trace := by
    have kept : (d.engine.withPool family p).trace = d.engine.trace := by cases family <;> rfl
    dsimp only
    rw [kept]
    exact admits.trace

theorem Admits.leave (admits : d.Admits P past) (seat : Seat) : (d.leave seat).Admits P past := by
  cases seat with
  | inLine =>
      exact ⟨fun x member => admits.todo x (List.mem_of_mem_tail member),
        fun os member => admits.notes os (List.mem_of_mem_tail member), admits.pools,
        admits.begun, admits.trace⟩
  | caller family ticket =>
      exact admits.withPool (fun i member => admits.pools family i
        (Pool.mem_unfinished_finishOnCaller member)) fun _ => id
  | worker family number =>
      exact admits.withPool (fun i member => admits.pools family i
        (Pool.mem_unfinished_finish member)) fun _ => id

variable [EventStore σ]

/-- What happens makes up no runs. -/
theorem Step.admits (step : Step d d') (admits : d.Admits P past) : d'.Admits P past := by
  cases step with
  | @does x rest todo silent free =>
      have later : rest ⊆ d.todo := todo ▸ List.subset_cons_self ..
      obtain ⟨more, trace, known⟩ := admits.trace
      cases x with
      | noted os =>
          have none := admits.notes os (todo ▸ List.mem_cons_self ..)
          refine ⟨fun x member => admits.todo x (later member),
            fun os member => admits.notes os (later member), admits.pools, admits.begun,
            more ++ os, ?_, ?_⟩
          · dsimp only [Engine.perform]
            rw [trace, List.append_assoc]
          · rw [runs_append, none, List.append_nil]
            exact known
      | stored tasks =>
          exact ⟨fun x member => admits.todo x (later member),
            fun os member => admits.notes os (later member), admits.pools, admits.begun, more,
            trace, known⟩
      | ran => cases silent
      | submitted => cases silent
  | @submits i rest todo free =>
      have own : P i := admits.todo _ (todo ▸ List.mem_cons_self ..) i rfl
      refine admits.withPool (fun j member => ?_) (todo ▸ List.subset_cons_self ..)
      rcases List.mem_cons.1 ((Pool.unfinished_submit _ i).mem_iff.1 member) with rfl | old
      · exact own
      · exact admits.pools _ j old
  | takes taken =>
      exact admits.withPool (fun i member => admits.pools _ i
        ((Pool.unfinished_take taken).mem_iff.1 member)) fun _ => id
  | @reorders family queue same =>
      have works : ({ d.engine.pool family with queued := queue } : Pool Invocation).unfinished.Perm
          (d.engine.pool family).unfinished :=
        ((same.map (·.work)).append_right _).append_right _
      exact admits.withPool (fun i member => admits.pools family i (works.mem_iff.1 member))
        fun _ => id
  | @opens seat i holds fresh free =>
      refine ⟨admits.todo, admits.notes, admits.pools, fun u member => ?_, admits.trace⟩
      rcases List.mem_append.1 member with old | new
      · exact admits.begun u old
      · rw [List.mem_singleton.1 new]
        exact admits.holds holds
  | @hears before after u here silent =>
      have own : P u.call := admits.begun u (here ▸ by simp)
      obtain ⟨more, trace, known⟩ := admits.trace
      refine ⟨admits.todo, admits.notes, admits.pools, fun v member => ?_,
        more ++ [u.call.observation], ?_, fun o member => ?_⟩
      · rcases List.mem_append.1 member with early | later
        · exact admits.begun v (here ▸ List.mem_append_left _ early)
        · rcases List.mem_cons.1 later with rfl | late
          · exact own
          · exact admits.begun v (here ▸ by simp [late])
      · dsimp only [Engine.note]
        rw [trace, List.append_assoc]
      · rw [runs_append] at member
        rcases List.mem_append.1 member with old | new
        · exact known o old
        · exact ⟨u.call, own, List.mem_singleton.1 new⟩
  | @closes before after u here answered =>
      have settled : (d.settle u (before ++ after)).Admits P past := by
        unfold settle
        rw [Engine.closeRecord_eq_withEvents]
        refine ⟨admits.todo, admits.notes, fun family => ?_, fun v member => ?_, admits.trace⟩
        · dsimp only
          rw [Engine.pool_withEvents]
          exact admits.pools family
        · refine admits.begun v (here ▸ ?_)
          rcases List.mem_append.1 member with early | late
          · exact List.mem_append_left _ early
          · exact List.mem_append_right _ (List.mem_cons_of_mem _ late)
      exact settled.leave u.seat
  | ticks now => exact ⟨admits.todo, admits.notes, admits.pools, admits.begun, admits.trace⟩

theorem Steps.admits (steps : Steps d d') (admits : d.Admits P past) : d'.Admits P past := by
  induction steps with
  | refl => exact admits
  | tail _ step ih => exact step.admits ih

end Desk

end ApprovalFlow
