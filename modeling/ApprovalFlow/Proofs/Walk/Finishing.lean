import ApprovalFlow.Proofs.Walk.Budget
import ApprovalFlow.Proofs.Walk.Calm

/-!
# Walks that finish

Where nothing fails, what a walk does is settled by the definition alone. A name taken off the queue
is a path that stops there, so that a walk takes as many names as there are paths; and there is an
end to them unless they go round in a circle of service tasks.

* `Replay.Unhindered.walk`: a walk finishes if it may take as many names as there are paths.
* `Scenario.walk_finishes_iff`: which walks finish, after how many names, and that the budget of
  `Replay.advance` is enough for them.
-/

namespace ApprovalFlow

variable {roles : ListenerSpec → ListenerSpec → Prop}

namespace Replay

/-- A walk that may take enough names takes these and has then none left. -/
def Finishes (r : Replay) (names entered : List String) (r' : Replay) : Prop :=
  ∃ fuel, walk fuel names [] r = (.ok entered, r')

variable {r r' : Replay} {names entered all : List String} {fuel more : Nat}

theorem finishes_of_walk (finished : (walk fuel names [] r).1.toOption = some entered) :
    ∃ r', r.Finishes names entered r' := by
  rcases walked : walk fuel names [] r with ⟨halt | all, r'⟩
  · rw [walked] at finished
    cases finished
  · rw [walked] at finished
    cases finished
    exact ⟨r', fuel, walked⟩

/-- A walk that has finished does not use what is left of its budget. -/
theorem walk_of_le (finished : walk fuel names entered r = (.ok all, r')) (enough : fuel ≤ more) :
    walk more names entered r = (.ok all, r') := by
  induction fuel generalizing names entered r more with
  | zero =>
      cases names with
      | nil => rw [← finished, walk_nil, walk_nil]
      | cons name rest => cases finished
  | succ fuel ih =>
      obtain ⟨more, rfl⟩ := Nat.exists_eq_add_of_lt enough
      cases names with
      | nil => rw [← finished, walk_nil, walk_nil]
      | cons name rest =>
          unfold walk at finished ⊢
          rcases visited : r.visit name with ⟨err | next, r₁⟩
          · rw [visited] at finished
            cases finished
          · rw [visited] at finished
            exact ih finished (Nat.le_add_right ..)

/-- Nothing that can be reached hinders a walk. -/
theorem Unhindered.clears (free : r.Unhindered roles) (known : r.definition.Knows names) :
    r.Clears names := by
  intro name member far on
  have there : far = ProcessDefinition.endName ∨ r.definition.knows far = true := by
    induction on with
    | refl => exact known name member
    | tail _ follows _ => exact ProcessDefinition.knows_onward free.valid _ _ follows
  exact ⟨_, free.visit_eq there⟩

/-- A walk that nothing hinders takes a name for each path, if it may take that many. -/
theorem Unhindered.walk (free : r.Unhindered roles) (known : r.definition.Knows names) (fuel : Nat)
    (entered : List String) :
    (∃ taken r', walk fuel names entered r = (.ok (entered ++ taken), r') ∧
        (paths r.definition.onward names).encard = taken.length ∧ taken.length ≤ fuel) ∨
      ∃ r', walk fuel names entered r = (.error .endless, r') ∧
        (fuel : ℕ∞) < (paths r.definition.onward names).encard :=
  (free.clears known).walk free.scripted free.sound fuel entered

/-- A walk that finishes has taken as many names as there are paths. -/
theorem Unhindered.encard_of_finishes (free : r.Unhindered roles)
    (known : r.definition.Knows names) (finishes : r.Finishes names entered r') :
    (paths r.definition.onward names).encard = entered.length := by
  obtain ⟨fuel, finished⟩ := finishes
  rcases free.walk known fuel [] with ⟨taken, r'', walked, count, -⟩ | ⟨r'', walked, -⟩
  · rw [finished] at walked
    cases walked
    exact count
  · rw [finished] at walked
    cases walked

theorem Unhindered.not_circles_of_finishes (free : r.Unhindered roles)
    (known : r.definition.Knows names) (finishes : r.Finishes names entered r') :
    ¬ Circles r.definition.onward names := by
  intro circles
  have count := free.encard_of_finishes known finishes
  rw [encard_paths_of_circles circles] at count
  exact ENat.natCast_ne_top _ count.symm

/-- The budget is enough where there are no circles. -/
theorem Unhindered.walk_budget (free : r.Unhindered roles) (known : r.definition.Knows names)
    (straight : ¬ Circles r.definition.onward names) :
    ∃ entered r', Replay.walk (budget r.definition names) names [] r = (.ok entered, r') := by
  rcases free.walk known (budget r.definition names) [] with ⟨taken, r', walked, -⟩ | ⟨r', -, more⟩
  · exact ⟨taken, r', walked⟩
  · exact absurd (ProcessDefinition.encard_paths_le_budget straight) (not_le.2 more)

/-- `Replay.advance` goes on until the walk has finished. -/
theorem Unhindered.advance_of_finishes (free : r.Unhindered roles)
    (known : r.definition.Knows names) (finishes : r.Finishes names entered r') :
    r.advance names = (.ok ("entered " ++ String.intercalate " -> " entered), r') := by
  obtain ⟨entered', r'', walked⟩ :=
    free.walk_budget known (free.not_circles_of_finishes known finishes)
  obtain ⟨fuel, finished⟩ := finishes
  have both := walk_of_le finished (Nat.le_max_left _ (budget r.definition names))
  rw [walk_of_le walked (Nat.le_max_right ..)] at both
  cases both
  unfold advance
  rw [walked]

/-- `Replay.advance` finds out that a walk goes round. -/
theorem Unhindered.advance_of_circles (free : r.Unhindered roles) (known : r.definition.Knows names)
    (circles : Circles r.definition.onward names) :
    (r.advance names).1 = .error .endless := by
  rcases free.walk known (budget r.definition names) [] with
    ⟨taken, r', walked, -⟩ | ⟨r', walked, -⟩
  · exact absurd circles (free.not_circles_of_finishes known ⟨_, walked⟩)
  · unfold advance
    rw [walked]

end Replay

/-- In a replay of an accepted scenario where no listener in line fails and every user task has
somebody to approve it, whatever has been done before, a walk from tasks of the definition and the
end finishes exactly when no circle of service tasks can be reached, and takes as many names as
there are paths. The budget of `Replay.advance` is enough for every walk that finishes. -/
theorem Scenario.walk_finishes_iff {s : Scenario} {now : Instant} {b : BuiltScenario}
    (built : s.build now = .ok b) (quiet : s.Quiet) (staffed : s.Staffed) (config : WorkflowConfig)
    (time : Instant) (actions : List ActionSpec) {m : Moment}
    (leads : Moment.Leads (.begun (b.replay config time) actions) m) {names : List String}
    (known : b.definition.Knows names) :
    ((∃ entered r', m.replay.Finishes names entered r') ↔ ¬ Circles b.definition.onward names) ∧
    (∀ entered r', m.replay.Finishes names entered r' →
      (paths b.definition.onward names).encard = entered.length ∧
      m.replay.advance names = (.ok ("entered " ++ String.intercalate " -> " entered), r')) ∧
    (Circles b.definition.onward names → (m.replay.advance names).1 = .error .endless) := by
  obtain ⟨same, free⟩ := unhindered_of_build built quiet staffed config time actions leads
  rw [← same] at known ⊢
  refine ⟨⟨?_, ?_⟩, ?_, free.advance_of_circles known⟩
  · rintro ⟨entered, r', finishes⟩
    exact free.not_circles_of_finishes known finishes
  · intro straight
    obtain ⟨entered, r', walked⟩ := free.walk_budget known straight
    exact ⟨entered, r', _, walked⟩
  · intro entered r' finishes
    exact ⟨free.encard_of_finishes known finishes, free.advance_of_finishes known finishes⟩

/-! ## A walk that fans out, and one that goes round -/

namespace Scenario

/-- A service task that is followed by another one twice. -/
def fan : Scenario where
  process := ⟨1, "P", none, "carol", none, ["prepare"]⟩
  form := none
  tasks := [⟨"prepare", none, .service [], ["deploy", "deploy", "end"]⟩,
    ⟨"deploy", none, .service ["INIT_MQ"], ["review"]⟩,
    ⟨"review", none, .user [" ", "alice"] true none, ["prepare"]⟩]
  listeners := [⟨"topic", .service .queue .always, "COMPLETE", false, none⟩,
    ⟨"mail", .task "review", "CREATE", true, some "no mail"⟩]
  actions := []

/-- A service task that is done until it succeeds, which nobody finds out. -/
def retry : Scenario :=
  { fan with tasks := [⟨"prepare", none, .service [], ["deploy", "end"]⟩,
      ⟨"deploy", none, .service ["INIT_MQ"], ["review", "prepare"]⟩,
      ⟨"review", none, .user [" ", "alice"] true none, ["prepare"]⟩] }

/-- The walk that fans out takes eight names; the one that goes round takes names for ever. -/
theorem fan_finishes_and_retry_does_not :
    (∃ b, fan.build default = .ok b ∧ ¬ Circles b.definition.onward ["prepare", "deploy"] ∧
      (paths b.definition.onward ["prepare", "deploy"]).encard = 8) ∧
    ∃ b, retry.build default = .ok b ∧ Circles b.definition.onward ["review", "deploy"] ∧
      ∀ entered r', ¬ (b.replay .standard default).Finishes ["review", "deploy"] entered r' := by
  refine ⟨?_, ?_⟩
  · have walked : fan.moment?.map (fun m =>
        (m.replay.definition.knows "prepare" && m.replay.definition.knows "deploy",
          (Replay.walk 8 ["prepare", "deploy"] [] m.replay).1.toOption)) =
        some (true, some ["prepare", "deploy", "deploy", "deploy", "end", "review", "review",
          "review"]) := by
      decide +kernel
    obtain ⟨m, there, walked⟩ := Option.map_eq_some_iff.1 walked
    obtain ⟨b, built, rfl⟩ := build_of_moment? there
    simp only [Prod.mk.injEq, Bool.and_eq_true] at walked
    obtain ⟨⟨prepare, deploy⟩, taken⟩ := walked
    have known : b.definition.Knows ["prepare", "deploy"] := by
      intro name member
      rcases List.mem_pair.1 member with rfl | rfl
      · exact Or.inr prepare
      · exact Or.inr deploy
    obtain ⟨finishes, counts, -⟩ := walk_finishes_iff built (by decide) (by decide) .standard
      default b.actions Relation.ReflTransGen.refl known
    obtain ⟨r', finished⟩ := Replay.finishes_of_walk taken
    exact ⟨b, built, finishes.1 ⟨_, r', finished⟩, (counts _ r' finished).1⟩
  · have goesOn : retry.moment?.map (fun m =>
        (m.replay.definition.knows "review" && m.replay.definition.knows "deploy",
          m.replay.definition.onward "deploy", m.replay.definition.onward "prepare")) =
        some (true, ["review", "prepare"], ["deploy", "end"]) := by
      decide +kernel
    obtain ⟨m, there, goesOn⟩ := Option.map_eq_some_iff.1 goesOn
    obtain ⟨b, built, rfl⟩ := build_of_moment? there
    simp only [Prod.mk.injEq, Bool.and_eq_true] at goesOn
    obtain ⟨⟨review, deploy⟩, again, on⟩ := goesOn
    have known : b.definition.Knows ["review", "deploy"] := by
      intro name member
      rcases List.mem_pair.1 member with rfl | rfl
      · exact Or.inr review
      · exact Or.inr deploy
    have back : Follows b.definition.onward "deploy" "prepare" := by
      rw [Follows, show b.definition.onward "deploy" = _ from again]
      decide
    have forth : Follows b.definition.onward "prepare" "deploy" := by
      rw [Follows, show b.definition.onward "prepare" = _ from on]
      decide
    have circles : Circles b.definition.onward ["review", "deploy"] :=
      ⟨"deploy", by decide, "deploy", .refl, .tail (.single back) forth⟩
    obtain ⟨finishes, -, -⟩ := walk_finishes_iff built (by decide) (by decide) .standard
      default b.actions Relation.ReflTransGen.refl known
    refine ⟨b, built, circles, ?_⟩
    intro entered r' finished
    exact finishes.1 ⟨entered, r', finished⟩ circles

end Scenario

end ApprovalFlow
