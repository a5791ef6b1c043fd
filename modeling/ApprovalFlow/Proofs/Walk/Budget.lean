import ApprovalFlow.Proofs.Walk.Passing

/-!
# The budget of a walk

A walk takes its names level by level: first the names that it starts from, then those that these
go on to, and so on. Every name that can be reached at all is reached within as many levels as there
are tasks, so a walk that has used up its budget has been past all of them; and what it has got past
once does not stop it later. It would go on for ever.

* `exists_within`: what can be reached is near.
* `Replay.Clears.walk`: a walk that nothing stops takes a name for each path.
* `Replay.walk_of_budget`: a walk that uses up its budget uses up every budget.
-/

namespace ApprovalFlow

/-! ## Levels -/

section Levels

variable {α : Type} {onward : α → List α} {name far : α} {steps : Nat}

/-- A name that some steps lead to. -/
def Within (onward : α → List α) : Nat → α → α → Prop
  | 0, name, far => far = name
  | steps + 1, name, far => ∃ next ∈ onward name, Within onward steps next far

theorem exists_within_of_reflTransGen (on : Relation.ReflTransGen (Follows onward) name far) :
    ∃ steps, Within onward steps name far := by
  induction on using Relation.ReflTransGen.head_induction_on with
  | refl => exact ⟨0, rfl⟩
  | head follows _ ih =>
      obtain ⟨steps, within⟩ := ih
      exact ⟨steps + 1, _, follows, within⟩

/-- On a shortest way there are as many different names that go on as there are steps. -/
theorem exists_nodup_of_nearest {inner : List α} (goesOn : ∀ name, onward name ≠ [] → name ∈ inner)
    (within : Within onward steps name far)
    (nearest : ∀ less < steps, ¬ Within onward less name far) :
    ∃ passed : List α, passed.Nodup ∧ passed ⊆ inner ∧ passed.length = steps ∧
      ∀ past ∈ passed, ∃ left ≤ steps, Within onward left past far ∧
        ∀ less < left, ¬ Within onward less past far := by
  induction steps generalizing name with
  | zero => exact ⟨[], List.nodup_nil, List.nil_subset _, rfl, by rintro past ⟨⟩⟩
  | succ steps ih =>
      obtain ⟨next, follows, within'⟩ := within
      obtain ⟨passed, apart, inside, length, distances⟩ := ih within' fun less few there =>
        nearest (less + 1) (Nat.succ_lt_succ few) ⟨next, follows, there⟩
      have new : name ∉ passed := by
        intro old
        obtain ⟨left, few, there, -⟩ := distances name old
        exact nearest left (Nat.lt_succ_of_le few) there
      refine ⟨name :: passed, List.nodup_cons.2 ⟨new, apart⟩, List.cons_subset.2 ⟨?_, inside⟩,
        by rw [List.length_cons, length], ?_⟩
      · refine goesOn name fun stops => ?_
        rw [stops] at follows
        cases follows
      · intro past member
        rcases List.mem_cons.1 member with rfl | old
        · exact ⟨steps + 1, Nat.le_refl _, ⟨next, follows, within'⟩, nearest⟩
        · obtain ⟨left, few, there⟩ := distances past old
          exact ⟨left, Nat.le_succ_of_le few, there⟩

/-- What can be reached is reached in no more steps than there are names that go on. -/
theorem exists_within {inner : List α} (goesOn : ∀ name, onward name ≠ [] → name ∈ inner)
    (on : Relation.ReflTransGen (Follows onward) name far) :
    ∃ steps ≤ inner.length, Within onward steps name far := by
  classical
  have there := exists_within_of_reflTransGen on
  obtain ⟨passed, apart, inside, length, -⟩ := exists_nodup_of_nearest goesOn
    (Nat.find_spec there) fun less few => Nat.find_min there few
  refine ⟨Nat.find there, ?_, Nat.find_spec there⟩
  rw [← length]
  exact apart.length_le_of_subset inside

end Levels

variable {roles : ListenerSpec → ListenerSpec → Prop}

namespace Replay

variable {r r' : Replay} {names entered : List String} {fuel : Nat}

theorem walk_nil (fuel : Nat) (entered : List String) (r : Replay) :
    walk fuel [] entered r = (.ok entered, r) := by
  cases fuel <;> rfl

/-! ## Walks that nothing stops -/

/-- A walk gets past everything that can be reached from some names. -/
def Clears (r : Replay) (names : List String) : Prop :=
  ∀ name ∈ names, ∀ far, Relation.ReflTransGen (Follows r.definition.onward) name far →
    r.Passes far

theorem Clears.of_kin (clears : r.Clears names) (kin : r.Kin r') (scripted : r.Scripted roles)
    (sound : r.engine.tasks.Sound) (sound' : r'.engine.tasks.Sound) : r'.Clears names := by
  intro name member far on
  rw [kin.definition] at on
  exact (clears name member far on).of_kin kin scripted sound sound'

/-- What a walk goes on to can be reached. -/
theorem Clears.onward {name : String} {rest : List String} (clears : r.Clears (name :: rest)) :
    r.Clears (rest ++ r.definition.onward name) := by
  intro next member far on
  rcases List.mem_append.1 member with later | follows
  · exact clears next (List.mem_cons_of_mem _ later) far on
  · exact clears name (List.mem_cons_self ..) far (.head follows on)

/-- A walk that nothing stops takes a name for each path, if it may take that many. -/
theorem Clears.walk (clears : r.Clears names) (scripted : r.Scripted roles)
    (sound : r.engine.tasks.Sound) (fuel : Nat) (entered : List String) :
    (∃ taken r', walk fuel names entered r = (.ok (entered ++ taken), r') ∧
        (paths r.definition.onward names).encard = taken.length ∧ taken.length ≤ fuel) ∨
      ∃ r', walk fuel names entered r = (.error .endless, r') ∧
        (fuel : ℕ∞) < (paths r.definition.onward names).encard := by
  induction fuel generalizing names entered r with
  | zero =>
      cases names with
      | nil =>
          refine Or.inl ⟨[], r, by rw [walk_nil, List.append_nil], ?_, le_refl _⟩
          rw [paths_nil, Set.encard_empty]
          rfl
      | cons name rest =>
          refine Or.inr ⟨r, rfl, ?_⟩
          rw [encard_paths_take]
          exact lt_of_lt_of_le one_pos le_add_self
  | succ fuel ih =>
      cases names with
      | nil =>
          refine Or.inl ⟨[], r, by rw [walk_nil, List.append_nil], ?_, Nat.zero_le _⟩
          rw [paths_nil, Set.encard_empty]
          rfl
      | cons name rest =>
          have kin := kin_visit r name
          have later := sound_visit sound name
          have passes := clears name (List.mem_cons_self ..) name .refl
          have answer := visit_of_passes passes scripted sound
          have goesOn := clears.onward.of_kin kin scripted sound later
          unfold Replay.walk
          rcases visited : r.visit name with ⟨err | next, r'⟩
          · rw [visited] at answer
            cases answer
          · rw [visited] at answer kin later goesOn
            cases answer
            have kept : r'.definition = r.definition := kin.definition
            dsimp only
            rcases ih goesOn (scripted.of_kin kin) later (entered ++ [name]) with
              ⟨taken, r'', walked, count, few⟩ | ⟨r'', walked, more⟩
            · rw [kept] at count
              refine Or.inl ⟨name :: taken, r'', ?_, ?_, Nat.succ_le_succ few⟩
              · rw [walked, List.append_assoc, List.singleton_append]
              · rw [encard_paths_take, count, List.length_cons]
                rfl
            · rw [kept] at more
              refine Or.inr ⟨r'', walked, ?_⟩
              rw [encard_paths_take, Nat.cast_add, Nat.cast_one]
              exact (ENat.add_lt_add_iff_right ENat.one_ne_top).2 more

/-! ## Walks that use up their budget -/

/-- A walk that goes on beyond the names in its queue has got past them. -/
theorem walk_beyond (scripted : r.Scripted roles) (sound : r.engine.tasks.Sound)
    (queue more : List String)
    (endless : (walk (queue.length + fuel) (queue ++ more) entered r).1 = .error .endless) :
    (∀ name ∈ queue, r.Passes name) ∧ ∃ entered' r', r.Kin r' ∧ r'.engine.tasks.Sound ∧
      (walk fuel (more ++ queue.flatMap r.definition.onward) entered' r').1 = .error .endless := by
  induction queue generalizing r more entered with
  | nil =>
      rw [List.length_nil, Nat.zero_add, List.nil_append] at endless
      refine ⟨by rintro name ⟨⟩, entered, r, Kin.refl r, sound, ?_⟩
      rw [List.flatMap_nil, List.append_nil]
      exact endless
  | cons name rest ih =>
      rw [List.length_cons, Nat.succ_add_eq_add_succ, Nat.add_succ, List.cons_append] at endless
      have kin := kin_visit r name
      have later := sound_visit sound name
      unfold walk at endless
      rcases visited : r.visit name with ⟨err | next, r'⟩
      · rw [visited] at endless
        cases endless
      · have passes : r.Passes name := ⟨next, congrArg Prod.fst visited⟩
        have answer := visit_of_passes passes scripted sound
        rw [visited] at endless answer kin later
        cases answer
        dsimp only at endless
        rw [List.append_assoc] at endless
        obtain ⟨others, entered', r'', kin', sound', on⟩ :=
          ih (scripted.of_kin kin) later (more ++ r.definition.onward name) endless
        refine ⟨?_, entered', r'', kin.trans kin', sound', ?_⟩
        · intro other member
          rcases List.mem_cons.1 member with rfl | old
          · exact passes
          · exact (others other old).of_kin kin.symm (scripted.of_kin kin) later sound
        · rw [kin.definition, List.append_assoc] at on
          rw [List.flatMap_cons]
          exact on

theorem length_flatMap_onward_le (p : ProcessDefinition) (names : List String) :
    (names.flatMap p.onward).length ≤ names.length * breadth p := by
  induction names with
  | nil => simp
  | cons name rest ih =>
      rw [List.flatMap_cons, List.length_append, List.length_cons, Nat.succ_mul, Nat.add_comm]
      exact Nat.add_le_add ih (ProcessDefinition.length_onward_le p name)

/-- A walk that goes on for some levels has got past everything on them. -/
theorem passes_of_levels {levels : Nat} (scripted : r.Scripted roles)
    (sound : r.engine.tasks.Sound)
    (endless : (walk fuel names entered r).1 = .error .endless)
    (enough : names.length * treeSize (breadth r.definition) levels ≤ fuel) {name far : String}
    (member : name ∈ names) {steps : Nat} (few : steps < levels)
    (within : Within r.definition.onward steps name far) : r.Passes far := by
  induction levels generalizing r fuel names entered name steps with
  | zero => exact absurd few (Nat.not_lt_zero _)
  | succ levels ih =>
      rw [treeSize_succ, Nat.mul_add, Nat.mul_one, Nat.add_comm] at enough
      obtain ⟨more, rfl⟩ := Nat.exists_eq_add_of_le (Nat.le_of_add_right_le enough)
      obtain ⟨passed, entered', r', kin, sound', on⟩ := walk_beyond scripted sound names []
        (by rw [List.append_nil]; exact endless)
      cases steps with
      | zero =>
          rw [show far = name from within]
          exact passed name member
      | succ steps =>
          obtain ⟨next, follows, within⟩ := within
          rw [List.nil_append, ← kin.definition] at on
          rw [← kin.definition] at within
          have beyond : next ∈ names.flatMap r'.definition.onward := by
            rw [kin.definition]
            exact List.mem_flatMap.2 ⟨name, member, follows⟩
          have room : (names.flatMap r'.definition.onward).length *
              treeSize (breadth r'.definition) levels ≤ more := by
            rw [kin.definition]
            calc (names.flatMap r.definition.onward).length * treeSize (breadth r.definition) levels
                ≤ names.length * breadth r.definition * treeSize (breadth r.definition) levels :=
                  Nat.mul_le_mul_right _ (length_flatMap_onward_le r.definition names)
              _ = names.length * (breadth r.definition * treeSize (breadth r.definition) levels) :=
                  Nat.mul_assoc ..
              _ ≤ more := Nat.le_of_add_le_add_left enough
          have passes := ih (scripted.of_kin kin) sound' on room beyond (Nat.lt_of_succ_lt_succ few)
            within
          exact passes.of_kin kin.symm (scripted.of_kin kin) sound' sound

/-- A walk that uses up its budget has got past everything that can be reached. -/
theorem clears_of_budget (scripted : r.Scripted roles) (sound : r.engine.tasks.Sound)
    (endless : (walk (budget r.definition names) names entered r).1 = .error .endless) :
    r.Clears names := by
  intro name member far on
  obtain ⟨steps, few, within⟩ :=
    exists_within (fun _ => ProcessDefinition.mem_names_of_onward) on
  rw [List.length_map] at few
  exact passes_of_levels scripted sound endless (le_refl _) member (Nat.lt_succ_of_le few) within

/-- A walk that uses up its budget uses up every budget. -/
theorem walk_of_budget (scripted : r.Scripted roles) (sound : r.engine.tasks.Sound)
    (endless : (walk (budget r.definition names) names [] r).1 = .error .endless) (fuel : Nat)
    (entered : List String) : (walk fuel names entered r).1 = .error .endless := by
  have clears := clears_of_budget scripted sound endless
  have round : (paths r.definition.onward names).encard = ⊤ := by
    rcases clears.walk scripted sound (budget r.definition names) [] with
      ⟨taken, r', walked, -⟩ | ⟨r', -, more⟩
    · rw [walked] at endless
      cases endless
    · refine encard_paths_of_circles ?_
      by_contra straight
      exact absurd (ProcessDefinition.encard_paths_le_budget straight) (not_le.2 more)
  rcases clears.walk scripted sound fuel entered with ⟨taken, r', -, count, -⟩ | ⟨r', walked, -⟩
  · rw [round] at count
    exact absurd count.symm (ENat.natCast_ne_top _)
  · rw [walked]

end Replay

end ApprovalFlow
