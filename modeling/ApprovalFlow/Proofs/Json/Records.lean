import ApprovalFlow.Json.Record
import ApprovalFlow.Proofs.Json.Inverse
import Mathlib.Data.List.Nodup

/-!
# Records are read back

A record is written as an object with one member for each field, under distinct names. So each field
finds its own member again, and it is left to the reader of the field to invert its writer.

* `Json.recordFields_obj` and `Json.splitTag_obj`: the members of a record, and of a tagged one.
* `Json.Field.optional_ofOption` and the lemmas beside it: one for each kind of field.
* `Json.RoundTrips`: a format whose texts are read as what they were written for.
-/

namespace ApprovalFlow.Json

theorem mapM_map_eq_some {α β γ : Type} {f : β → Option γ} {g : α → β} {h : α → γ} {l : List α}
    (all : ∀ a ∈ l, f (g a) = some (h a)) : (l.map g).mapM f = some (l.map h) := by
  induction l with
  | nil => rfl
  | cons a rest ih =>
      have others := ih fun b member => all b (List.mem_cons_of_mem _ member)
      rw [List.map_cons, List.mapM_cons, all a (List.mem_cons_self ..), others]
      rfl

/-! ## Members -/

/-- Under a name that is not there, there is no member. -/
theorem filter_key_eq_nil {members : List (String × Json)} {key : String}
    (absent : key ∉ members.map (·.1)) : members.filter (·.1 == key) = [] := by
  rw [List.filter_eq_nil_iff]
  intro m there same
  rw [beq_iff_eq] at same
  exact absent (List.mem_map.2 ⟨m, there, same⟩)

/-- Under distinct names a member is the only one of its name. -/
theorem filter_key {members : List (String × Json)} (distinct : (members.map (·.1)).Nodup)
    {m : String × Json} (member : m ∈ members) : members.filter (·.1 == m.1) = [m] := by
  induction members with
  | nil => cases member
  | cons n members ih =>
      rw [List.map_cons, List.nodup_cons] at distinct
      obtain ⟨new, distinct⟩ := distinct
      rcases List.mem_cons.1 member with rfl | there
      · rw [List.filter_cons_of_pos (by simp), filter_key_eq_nil new]
      · have apart : n.1 ≠ m.1 := by
          intro same
          rw [same] at new
          exact new (List.mem_map_of_mem there)
        rw [List.filter_cons_of_neg (by simpa using apart), ih distinct there]

/-- The fields of a record are found in its members. -/
theorem recordFields_obj {names : List String} {members : List (String × Json)}
    (named : members.map (·.1) = names) (distinct : names.Nodup) :
    recordFields names (.obj members) = some (members.map (.value ·.2)) := by
  subst named
  refine mapM_map_eq_some fun m member => ?_
  rw [filter_key distinct member]

/-- A record is read from the text that is written for it. -/
theorem parseAs_record {α : Type} {ofJson : Json → Option α} {names : List String}
    {members : List (String × Json)} {a : α} (named : members.map (·.1) = names)
    (fits : Fits depthLimit (.obj members)) (inverse : ofJson (.obj members) = some a) :
    parseAs (.fields names) (compact (.obj members)) >>= ofJson = some a := by
  rw [parseAs_compact named fits]
  exact inverse

/-- The tag of a tagged form is found in front of its other members. -/
theorem splitTag_obj {tag s : String} {members : List (String × Json)}
    (other : tag ∉ members.map (·.1)) :
    splitTag tag asText (.obj ((tag, .str s) :: members)) = some (s, .obj members) := by
  have all : members.filter (·.1 != tag) = members := by
    rw [List.filter_eq_self]
    intro m there
    have apart : m.1 ≠ tag := fun same => other (List.mem_map.2 ⟨m, there, same⟩)
    simpa using apart
  simp [splitTag, filter_key_eq_nil other, all, asText]

/-! ## Fields -/

section

variable {α : Type} {encode : α → Json} {decode : Json → Option α}

theorem Field.optional_ofOption (o : Option α) (reads : ∀ a ∈ o, decode (encode a) = some a)
    (present : ∀ a ∈ o, encode a ≠ .null) :
    (Field.value (ofOption encode o)).optional decode = some o := by
  cases o with
  | none => rfl
  | some a =>
      rw [ofOption, Field.optional]
      · rw [reads a rfl, Option.map_some]
      · exact present a rfl

theorem Field.optionalLast_ofOption (o : Option α) (reads : ∀ a ∈ o, decode (encode a) = some a)
    (present : ∀ a ∈ o, encode a ≠ .null) :
    (Field.value (ofOption encode o)).optionalLast decode = some o := by
  cases o with
  | none => rfl
  | some a =>
      rw [ofOption, Field.optionalLast]
      · rw [reads a rfl, Option.map_some]
      · exact present a rfl

/-- A value that was read from a field was read from something. -/
theorem Field.of_optionalLast {f : Field} {a : α} (read : f.optionalLast decode = some (some a)) :
    ∃ j, decode j = some a := by
  unfold Field.optionalLast at read
  split at read
  · cases read
  · rename_i j _
    obtain ⟨b, value, same⟩ := Option.map_eq_some_iff.1 read
    cases same
    exact ⟨j, value⟩
  · cases read
  · cases read

theorem Field.optionalLast_of_optional {f : Field} {o : Option α}
    (read : f.optional decode = some o) : f.optionalLast decode = some o := by
  cases f with
  | value j => cases j <;> exact read
  | missing => exact read
  | cut => cases read

theorem Field.of_required {f : Field} {a : α} (read : f.required decode = some a) :
    ∃ j, decode j = some a := by
  unfold Field.required at read
  split at read
  · exact ⟨_, read⟩
  · cases read

theorem Field.of_withDefault {f : Field} {a default : α}
    (read : f.withDefault default decode = some a) : a = default ∨ ∃ j, decode j = some a := by
  unfold Field.withDefault at read
  split at read
  · exact Or.inr ⟨_, read⟩
  · cases read
    exact Or.inl rfl
  · cases read
    exact Or.inl rfl

/-- A whole number that was read is within its bounds. -/
theorem bounds_of_asIntIn {low high n : Int} {j : Json} (read : asIntIn low high j = some n) :
    low ≤ n ∧ n ≤ high := by
  unfold asIntIn at read
  split at read
  · split at read
    · rename_i bounds
      cases read
      exact bounds
    · cases read
  · cases read

/-- A natural number that was read is below its limit. -/
theorem lt_of_asNatBelow {limit n : Nat} {j : Json} (read : asNatBelow limit j = some n) :
    n < limit := by
  unfold asNatBelow at read
  split at read
  · split at read
    · rename_i bounds
      cases read
      omega
    · cases read
  · cases read

theorem asList_map (l : List α) (reads : ∀ a ∈ l, decode (encode a) = some a) :
    asList decode (.arr (l.map encode)) = some l := by
  rw [asList, mapM_map_eq_some (h := id) reads, List.map_id]

theorem asList_ofTexts (l : List String) : asList asText (ofTexts l) = some l :=
  asList_map l fun _ _ => rfl

end

/-! ## What fits -/

section

variable {α : Type} {encode : α → Json} {d : Nat}

theorem Fits.mono {j : Json} (fits : Fits d j) {deeper : Nat} (le : d ≤ deeper) :
    Fits deeper j := by
  induction fits generalizing deeper with
  | null => exact .null
  | bool b => exact .bool b
  | int low high => exact .int low high
  | str s => exact .str s
  | arr _ ih =>
      obtain ⟨deeper, rfl⟩ := Nat.exists_eq_succ_of_ne_zero (Nat.ne_zero_of_lt le)
      exact .arr fun j member => ih j member (Nat.le_of_succ_le_succ le)
  | obj _ ih =>
      obtain ⟨deeper, rfl⟩ := Nat.exists_eq_succ_of_ne_zero (Nat.ne_zero_of_lt le)
      exact .obj fun m member => ih m member (Nat.le_of_succ_le_succ le)

theorem fits_ofOption (o : Option α) (fits : ∀ a ∈ o, Fits d (encode a)) :
    Fits d (ofOption encode o) := by
  cases o with
  | none => exact .null
  | some a => exact fits a rfl

theorem fits_map (l : List α) (fits : ∀ a ∈ l, Fits d (encode a)) :
    Fits (d + 1) (.arr (l.map encode)) := by
  refine .arr fun j member => ?_
  obtain ⟨a, there, rfl⟩ := List.mem_map.1 member
  exact fits a there

theorem fits_ofTexts (l : List String) : Fits (d + 1) (ofTexts l) :=
  fits_map l fun s _ => .str s

theorem fits_nil : ∀ m ∈ ([] : List (String × Json)), Fits d m.2 := by
  intro m member
  cases member

theorem fits_cons {key : String} {j : Json} {members : List (String × Json)} (fits : Fits d j)
    (others : ∀ m ∈ members, Fits d m.2) : ∀ m ∈ (key, j) :: members, Fits d m.2 :=
  List.forall_mem_cons.2 ⟨fits, others⟩

end

/-! ## Formats -/

/-- Every text of a good value is read as the value. Whatever text was read, what is written for
its value is read as the same value and written again as it is. -/
structure RoundTrips {α : Type} (toText : α → String) (ofText : String → Option α)
    (good : α → Prop) : Prop where
  reads : ∀ a, good a → ofText (toText a) = some a
  settles : ∀ s a, ofText s = some a → ofText (toText a) = some a ∧
    ∀ b, ofText (toText a) = some b → toText b = toText a

/-- It is enough that good values are read back and that nothing else is ever read. -/
theorem roundTrips_of_reads {α : Type} {toText : α → String} {ofText : String → Option α}
    {good : α → Prop} (reads : ∀ a, good a → ofText (toText a) = some a)
    (sound : ∀ s a, ofText s = some a → good a) : RoundTrips toText ofText good where
  reads := reads
  settles s a read := by
    have again := reads a (sound s a read)
    refine ⟨again, fun b other => ?_⟩
    rw [again, Option.some.injEq] at other
    rw [other]

end ApprovalFlow.Json
