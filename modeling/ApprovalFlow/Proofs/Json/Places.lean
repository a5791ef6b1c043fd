import ApprovalFlow.Proofs.Json.Records
import Mathlib.Data.List.Induction
import Mathlib.Data.String.Basic

/-!
# What stands where in a value

A value is looked at from outside: a path goes from a value to a member or an item and on from
there, and of members with one key the last one counts. `Json.canonical` sorts members and drops
those that do not count, at every level, and no path can tell the difference.

* `Json.faceAt`: what stands at the end of a path.
* `Json.faceAt_canonical`: the map reading of a value keeps it.
* `Json.Settled`: what is sorted at every level already. `Json.settled_canonical` and
  `Json.Settled.canonical_eq`: that is what map readings are.
-/

namespace ApprovalFlow.Json

/-- What is proved of a value from what stands in it is proved of all values. -/
@[elab_as_elim]
theorem induct {P : Json → Prop} (null : P .null) (bool : ∀ b, P (.bool b)) (int : ∀ n, P (.int n))
    (float : ∀ x, P (.float x)) (str : ∀ s, P (.str s))
    (arr : ∀ items : List Json, (∀ j ∈ items, P j) → P (.arr items))
    (obj : ∀ members : List (String × Json), (∀ m ∈ members, P m.2) → P (.obj members)) :
    ∀ j, P j
  | .null => null
  | .bool b => bool b
  | .int n => int n
  | .float x => float x
  | .str s => str s
  | .arr items => arr items fun j _ => induct null bool int float str arr obj j
  | .obj members => obj members fun m _ => induct null bool int float str arr obj m.2
termination_by j => sizeOf j
decreasing_by
  · have less := List.sizeOf_lt_of_mem ‹j ∈ items›
    simp only [Json.arr.sizeOf_spec]
    omega
  · have less := List.sizeOf_lt_of_mem ‹m ∈ members›
    have part : sizeOf m.2 < sizeOf m := by
      cases m
      simp only [Prod.mk.sizeOf_spec]
      omega
    simp only [Json.obj.sizeOf_spec]
    omega

/-! ## Paths -/

/-- One step into a value: to the member of a key, or to an item. -/
inductive Place where
  | key (name : String)
  | item (index : Nat)
  deriving DecidableEq, Repr

/-- A value without what stands in it. -/
inductive Face where
  | null
  | bool (value : Bool)
  | int (value : Int)
  | float (value : Binary64)
  | str (value : String)
  | arr (size : Nat)
  | obj
  deriving Repr

/-- What a value looks like from outside. -/
def face : Json → Face
  | .null => .null
  | .bool b => .bool b
  | .int n => .int n
  | .float x => .float x
  | .str s => .str s
  | .arr items => .arr items.length
  | .obj _ => .obj

/-- The value of the last member with a key. -/
def last? (name : String) (members : List (String × Json)) : Option Json :=
  (members.reverse.find? (·.1 == name)).map (·.2)

/-- What stands in a place of a value. -/
def under? : Place → Json → Option Json
  | .key name, .obj members => last? name members
  | .item index, .arr items => items[index]?
  | _, _ => none

/-- What stands at the end of a path. -/
def faceAt : List Place → Json → Option Face
  | [], j => some j.face
  | place :: rest, j => (j.under? place).bind (faceAt rest)

/-! ## Members under their keys -/

/-- What is under a key once a member has been put in. -/
theorem member?_insertMember (key : String) (value : Json) (members : List (String × Json))
    (k : String) :
    (Json.obj (insertMember key value members)).member? k =
      if k = key then some value else (Json.obj members).member? k := by
  unfold member?
  fun_induction insertMember key value members
  case case4 first v rest less apart ih =>
    by_cases here : first = k
    · have other : k ≠ key := fun same => apart (same.symm.trans here.symm)
      simp [here, other]
    · simpa [here] using ih
  -- In all other cases the member is the first.
  all_goals
    by_cases same : key = k
    · simp [same]
    · simp [same, Ne.symm same]

theorem last?_concat (name : String) (members : List (String × Json)) (m : String × Json) :
    last? name (members ++ [m]) = if m.1 = name then some m.2 else last? name members := by
  unfold last?
  rw [List.reverse_concat, List.find?_cons]
  by_cases here : m.1 = name
  · simp [here]
  · have other : (m.1 == name) = false := beq_eq_false_iff_ne.2 here
    simp [here, other]

theorem sortMembers_concat (members : List (String × Json)) (m : String × Json) :
    sortMembers (members ++ [m]) = insertMember m.1 m.2 (sortMembers members) := by
  rw [sortMembers, List.foldl_concat, ← sortMembers]

/-- Sorting puts under each key the value that was written last. -/
theorem member?_sortMembers (members : List (String × Json)) (k : String) :
    (Json.obj (sortMembers members)).member? k = last? k members := by
  induction members using List.reverseRecOn with
  | nil => rfl
  | append_singleton members m ih =>
      rw [sortMembers_concat, member?_insertMember, last?_concat, ih]
      simp only [eq_comm]

/-- Under distinct keys the first member of a key is the last. -/
theorem last?_eq_member? {members : List (String × Json)} (distinct : (members.map (·.1)).Nodup)
    (k : String) : last? k members = (Json.obj members).member? k := by
  unfold last? member?
  dsimp only
  rw [← List.head?_filter, ← List.head?_filter, List.filter_reverse]
  by_cases there : k ∈ members.map (·.1)
  · obtain ⟨m, member, rfl⟩ := List.mem_map.1 there
    rw [filter_key distinct member]
    rfl
  · rw [filter_key_eq_nil there]
    rfl

/-! ## Sorted members -/

/-- Sorted by key at every level, each key once. -/
inductive Settled : Json → Prop
  | null : Settled .null
  | bool (b : Bool) : Settled (.bool b)
  | int (n : Int) : Settled (.int n)
  | float (x : Binary64) : Settled (.float x)
  | str (s : String) : Settled (.str s)
  | arr {items : List Json} : (∀ j ∈ items, Settled j) → Settled (.arr items)
  | obj {members : List (String × Json)} : members.Pairwise (·.1 < ·.1) →
    (∀ m ∈ members, Settled m.2) → Settled (.obj members)

theorem settled_ofTexts (l : List String) : Settled (ofTexts l) := by
  refine .arr fun j member => ?_
  obtain ⟨s, -, rfl⟩ := List.mem_map.1 member
  exact .str s

theorem mem_insertMember {key : String} {value : Json} {members : List (String × Json)}
    {m : String × Json} (member : m ∈ insertMember key value members) :
    m = (key, value) ∨ m ∈ members := by
  fun_induction insertMember key value members
  case case4 first v rest less apart ih =>
    rcases List.mem_cons.1 member with rfl | later
    · exact Or.inr (List.mem_cons_self ..)
    · exact (ih later).imp_right (List.mem_cons_of_mem _)
  all_goals grind

theorem pairwise_insertMember {members : List (String × Json)}
    (sorted : members.Pairwise (·.1 < ·.1)) (key : String) (value : Json) :
    (insertMember key value members).Pairwise (·.1 < ·.1) := by
  fun_induction insertMember key value members
  case case1 => exact List.pairwise_singleton _ _
  case case2 first v rest less =>
    refine List.pairwise_cons.2 ⟨fun m member => ?_, sorted⟩
    rcases List.mem_cons.1 member with rfl | later
    · exact less
    · exact less.trans ((List.pairwise_cons.1 sorted).1 m later)
  case case3 => exact List.pairwise_cons.2 (List.pairwise_cons.1 sorted)
  case case4 first v rest less apart ih =>
    obtain ⟨front, sorted⟩ := List.pairwise_cons.1 sorted
    refine List.pairwise_cons.2 ⟨fun m member => ?_, ih sorted⟩
    rcases mem_insertMember member with rfl | later
    · exact lt_of_le_of_ne (not_lt.1 less) fun same => apart same.symm
    · exact front m later

theorem pairwise_sortMembers (members : List (String × Json)) :
    (sortMembers members).Pairwise (·.1 < ·.1) := by
  induction members using List.reverseRecOn with
  | nil => exact .nil
  | append_singleton members m ih =>
      rw [sortMembers_concat]
      exact pairwise_insertMember ih m.1 m.2

theorem mem_of_mem_sortMembers {members : List (String × Json)} {m : String × Json}
    (member : m ∈ sortMembers members) : m ∈ members := by
  induction members using List.reverseRecOn with
  | nil => exact member
  | append_singleton members m' ih =>
      rw [sortMembers_concat] at member
      rcases mem_insertMember member with rfl | old
      · exact List.mem_append_right _ (List.mem_singleton.2 rfl)
      · exact List.mem_append_left _ (ih old)

/-- Keys that are sorted are distinct. -/
theorem nodup_of_pairwise {members : List (String × Json)}
    (sorted : members.Pairwise (·.1 < ·.1)) : (members.map (·.1)).Nodup :=
  List.pairwise_map.2 (sorted.imp fun less => less.ne)

/-- A member behind all others is put in at the end. -/
theorem insertMember_of_last {members : List (String × Json)} {key : String}
    (behind : ∀ m ∈ members, m.1 < key) (value : Json) :
    insertMember key value members = members ++ [(key, value)] := by
  induction members with
  | nil => rfl
  | cons m rest ih =>
      obtain ⟨first, others⟩ := List.forall_mem_cons.1 behind
      rw [insertMember, if_neg first.not_gt, if_neg first.ne', ih others, List.cons_append]

/-- Sorting leaves sorted members as they are. -/
theorem sortMembers_eq {members : List (String × Json)} (sorted : members.Pairwise (·.1 < ·.1)) :
    sortMembers members = members := by
  induction members using List.reverseRecOn with
  | nil => rfl
  | append_singleton members m ih =>
      obtain ⟨front, -, behind⟩ := List.pairwise_append.1 sorted
      rw [sortMembers_concat, ih front]
      exact insertMember_of_last
        (fun m' member => behind m' member m (List.mem_singleton.2 rfl)) m.2

/-- Putting a member in twice is putting it in once. -/
theorem insertMember_insertMember (key : String) (value : Json) (members : List (String × Json)) :
    insertMember key value (insertMember key value members) = insertMember key value members := by
  fun_induction insertMember key value members
  case case4 first v rest less apart ih => rw [insertMember, if_neg less, if_neg apart, ih]
  all_goals simp [insertMember]

/-! ## The map reading -/

theorem canonicalItems_eq_map (items : List Json) : canonicalItems items = items.map canonical := by
  induction items with
  | nil => rfl
  | cons j rest ih => rw [canonicalItems, ih, List.map_cons]

theorem canonicalMembers_eq_map (members : List (String × Json)) :
    canonicalMembers members = members.map fun m => (m.1, canonical m.2) := by
  induction members with
  | nil => rfl
  | cons m rest ih =>
      obtain ⟨key, j⟩ := m
      rw [canonicalMembers, ih, List.map_cons]

theorem last?_canonicalMembers (name : String) (members : List (String × Json)) :
    last? name (canonicalMembers members) = (last? name members).map canonical := by
  rw [canonicalMembers_eq_map]
  unfold last?
  rw [← List.map_reverse, List.find?_map, Option.map_map, Option.map_map]
  rfl

theorem settled_canonical (j : Json) : Settled j.canonical := by
  induction j using induct with
  | null => exact .null
  | bool b => exact .bool b
  | int n => exact .int n
  | float x => exact .float x
  | str s => exact .str s
  | arr items ih =>
      rw [canonical, canonicalItems_eq_map]
      exact .arr (List.forall_mem_map.2 ih)
  | obj members ih =>
      rw [canonical, canonicalMembers_eq_map]
      refine .obj (pairwise_sortMembers _) fun m member => ?_
      obtain ⟨m', there, rfl⟩ := List.mem_map.1 (mem_of_mem_sortMembers member)
      exact ih m' there

/-- A settled value is its own map reading. -/
theorem Settled.canonical_eq {j : Json} (settled : Settled j) : j.canonical = j := by
  induction settled with
  | arr _ ih =>
      rw [canonical, canonicalItems_eq_map, List.map_congr_left ih, List.map_id']
  | @obj members sorted _ ih =>
      have same : canonicalMembers members = members := by
        rw [canonicalMembers_eq_map]
        refine Eq.trans (List.map_congr_left (g := id) fun m member => ?_) (List.map_id _)
        rw [ih m member, id_eq]
      rw [canonical, same, sortMembers_eq sorted]
  | _ => rfl

theorem fits_insertMember {d : Nat} {key : String} {value : Json} {members : List (String × Json)}
    (new : Fits d value) (all : ∀ m ∈ members, Fits d m.2) :
    ∀ m ∈ insertMember key value members, Fits d m.2 := by
  intro m member
  rcases mem_insertMember member with rfl | old
  · exact new
  · exact all m old

theorem Fits.canonical {d : Nat} {j : Json} (fits : Fits d j) : Fits d j.canonical := by
  induction fits with
  | null => exact .null
  | bool b => exact .bool b
  | int low high => exact .int low high
  | str s => exact .str s
  | arr _ ih =>
      rw [Json.canonical, canonicalItems_eq_map]
      exact .arr (List.forall_mem_map.2 ih)
  | obj _ ih =>
      rw [Json.canonical, canonicalMembers_eq_map]
      refine .obj fun m member => ?_
      obtain ⟨m', there, rfl⟩ := List.mem_map.1 (mem_of_mem_sortMembers member)
      exact ih m' there

theorem face_canonical (j : Json) : j.canonical.face = j.face := by
  cases j with
  | arr items => rw [canonical, canonicalItems_eq_map, face, face, List.length_map]
  | _ => rfl

/-- The map reading keeps what stands in each place. -/
theorem under?_canonical (place : Place) (j : Json) :
    j.canonical.under? place = (j.under? place).map canonical := by
  cases j with
  | arr items =>
      rw [canonical, canonicalItems_eq_map]
      cases place with
      | key name => rfl
      | item index => exact List.getElem?_map
  | obj members =>
      rw [canonical]
      cases place with
      | key name =>
          have sorted := pairwise_sortMembers (canonicalMembers members)
          rw [under?, under?, last?_eq_member? (nodup_of_pairwise sorted), member?_sortMembers,
            last?_canonicalMembers]
      | item index => rfl
  | _ => cases place <;> rfl

/-- No path tells a value from its map reading. -/
theorem faceAt_canonical (path : List Place) (j : Json) :
    faceAt path j.canonical = faceAt path j := by
  induction path generalizing j with
  | nil => rw [faceAt, faceAt, face_canonical]
  | cons place rest ih =>
      rw [faceAt, faceAt, under?_canonical]
      cases j.under? place with
      | none => rfl
      | some inner => exact ih inner

end ApprovalFlow.Json
