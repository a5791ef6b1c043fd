import ApprovalFlow.Config.Tree
import Mathlib.Data.List.Basic

/-!
# What stands in a tree of settings

A setting stands in a tree at the end of some keys. What is laid over the tree changes it there only
if it says something about these keys, and then what it says is what stands there. This holds of
everything that respects the place: that goes elsewhere, or has a plain value for just this place,
or tables on the way to it.

* `Tree.at?` and `Entry.at?`: what stands at the end of some keys, and what an entry says of it.
* `Tree.respects` and `Entry.respects`: what does not stand in the way of a setting.
* `Tree.at?_set`, `Tree.at?_setPath` and `Tree.at?_lay`: a key, a path and a source.
-/

namespace ApprovalFlow.Config

/-! ## Places -/

/-- What stands at the end of keys. -/
def Tree.at? : Tree → List String → Option Tree
  | t, [] => some t
  | t, key :: keys => (t.get? key).bind (·.at? keys)

/-- A plain value at the end of keys, and nothing but tables on the way to it. No table has the next
key more than once. -/
def Tree.respects : List String → Tree → Bool
  | [], .leaf _ _ => true
  | key :: keys, .table _ members =>
    (members.filter (·.1 == key)).length ≤ 1 &&
      (members.filter (·.1 == key)).all (·.2.respects keys)
  | _, _ => false

/-- What a value behind a path says of what stands at the end of keys. -/
def Path.at? : Path → Tree → List String → Option Tree
  | [], value, keys => value.at? keys
  | .key name :: path, value, key :: keys => if name = key then at? path value keys else none
  | _, _, _ => none

/-- A value behind a path respects a place if the path turns away from it, or leads to it or towards
it and the value goes on so. -/
def Path.respects : Path → Tree → List String → Bool
  | [], value, keys => value.respects keys
  | .key name :: path, value, key :: keys => name != key || respects path value keys
  | _, _, _ => false

/-- What an entry says of a setting. -/
def Entry.at? (e : Entry) (keys : List String) : Option Tree :=
  Path.at? e.path e.value keys

/-- The entry does not stand in the way of a setting. -/
def Entry.respects (e : Entry) (keys : List String) : Bool :=
  Path.respects e.path e.value keys

namespace Tree

/-! ## Keys -/

theorem at?_cons (t : Tree) (key : String) (keys : List String) :
    t.at? (key :: keys) = (t.get? key).bind (·.at? keys) :=
  rfl

theorem get?_table_self (origin : Option String) (key : String) (value : Tree)
    (members : List (String × Tree)) :
    (table origin ((key, value) :: members)).get? key = some value := by
  rw [get?, Tree.members, List.find?_cons_of_pos (by simp), Option.map_some]

theorem get?_table_ne (origin : Option String) {key other : String} (apart : key ≠ other)
    (value : Tree) (members : List (String × Tree)) :
    (table origin ((key, value) :: members)).get? other = (table origin members).get? other := by
  rw [get?, Tree.members, List.find?_cons_of_neg (by simpa using apart), get?, Tree.members]

section

variable {members : List (String × Tree)} {key other : String}

/-- Under a key that is there, the new value is found in the place of the old one. -/
theorem find?_replaced (value : Tree) (there : members.any (·.1 == key) = true) :
    (members.map fun m => if m.1 = key then (key, value) else m).find? (·.1 == key) =
      some (key, value) := by
  induction members with
  | nil => cases there
  | cons m members ih =>
      rw [List.map_cons]
      by_cases same : m.1 = key
      · rw [if_pos same, List.find?_cons_of_pos (by simp)]
      · rw [if_neg same, List.find?_cons_of_neg (by simpa using same)]
        rw [List.any_cons, beq_false_of_ne same, Bool.false_or] at there
        exact ih there

/-- Under another key nothing changes. -/
theorem find?_replaced_ne (value : Tree) (apart : key ≠ other) :
    (members.map fun m => if m.1 = key then (key, value) else m).find? (·.1 == other) =
      members.find? (·.1 == other) := by
  induction members with
  | nil => rfl
  | cons m members ih =>
      rw [List.map_cons]
      by_cases same : m.1 = key
      · rw [if_pos same, List.find?_cons_of_neg (by simpa using apart), ih,
          List.find?_cons_of_neg (by simpa [same] using apart)]
      · rw [if_neg same, List.find?_cons, List.find?_cons, ih]

end

theorem get?_put_self (t : Tree) (key : String) (value : Tree) :
    (t.put key value).get? key = some value := by
  unfold put
  split
  · rename_i there
    rw [get?, members, find?_replaced value there, Option.map_some]
  · rename_i absent
    have missing : t.members.find? (·.1 == key) = none := by
      rw [List.find?_eq_none]
      exact fun m member same => absent (List.any_eq_true.2 ⟨m, member, same⟩)
    rw [get?, members, List.find?_append, missing, Option.none_or,
      List.find?_cons_of_pos (by simp), Option.map_some]

theorem get?_put_ne (t : Tree) {key other : String} (value : Tree) (apart : key ≠ other) :
    (t.put key value).get? other = t.get? other := by
  unfold put
  split
  · rw [get?, members, find?_replaced_ne value apart, get?]
  · rw [get?, members, List.find?_append, List.find?_cons_of_neg (by simpa using apart),
      List.find?_nil, Option.or_none, get?]

/-- Setting a key puts something under it. -/
theorem exists_set_eq_put (t : Tree) (key : String) (value : Tree) :
    ∃ put, t.set key value = t.put key put := by
  cases value with
  | leaf => exact ⟨_, rfl⟩
  | list => exact ⟨_, rfl⟩
  | table => exact ⟨_, rfl⟩

theorem get?_set_ne (t : Tree) {key other : String} (value : Tree) (apart : key ≠ other) :
    (t.set key value).get? other = t.get? other := by
  obtain ⟨put, same⟩ := t.exists_set_eq_put key value
  rw [same, get?_put_ne t put apart]

theorem at?_set_ne (t : Tree) {key other : String} (value : Tree) (apart : key ≠ other)
    (keys : List String) : (t.set key value).at? (other :: keys) = t.at? (other :: keys) := by
  rw [at?, at?, get?_set_ne t value apart]

/-- What stands under a key that may be missing. -/
theorem getD_at? (o : Option Tree) {d : Tree} (key : String) (keys : List String)
    (nothing : d.at? (key :: keys) = none) :
    (o.getD d).at? (key :: keys) = o.bind (·.at? (key :: keys)) := by
  cases o with
  | none => exact nothing
  | some t => rfl

/-! ## Values -/

theorem setAll_ne (t : Tree) {members : List (String × Tree)} {key : String}
    (absent : members.filter (·.1 == key) = []) (keys : List String) :
    (t.setAll members).at? (key :: keys) = t.at? (key :: keys) := by
  induction members generalizing t with
  | nil => rfl
  | cons m members ih =>
      obtain ⟨name, value⟩ := m
      rw [List.filter_eq_nil_iff, List.forall_mem_cons, ← List.filter_eq_nil_iff] at absent
      obtain ⟨apart, absent⟩ := absent
      rw [setAll, ih _ absent, at?_set_ne t value (by simpa using apart)]

/-- What setting one key does, setting several does for the one of them that is on the way. -/
theorem at?_setAll {keys : List String} {key : String}
    (one : ∀ (t : Tree) {value : Tree}, value.respects keys = true →
      (t.set key value).at? (key :: keys) = (value.at? keys).or (t.at? (key :: keys)))
    (t : Tree) (origin : Option String) {members : List (String × Tree)}
    (respects : (table origin members).respects (key :: keys) = true) :
    (t.setAll members).at? (key :: keys) =
      ((table origin members).at? (key :: keys)).or (t.at? (key :: keys)) := by
  induction members generalizing t with
  | nil => rfl
  | cons m members ih =>
      obtain ⟨name, value⟩ := m
      simp only [Tree.respects, Bool.and_eq_true, decide_eq_true_eq] at respects ih
      obtain ⟨few, all⟩ := respects
      by_cases same : name = key
      · subst same
        rw [List.filter_cons_of_pos (by simp)] at few all
        rw [List.length_cons] at few
        rw [List.all_cons, Bool.and_eq_true] at all
        -- No other member has the key.
        have last : members.filter (·.1 == name) = [] :=
          List.eq_nil_of_length_eq_zero (by omega)
        rw [setAll, setAll_ne _ last, one t all.1, at?_cons (table _ _), get?_table_self,
          Option.bind_some]
      · rw [List.filter_cons_of_neg (by simpa using same)] at few all
        rw [setAll, ih _ ⟨few, all⟩, at?_set_ne t value same, at?_cons (table _ (_ :: _)),
          get?_table_ne origin same, at?_cons (table _ _)]

/-- A value that respects a place is what stands there afterwards, if it says anything about it. -/
theorem at?_set (keys : List String) (t : Tree) (key : String) {value : Tree}
    (respects : value.respects keys = true) :
    (t.set key value).at? (key :: keys) = (value.at? keys).or (t.at? (key :: keys)) := by
  induction keys generalizing t key value with
  | nil =>
      cases value with
      | leaf origin s =>
          rw [set, at?_cons, get?_put_self]
          rfl
      | list | table => cases respects
  | cons next keys ih =>
      cases value with
      | leaf | list => cases respects
      | table origin incoming =>
          rw [set, at?_cons, get?_put_self, Option.bind_some,
            at?_setAll (fun t _ => ih t next) _ origin respects, getD_at? _ _ _ rfl, at?_cons t]

/-! ## Paths -/

theorem setPath_key (t : Tree) (name : String) (next : Step) (path : Path) (value : Tree) :
    t.setPath (.key name :: next :: path) value =
      t.put name (((t.get? name).getD .nothing).setPath (next :: path) value) :=
  rfl

/-- Behind a path, a value is what stands at a place that both respect, if they say anything
about it. -/
theorem at?_setPath (path : Path) (t : Tree) {value : Tree} (keys : List String)
    (long : path ≠ []) (respects : Path.respects path value keys = true) :
    (t.setPath path value).at? keys = (Path.at? path value keys).or (t.at? keys) := by
  induction path generalizing t keys with
  | nil => exact (long rfl).elim
  | cons step path ih =>
      cases step with
      | item place => cases respects
      | key name =>
          cases keys with
          | nil => cases respects
          | cons key keys =>
              rw [Path.respects, Bool.or_eq_true, bne_iff_ne] at respects
              cases path with
              | nil =>
                  rw [setPath, Path.at?]
                  by_cases same : name = key
                  · subst same
                    rw [if_pos rfl]
                    exact at?_set keys t name (respects.resolve_left fun apart => apart rfl)
                  · rw [if_neg same, at?_set_ne t value same, Option.none_or]
              | cons next path =>
                  rw [Path.at?, setPath_key]
                  by_cases same : name = key
                  · subst same
                    have further := respects.resolve_left fun apart => apart rfl
                    cases keys with
                    | nil => cases next <;> cases further
                    | cons key keys =>
                        rw [if_pos rfl, at?_cons, get?_put_self, Option.bind_some,
                          ih _ _ (List.cons_ne_nil _ _) further, getD_at? _ _ _ rfl, at?_cons t]
                  · rw [if_neg same, at?_cons, get?_put_ne t _ same, Option.none_or, at?_cons]

/-! ## Sections -/

/-- A table stands under the key. -/
def HasTable (t : Tree) (key : String) : Prop :=
  ∃ origin members, t.get? key = some (table origin members)

theorem exists_put_eq_table (t : Tree) (key : String) (value : Tree) :
    ∃ origin members, t.put key value = table origin members := by
  unfold put
  split
  · exact ⟨_, _, rfl⟩
  · exact ⟨_, _, rfl⟩

theorem exists_setAll_eq_table (origin : Option String) (members incoming : List (String × Tree)) :
    ∃ origin' members', (table origin members).setAll incoming = table origin' members' := by
  induction incoming generalizing origin members with
  | nil => exact ⟨_, _, rfl⟩
  | cons m incoming ih =>
      obtain ⟨name, value⟩ := m
      obtain ⟨put, same⟩ := (table origin members).exists_set_eq_put name value
      obtain ⟨_, _, next⟩ := (table origin members).exists_put_eq_table name put
      rw [setAll, same, next]
      exact ih _ _

/-- Going along a path that begins with a key puts something under the key. -/
theorem exists_setPath_eq_put (t : Tree) (key : String) (path : Path) (value : Tree) :
    ∃ put, t.setPath (.key key :: path) value = t.put key put := by
  cases path with
  | nil => exact t.exists_set_eq_put key value
  | cons next path => exact ⟨_, rfl⟩

/-- A section stays a table if a place in it is respected. -/
theorem hasTable_setPath {t : Tree} {key name : String} {path : Path} {value : Tree}
    (long : path ≠ []) (respects : Path.respects path value [key, name] = true)
    (there : t.HasTable key) : (t.setPath path value).HasTable key := by
  obtain ⟨origin, members, found⟩ := there
  match path, long, respects with
  | .item _ :: _, _, respects => cases respects
  | .key first :: path, _, respects =>
      rw [Path.respects, Bool.or_eq_true, bne_iff_ne] at respects
      by_cases same : first = key
      · subst same
        have further := respects.resolve_left fun apart => apart rfl
        match path, further with
        | [], further =>
            cases value with
            | leaf | list => cases further
            | table _ incoming =>
                obtain ⟨origin', members', merged⟩ :=
                  exists_setAll_eq_table origin members incoming
                refine ⟨origin', members', ?_⟩
                rw [setPath, set, get?_put_self, found, Option.getD_some, merged]
        | .item _ :: _, further => cases further
        | .key second :: path, _ =>
            obtain ⟨put, deeper⟩ :=
              exists_setPath_eq_put ((t.get? first).getD .nothing) second path value
            obtain ⟨origin', members', tabled⟩ :=
              exists_put_eq_table ((t.get? first).getD .nothing) second put
            refine ⟨origin', members', ?_⟩
            rw [setPath_key, get?_put_self, deeper, tabled]
      · obtain ⟨put, set⟩ := exists_setPath_eq_put t first path value
        refine ⟨origin, members, ?_⟩
        rw [set, get?_put_ne t put same, found]

/-! ## Sources -/

theorem hasTable_lay {t : Tree} {key name : String} {entries : List Entry}
    (named : ∀ e ∈ entries, e.path ≠ [])
    (respects : entries.all (·.respects [key, name]) = true) (there : t.HasTable key) :
    (t.lay entries).HasTable key := by
  induction entries generalizing t with
  | nil => exact there
  | cons e entries ih =>
      rw [List.forall_mem_cons] at named
      rw [List.all_cons, Bool.and_eq_true] at respects
      exact ih named.2 respects.2 (hasTable_setPath named.1 respects.1 there)

/-- A source that respects a place says at most once what stands there, and that is what stands
there afterwards. -/
theorem at?_lay (t : Tree) {entries : List Entry} {keys : List String}
    (named : ∀ e ∈ entries, e.path ≠ [])
    (respects : entries.all (·.respects keys) = true)
    (once : (entries.filter fun e => (e.at? keys).isSome).length ≤ 1) :
    (t.lay entries).at? keys = (entries.findSome? (·.at? keys)).or (t.at? keys) := by
  induction entries generalizing t with
  | nil => rfl
  | cons e entries ih =>
      rw [List.forall_mem_cons] at named
      rw [List.all_cons, Bool.and_eq_true] at respects
      have first := at?_setPath e.path t keys named.1 respects.1
      rw [← Entry.at?] at first
      rw [lay, List.foldl_cons, ← lay, List.findSome?_cons]
      cases given : e.at? keys with
      | none =>
          rw [List.filter_cons_of_neg (by simp [given])] at once
          rw [ih _ named.2 respects.2 once, first, given, Option.none_or]
      | some value =>
          rw [List.filter_cons_of_pos (by simp [given]), List.length_cons] at once
          -- Nothing behind the entry says anything.
          have silent : entries.filter (fun e => (e.at? keys).isSome) = [] :=
            List.eq_nil_of_length_eq_zero (by omega)
          have nothing : entries.findSome? (·.at? keys) = none := by
            rw [List.findSome?_eq_none_iff]
            intro e' member
            have := List.filter_eq_nil_iff.1 silent e' member
            simpa using this
          rw [ih _ named.2 respects.2 (by omega), nothing, first, given]
          rfl

end Tree

end ApprovalFlow.Config
