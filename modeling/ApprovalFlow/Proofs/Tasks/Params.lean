import ApprovalFlow.Proofs.Json.Plain
import ApprovalFlow.Proofs.Tasks.Decision
import ApprovalFlow.Store.EventLog

/-!
# What survives in extension parameters

Whoever closes a row writes its extension parameters anew, and what others have left there has to
survive that. An object comes back with every value in its place; a transfer puts the people under
its own key and touches nothing else. What is no object stops the completion before anything is
stored. Writing the parameters once more changes nothing.

* `ExtParams.Survives`: what the object that is written has in common with the one that was there.
* `ExtParams.merge_merge`: writing again.
* `UserTask.extParams_survive`: all of it, for the extension parameters of a request.
-/

namespace ApprovalFlow

open Json (Place Written)

namespace ExtParams

/-- No text, or a blank one. -/
def IsBlank : Option String → Prop
  | none => True
  | some s => Text.allBlank s = true

/-- A text that holds an object, with whole numbers of 64 bits only and nested no deeper than a
reader goes. -/
def HoldsPlain (existing : Option String) : Prop :=
  ∃ s ms, existing = some s ∧ Written.ofChars s.toList = some (.obj ms) ∧
    Written.Plain Json.depthLimit (.obj ms)

/-- What the members of the object that is written have in common with those that were there. -/
structure Survives (targets : Option (List String)) (before after : List (String × Json)) :
    Prop where
  /-- Every key is written once. -/
  distinct : (after.map (·.1)).Nodup
  /-- A transfer has the people under its own key, in order. -/
  noted : ∀ users, targets = some users →
    Json.last? TaskRow.transferKey after = some (.ofTexts users)
  /-- Everywhere else stands what stood there, the last of equal keys being the one that counts. -/
  kept : ∀ key path, (targets = none ∨ key ≠ TaskRow.transferKey) →
    Json.faceAt (.key key :: path) (.obj after) = Json.faceAt (.key key :: path) (.obj before)

variable {targets : Option (List String)} {existing : Option String}

/-! ## What is read -/

theorem read_of_isBlank (blank : IsBlank existing) : read existing = some [] := by
  cases existing with
  | none => rfl
  | some s => exact if_pos blank

theorem read_of_parse {s : String} {members : List (String × Json)}
    (visible : Text.allBlank s = false) (parsed : Json.parse s = some (.obj members)) :
    read (some s) = some (Json.sortMembers (Json.canonicalMembers members)) := by
  simp only [read, visible, parsed]
  rfl

/-- What is read is sorted at every level. -/
theorem settled_of_read {members : List (String × Json)} (found : read existing = some members) :
    Json.Settled (.obj members) := by
  have none : Json.Settled (.obj []) := .obj .nil (by simp)
  unfold read at found
  split at found
  · cases found
    exact none
  · split at found
    · cases found
      exact none
    · split at found
      · rename_i canonical
        cases found
        obtain ⟨j, -, same⟩ := Option.map_eq_some_iff.1 canonical
        rw [← same]
        exact Json.settled_canonical j
      · cases found

theorem exists_read_of_holdsPlain (holds : HoldsPlain existing) :
    ∃ s members, existing = some s ∧ Json.parse s = some (.obj members) ∧
      Json.Fits Json.depthLimit (.obj members) ∧
      read existing = some (Json.sortMembers (Json.canonicalMembers members)) := by
  obtain ⟨s, ms, rfl, holds, plain⟩ := holds
  obtain ⟨members, parsed, fits⟩ := Json.exists_parse_of_plain holds plain
  exact ⟨s, members, rfl, parsed, fits,
    read_of_parse (Written.not_allBlank_of_ofChars holds) parsed⟩

/-! ## What is written -/

theorem settled_withTargets {members : List (String × Json)}
    (settled : Json.Settled (.obj members)) (targets : Option (List String)) :
    Json.Settled (.obj (withTargets targets members)) := by
  cases targets with
  | none => exact settled
  | some users =>
      cases settled with
      | obj sorted all =>
          refine .obj (Json.pairwise_insertMember sorted _ _) fun m member => ?_
          rcases Json.mem_insertMember member with rfl | old
          · exact Json.settled_ofTexts users
          · exact all m old

theorem fits_withTargets {members : List (String × Json)}
    (fits : Json.Fits Json.depthLimit (.obj members)) (targets : Option (List String)) :
    Json.Fits Json.depthLimit (.obj (withTargets targets members)) := by
  cases targets with
  | none => exact fits
  | some users =>
      cases fits with
      | obj all => exact .obj (Json.fits_insertMember (Json.fits_ofTexts users) all)

theorem withTargets_withTargets (targets : Option (List String))
    (members : List (String × Json)) :
    withTargets targets (withTargets targets members) = withTargets targets members := by
  cases targets with
  | none => rfl
  | some users => exact Json.insertMember_insertMember _ _ members

/-- An object that was read, with the people of a transfer. -/
theorem survives_withTargets (targets : Option (List String)) (members : List (String × Json)) :
    Survives targets members
      (withTargets targets (Json.sortMembers (Json.canonicalMembers members))) := by
  have sorted := Json.pairwise_sortMembers (Json.canonicalMembers members)
  have whole : ∀ path, Json.faceAt path
      (.obj (Json.sortMembers (Json.canonicalMembers members))) = Json.faceAt path (.obj members) :=
    fun path => Json.faceAt_canonical path (.obj members)
  cases targets with
  | none => exact ⟨Json.nodup_of_pairwise sorted, by simp, fun key path _ => whole _⟩
  | some users =>
      have distinct := Json.nodup_of_pairwise
        (Json.pairwise_insertMember sorted TaskRow.transferKey (.ofTexts users))
      refine ⟨distinct, ?_, ?_⟩
      · rintro users ⟨⟩
        rw [withTargets, Json.last?_eq_member? distinct, Json.member?_insertMember, if_pos rfl]
      · intro key path apart
        have other : key ≠ TaskRow.transferKey := apart.resolve_left (by simp)
        rw [← whole, withTargets, Json.faceAt, Json.faceAt, Json.under?, Json.under?,
          Json.last?_eq_member? distinct, Json.member?_insertMember, if_neg other,
          Json.last?_eq_member? (Json.nodup_of_pairwise sorted)]

/-! ## Merging -/

/-- What is written is read back as it is. -/
theorem read_compact {members : List (String × Json)} (settled : Json.Settled (.obj members))
    (fits : Json.Fits Json.depthLimit (.obj members)) :
    read (some (Json.obj members).compact) = some members := by
  have same := settled.canonical_eq
  rw [Json.canonical, Json.obj.injEq] at same
  rw [read_of_parse (Json.not_allBlank_compact members) (Json.parse_compact fits), same]

/-- Merging once more with the same people gives the same text. -/
theorem merge_merge {members : List (String × Json)} {text : String}
    (found : read existing = some members) (fits : Json.Fits Json.depthLimit (.obj members))
    (merges : merge targets existing = some text) : merge targets (some text) = some text := by
  rw [merge, found, Option.map_some, Option.some.injEq] at merges
  have settled := settled_withTargets (settled_of_read found) targets
  rw [merge, ← merges, read_compact settled (fits_withTargets fits targets), Option.map_some,
    withTargets_withTargets]

/-- Merging a text that holds a plain object gives one that stands for the object, with the people
of a transfer. -/
theorem exists_survives (holds : HoldsPlain existing) (targets : Option (List String)) :
    ∃ s text before after, existing = some s ∧ merge targets existing = some text ∧
      Json.parse s = some (.obj before) ∧ Json.parse text = some (.obj after) ∧
      Survives targets before after := by
  obtain ⟨s, before, text, parsed, fits, found⟩ := exists_read_of_holdsPlain holds
  refine ⟨s, _, before, _, text, by rw [merge, found, Option.map_some], parsed, ?_,
    survives_withTargets targets before⟩
  exact Json.parse_compact (fits_withTargets fits.canonical targets)

theorem merge_merge_of_plain {text : String} (plain : IsBlank existing ∨ HoldsPlain existing)
    (merges : merge targets existing = some text) : merge targets (some text) = some text := by
  rcases plain with blank | holds
  · exact merge_merge (read_of_isBlank blank) (.obj (by simp)) merges
  · obtain ⟨s, members, -, -, fits, found⟩ := exists_read_of_holdsPlain holds
    exact merge_merge found fits.canonical merges

end ExtParams

namespace UserTask

open ExtParams

variable {σ : Type} [EventStore σ]

theorem extParams_eq_ok_iff {a : ActionRequest} {text : String} :
    extParams a = .ok text ↔ merge (targets a) a.row.extParams = some text := by
  unfold extParams targets
  dsimp only
  cases merge _ a.row.extParams <;> simp

/-- A completion that only fails for its extension parameters says so, and that is all it does. -/
theorem complete_of_not_isObject {c : Context} {e : Engine TaskTable σ}
    (others : ∀ k : Condition, k ≠ .extParams → k.Holds c e.tasks)
    (unmet : ¬ Condition.extParams.Holds c e.tasks) :
    ∃ message, complete c e = ⟨.error (.serialization message), c, e⟩ := by
  have first : Condition.IsFirstUnmet c e.tasks .extParams := by
    refine ⟨unmet, fun j less => others j ?_⟩
    rintro rfl
    exact Nat.lt_irrefl _ less
  obtain ⟨err, tells, refused⟩ := refused_of_isFirstUnmet first
  cases tells
  exact ⟨_, refused⟩

/-- What becomes of the extension parameters of a row that an action is to close. -/
theorem extParams_survive (a : ActionRequest) :
    (IsBlank a.row.extParams →
      (a.action ≠ .transfer → extParams a = .ok "\x7b\x7d") ∧
      (a.action = .transfer →
        extParams a = .ok (Json.obj [("transferToUsers", .ofTexts a.transferTo)]).compact)) ∧
    (∀ s ms, a.row.extParams = some s → Written.ofChars s.toList = some (.obj ms) →
      Written.Plain 127 (.obj ms) →
      ∃ text before after, extParams a = .ok text ∧ Json.parse s = some (.obj before) ∧
        Json.parse text = some (.obj after) ∧
        Survives (if a.action = .transfer then some a.transferTo else none) before after) ∧
    (∀ s, a.row.extParams = some s → Text.allBlank s = false →
      (∀ members, Json.parse s ≠ some (.obj members)) →
      ∀ (c : Context) (e : Engine TaskTable σ), c.action = some a →
        (∀ k : Condition, k ≠ .extParams → k.Holds c e.tasks) →
        ∃ message, complete c e = ⟨.error (.serialization message), c, e⟩) ∧
    (∀ text, IsBlank a.row.extParams ∨ HoldsPlain a.row.extParams → extParams a = .ok text →
      extParams { a with row := { a.row with extParams := some text } } = .ok text) := by
  refine ⟨?_, ?_, ?_, ?_⟩
  · intro blank
    have merged : merge (targets a) a.row.extParams =
        some (Json.obj (withTargets (targets a) [])).compact := by
      rw [merge, read_of_isBlank blank, Option.map_some]
    refine ⟨fun other => ?_, fun transfer => ?_⟩
    · rw [extParams_eq_ok_iff, merged, targets, if_neg other]
      rfl
    · rw [extParams_eq_ok_iff, merged, targets, if_pos transfer]
      rfl
  · intro s ms text holds plain
    obtain ⟨s', merged, before, after, same, merges, parsed, parsed', survives⟩ :=
      exists_survives ⟨s, ms, text, holds, plain⟩ (targets a)
    obtain rfl : s = s' := Option.some.inj (text.symm.trans same)
    exact ⟨merged, before, after, extParams_eq_ok_iff.2 merges, parsed, parsed', survives⟩
  · intro s text visible other c e action others
    refine complete_of_not_isObject others ?_
    rintro ⟨b, action', object⟩
    obtain rfl : a = b := Option.some.inj (action.symm.trans action')
    rw [text] at object
    rcases object with blank | ⟨members, parsed⟩
    · rw [visible] at blank
      cases blank
    · exact other members parsed
  · intro text plain merges
    exact extParams_eq_ok_iff.2 (merge_merge_of_plain plain (extParams_eq_ok_iff.1 merges))

end UserTask

/-! ## A row that is handed over -/

namespace Handover

open ExtParams

/-- What others have left on the row, with a key that is there twice. -/
def left : List (String × Json) :=
  [("origin", .str "portal"), ("n", .int 1), ("n", .arr [.int (-7)])]

/-- What is on the row once it has been handed over. -/
def kept : List (String × Json) :=
  [("n", .arr [.int (-7)]), ("origin", .str "portal"), ("transferToUsers", .arr [.str "bob"])]

def review : Task :=
  ⟨"review", "Review", .user ⟨fun _ => ["alice"], false, none⟩, .empty, ["end"]⟩

def row (params : Option String) : TaskRow :=
  { TaskRow.waiting review.typeName default "review" "Review" "alice" default with
    extParams := params }

/-- Alice hands the row over to Bob. -/
def request (params : Option String) : ActionRequest :=
  ⟨.transfer, "alice", none, none, ["bob"], row params⟩

def context (params : Option String) : Context :=
  { Context.base (.named "P" "P") default none with
    current := some review
    action := some (request params) }

def engine (params : Option String) : Engine TaskTable EventLog :=
  .new ⟨.empty, .empty, "system"⟩ 1 none .empty ⟨[row params]⟩ .empty default

theorem fits_left : Json.Fits 127 (.obj left) := by
  refine .obj fun m member => ?_
  simp only [left, List.mem_cons, List.not_mem_nil, or_false] at member
  rcases member with rfl | rfl | rfl
  · exact .str _
  · exact .int (by decide) (by decide)
  · exact .arr (by simpa using Json.Fits.int (by decide) (by decide))

theorem extParams_left : UserTask.extParams (request (some (Json.obj left).compact)) =
    .ok (Json.obj kept).compact := by
  have found := read_of_parse (Json.not_allBlank_compact left) (Json.parse_compact fits_left)
  rw [UserTask.extParams_eq_ok_iff, merge]
  change (read (some (Json.obj left).compact)).map _ = _
  rw [found]
  decide +kernel

theorem holds_of_ne_extParams (params : Option String) (k : UserTask.Condition)
    (other : k ≠ .extParams) : k.Holds (context params) (engine params).tasks := by
  cases k with
  | extParams => exact (other rfl).elim
  | element => exact ⟨review, rfl⟩
  | people => exact ⟨review, _, rfl, rfl⟩
  | action => exact ⟨_, rfl⟩
  | supported => exact ⟨_, rfl, show Action.transfer ∈ _ by decide⟩
  | pending => exact ⟨_, rfl, rfl⟩
  | named => exact ⟨review, _, rfl, rfl, rfl⟩
  | approver => exact ⟨_, rfl, fun _ => show "alice" ∈ Text.parts ',' "alice" by decide +kernel⟩
  | form => exact ⟨review, _, _, rfl, rfl, rfl, rfl⟩
  | current =>
      exact ⟨_, rfl, row params, by simp [engine, Engine.new, TaskTable.get?, request], rfl⟩

/-- The people are alone on a row that had nothing, and next to what the other one had. An array on
the row stops the completion, and handing the row over again changes nothing. -/
theorem params_survive :
    UserTask.extParams (request none) =
      .ok (Json.obj [("transferToUsers", .ofTexts ["bob"])]).compact ∧
    (∃ text before after, UserTask.extParams (request (some (Json.obj left).compact)) = .ok text ∧
      Json.parse (Json.obj left).compact = some (.obj before) ∧
      Json.parse text = some (.obj after) ∧ Survives (some ["bob"]) before after) ∧
    (∃ message, UserTask.complete (context (some (Json.arr []).compact))
        (engine (some (Json.arr []).compact)) =
      ⟨.error (.serialization message), context (some (Json.arr []).compact),
        engine (some (Json.arr []).compact)⟩) ∧
    UserTask.extParams (request (some (Json.obj kept).compact)) = .ok (Json.obj kept).compact := by
  have holds :
      Written.ofChars (Json.obj left).compact.toList = some (Json.written (.obj left)) := by
    rw [Json.compact, String.toList_ofList, Json.ofChars_write fits_left]
  have plain := Json.plain_written fits_left
  have other : ∀ members, Json.parse (Json.arr []).compact ≠ some (.obj members) := by
    intro members parsed
    rw [Json.parse_compact (.arr (by simp))] at parsed
    cases parsed
  refine ⟨?_, ?_, ?_, ?_⟩
  · exact ((UserTask.extParams_survive (σ := EventLog) (request none)).1 trivial).2 rfl
  · exact (UserTask.extParams_survive (σ := EventLog) (request _)).2.1 _ _ rfl holds plain
  · exact (UserTask.extParams_survive (request _)).2.2.1 _ rfl (by decide +kernel) other _ _ rfl
      (holds_of_ne_extParams _)
  · exact (UserTask.extParams_survive (σ := EventLog)
      (request (some (Json.obj left).compact))).2.2.2 _ (.inr ⟨_, _, rfl, holds, plain⟩)
        extParams_left

end Handover

end ApprovalFlow
