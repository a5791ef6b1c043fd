import ApprovalFlow.Proofs.Listeners
import Mathlib.Data.List.Induction
import Mathlib.Data.List.Nodup
import Mathlib.Data.List.Perm.Basic

/-!
# What becomes of registrations

A registry is filled by registrations that come in any order, with any names, and some of them are
refused. What it answers and what it holds is settled by the registrations it has accepted: a name
is accepted once, and an accepted listener stands in the one group of its event and mode, behind
those accepted before it.

* `Registry.History.due`: the answer that a history leaves for a registration.
* `Registry.Sorts`: the invariant that ties a registry to the listeners it has accepted, with
  `Sorts.add` as the step. `Registry.sorts_of_ofListeners` is the case in which none is refused.
* `Registry.Reflected`: every call of a history was answered as it was due, and the registry sorts
  what was accepted; `Reflected.serve` is the step.
* `Registry.served_sorts`: what holds after any registrations.
-/

namespace ApprovalFlow

/-- A family whose list of events has every event once. -/
class EventFamily.Listed (ε : Type) [EventFamily ε] : Prop where
  nodup : (EventFamily.all (ε := ε)).Nodup
  mem_all : ∀ event : ε, event ∈ EventFamily.all

instance : EventFamily.Listed ProcessEvent where
  nodup := by decide
  mem_all event := by cases event <;> decide

instance : EventFamily.Listed TaskEvent where
  nodup := by decide
  mem_all event := by cases event <;> decide

/-- The groups of an event hold the listeners that are bound to it. -/
theorem mem_inLine_append_inPool {ε : Type} [DecidableEq ε] {event : ε} {ls : List (Listener ε)}
    {l : Listener ε} : l ∈ inLine event ls ++ inPool event ls ↔ l ∈ ls ∧ l.event = event := by
  rw [inLine, inPool, List.mem_append, List.mem_filter, List.mem_filter]
  cases mode : l.isAsync <;> simp

namespace Registry

variable {ε : Type} [DecidableEq ε]

/-- A registration and the answer to it. -/
structure Answered (ε : Type) where
  listener : Listener ε
  answer : Except WorkflowError Unit

/-- Registrations with their answers, the oldest first. -/
abbrev History (ε : Type) := List (Answered ε)

/-- The answer to a registration, and the registry after it: who is refused leaves it as it is. -/
def serve (r : Registry ε) (l : Listener ε) : Except WorkflowError Unit × Registry ε :=
  match r.register l with
  | .ok r' => (.ok (), r')
  | .error err => (.error err, r)

/-- What has become of the empty registry after some registrations, with their history. -/
def served (calls : List (Listener ε)) : History ε × Registry ε :=
  calls.foldl (fun s l => (s.1 ++ [⟨l, (s.2.serve l).1⟩], (s.2.serve l).2)) ([], .empty)

/-- The listener of a registration that was accepted. -/
def Answered.accepted? (x : Answered ε) : Option (Listener ε) :=
  match x.answer with
  | .ok () => some x.listener
  | .error _ => none

namespace History

/-- The listeners that were accepted, in order of registration. -/
def accepted (h : History ε) : List (Listener ε) :=
  h.filterMap (·.accepted?)

/-- The answer that a history leaves for a registration: the name must be new among the accepted
ones. -/
def due (h : History ε) (l : Listener ε) : Except WorkflowError Unit :=
  if ∃ m ∈ h.accepted, m.name = l.name then .error (.duplicateListener l.name) else .ok ()

omit [DecidableEq ε] in
theorem accepted_concat (h : History ε) (x : Answered ε) :
    accepted (h ++ [x]) = h.accepted ++ x.accepted?.toList := by
  rw [accepted, accepted, List.filterMap_append]
  cases accepted : x.accepted? <;> simp [accepted]

omit [DecidableEq ε] in
theorem due_eq_ok_iff (h : History ε) (l : Listener ε) :
    h.due l = .ok () ↔ ∀ m ∈ h.accepted, m.name ≠ l.name := by
  unfold due
  split
  · rename_i taken
    obtain ⟨m, member, same⟩ := taken
    simp only [reduceCtorEq, false_iff]
    exact fun new => new m member same
  · rename_i free
    simp only [true_iff]
    exact fun m member same => free ⟨m, member, same⟩

omit [DecidableEq ε] in
theorem due_eq_error_iff (h : History ε) (l : Listener ε) :
    h.due l = .error (.duplicateListener l.name) ↔ ∃ m ∈ h.accepted, m.name = l.name := by
  unfold due
  split <;> simp_all

end History

/-! ## Lists split by a key -/

/-- Taking a list apart by the values of a key and putting the parts together again rearranges
it. -/
theorem flatMap_filter_perm {α β : Type} [DecidableEq β] (key : α → β) {keys : List β}
    (apart : keys.Nodup) (ls : List α) (every : ∀ x ∈ ls, key x ∈ keys) :
    (keys.flatMap fun k => ls.filter (key · = k)).Perm ls := by
  induction keys generalizing ls with
  | nil =>
      obtain rfl : ls = [] := List.eq_nil_iff_forall_not_mem.2 fun x member => by
        simpa using every x member
      rfl
  | cons k rest ih =>
      obtain ⟨new, apart⟩ := List.nodup_cons.1 apart
      have onwards := ih apart (ls.filter fun x => !decide (key x = k)) fun x member => by
        obtain ⟨member, other⟩ := List.mem_filter.1 member
        rcases List.mem_cons.1 (every x member) with same | later
        · simp [same] at other
        · exact later
      -- The parts of the other keys do not change when the part of this key is taken out.
      have others : (rest.flatMap fun k' => ls.filter (key · = k')) =
          rest.flatMap fun k' => (ls.filter fun x => !decide (key x = k)).filter (key · = k') := by
        refine List.flatMap_congr fun k' member => ?_
        rw [List.filter_filter]
        refine List.filter_congr fun x _ => ?_
        have different : k' ≠ k := fun same => new (same ▸ member)
        by_cases here : key x = k'
        · simp [here, different]
        · simp [here]
      rw [List.flatMap_cons, others]
      exact (onwards.append_left _).trans (List.filter_append_perm _ _)

/-! ## The registry of some listeners -/

/-- A registry holds some listeners, no two of one name, and sorts them in their order. -/
structure Sorts (r : Registry ε) (ls : List (Listener ε)) : Prop where
  listeners : r.listeners = ls
  groups : ∀ event, r.groups event = ⟨inLine event ls, inPool event ls⟩
  names : (ls.map (·.name)).Nodup

theorem sorts_empty : (empty : Registry ε).Sorts [] where
  listeners := rfl
  groups _ := rfl
  names := List.nodup_nil

theorem Sorts.add {r : Registry ε} {ls : List (Listener ε)} (sorts : r.Sorts ls) {l : Listener ε}
    (new : ∀ m ∈ ls, m.name ≠ l.name) : (r.add l).Sorts (ls ++ [l]) where
  listeners := by rw [Registry.add, sorts.listeners]
  groups event := by
    rw [groups_add, sorts.groups, Groups.extendFor_eq, inLine_append, inPool_append]
  names := by
    rw [List.map_append, List.nodup_append]
    refine ⟨sorts.names, List.nodup_singleton _, fun name there name' last => ?_⟩
    obtain ⟨m, member, rfl⟩ := List.mem_map.1 there
    obtain rfl : name' = l.name := by simpa using last
    exact new m member

namespace Sorts

variable {r : Registry ε} {ls : List (Listener ε)} (sorts : r.Sorts ls)

include sorts

theorem register_eq (l : Listener ε) :
    r.register l = if ∃ m ∈ ls, m.name = l.name then .error (.duplicateListener l.name)
      else .ok (r.add l) := by
  unfold register find?
  rw [sorts.listeners]
  congr 1
  simp [List.find?_isSome]

theorem eq_of_name_eq {l m : Listener ε} (first : l ∈ ls) (second : m ∈ ls)
    (same : l.name = m.name) : l = m :=
  List.inj_on_of_nodup_map sorts.names first second same

theorem find?_eq_some_iff (name : String) (l : Listener ε) :
    r.find? name = some l ↔ l ∈ ls ∧ l.name = name := by
  unfold find?
  rw [sorts.listeners]
  constructor
  · intro found
    exact ⟨List.mem_of_find?_eq_some found, by simpa using List.find?_some found⟩
  · rintro ⟨member, named⟩
    cases found : ls.find? (·.name == name) with
    | none =>
        have other := List.find?_eq_none.1 found l member
        simp [named] at other
    | some m =>
        have named' : m.name = name := by simpa using List.find?_some found
        rw [sorts.eq_of_name_eq (List.mem_of_find?_eq_some found) member (named'.trans named.symm)]

/-- A listener is found by its name if and only if some event finds it. -/
theorem find?_isSome_iff (name : String) :
    (r.find? name).isSome ↔ ∃ event, ∃ l ∈ r.sync event ++ r.async event, l.name = name := by
  rw [Option.isSome_iff_exists]
  simp only [sorts.find?_eq_some_iff, sync, async, sorts.groups, mem_inLine_append_inPool]
  constructor
  · rintro ⟨l, member, named⟩
    exact ⟨l.event, l, ⟨member, rfl⟩, named⟩
  · rintro ⟨event, l, ⟨member, -⟩, named⟩
    exact ⟨l, member, named⟩

/-- The groups of all events together are the listeners, in another order. -/
theorem groups_perm [EventFamily ε] [EventFamily.Listed ε] :
    ((EventFamily.all (ε := ε)).flatMap fun event => r.sync event ++ r.async event).Perm ls := by
  have byEvent := flatMap_filter_perm (fun l : Listener ε => l.event) EventFamily.Listed.nodup ls
    fun l _ => EventFamily.Listed.mem_all l.event
  refine List.Perm.trans (List.Perm.flatMap_left _ fun event _ => ?_) byEvent
  have line : r.sync event = (ls.filter (·.event = event)).filter (!·.isAsync) := by
    simp only [sync, sorts.groups, inLine, List.filter_filter, Bool.and_comm]
  have pool : r.async event = (ls.filter (·.event = event)).filter (·.isAsync) := by
    simp only [async, sorts.groups, inPool, List.filter_filter, Bool.and_comm]
  rw [line, pool]
  exact List.perm_append_comm.trans (List.filter_append_perm _ _)

/-- Among those of the listeners that pass a test, the name of a listener occurs once if it passes
the test itself, and otherwise not at all. -/
theorem countP_name {l : Listener ε} (member : l ∈ ls) (test : Listener ε → Bool) :
    (ls.filter test).countP (·.name = l.name) = if test l then 1 else 0 := by
  have apart : ((ls.filter test).map (·.name)).Nodup :=
    sorts.names.sublist (List.filter_sublist.map _)
  have counted : (ls.filter test).countP (·.name = l.name) =
      ((ls.filter test).map (·.name)).count l.name := by
    rw [List.count, List.countP_map]
    rfl
  have occurs : l.name ∈ (ls.filter test).map (·.name) ↔ test l = true := by
    constructor
    · intro there
      obtain ⟨m, passes, same⟩ := List.mem_map.1 there
      obtain ⟨there, passes⟩ := List.mem_filter.1 passes
      exact sorts.eq_of_name_eq there member same ▸ passes
    · intro passes
      exact List.mem_map_of_mem (List.mem_filter.2 ⟨member, passes⟩)
  rw [counted, apart.count]
  simp only [occurs]

end Sorts

theorem sorts_of_ofListeners {ls : List (Listener ε)} {r : Registry ε}
    (registered : ofListeners ls = .ok r) : r.Sorts ls := by
  have onwards : ∀ (ls before : List (Listener ε)) (start : Registry ε), start.Sorts before →
      ls.foldlM register start = .ok r → r.Sorts (before ++ ls) := by
    intro ls
    induction ls with
    | nil =>
        rintro before start sorts ⟨⟩
        rwa [List.append_nil]
    | cons l rest ih =>
        intro before start sorts registered
        rw [List.foldlM_cons, sorts.register_eq] at registered
        split at registered
        · cases registered
        · rename_i free
          have new : ∀ m ∈ before, m.name ≠ l.name := fun m member same => free ⟨m, member, same⟩
          rw [List.append_cons]
          exact ih _ _ (sorts.add new) registered
  exact onwards ls [] .empty sorts_empty registered

/-! ## Registrations one after the other -/

theorem served_concat (calls : List (Listener ε)) (l : Listener ε) :
    served (calls ++ [l]) =
      ((served calls).1 ++ [⟨l, ((served calls).2.serve l).1⟩], ((served calls).2.serve l).2) := by
  simp only [served, List.foldl_append, List.foldl_cons, List.foldl_nil]

/-- Who is refused leaves the registry as it is. -/
theorem serve_of_refused {r : Registry ε} {l : Listener ε} (refused : (r.serve l).1 ≠ .ok ()) :
    (r.serve l).2 = r := by
  unfold serve at refused ⊢
  cases answer : r.register l with
  | ok r' => exact (refused (by rw [answer])).elim
  | error err => rfl

/-- The registry itself does not look at the history. -/
theorem served_append (before after : List (Listener ε)) :
    (served (before ++ after)).2 = after.foldl (fun r l => (r.serve l).2) (served before).2 := by
  induction after using List.reverseRecOn with
  | nil => rw [List.append_nil, List.foldl_nil]
  | append_singleton after l ih =>
      rw [← List.append_assoc, served_concat, ih, List.foldl_append]
      rfl

/-- A registry that comes of a history: every call was answered as the calls before it left it, and
the registry sorts what was accepted. -/
structure Reflected (h : History ε) (r : Registry ε) : Prop where
  answers : ∀ (before : History ε) (x : Answered ε) (after : History ε),
    h = before ++ x :: after → x.answer = before.due x.listener
  sorts : r.Sorts h.accepted

theorem reflected_empty : Reflected [] (empty : Registry ε) where
  answers before x after split := by cases before <;> cases split
  sorts := sorts_empty

namespace Reflected

variable {h : History ε} {r : Registry ε} (reflected : Reflected h r)

include reflected

theorem answer (l : Listener ε) : (r.serve l).1 = h.due l := by
  unfold serve History.due
  rw [reflected.sorts.register_eq]
  by_cases taken : ∃ m ∈ h.accepted, m.name = l.name
  · rw [if_pos taken, if_pos taken]
  · rw [if_neg taken, if_neg taken]

theorem serve (l : Listener ε) :
    Reflected (h ++ [⟨l, (r.serve l).1⟩]) (r.serve l).2 where
  answers before x after split := by
    rcases List.eq_nil_or_concat after with rfl | ⟨after, y, rfl⟩
    · obtain ⟨rfl, last⟩ := List.append_inj' split rfl
      obtain rfl : _ = x := List.head_eq_of_cons_eq last
      exact reflected.answer l
    · rw [List.concat_eq_append, ← List.cons_append, ← List.append_assoc] at split
      exact reflected.answers before x after (List.append_inj' split rfl).1
  sorts := by
    rw [History.accepted_concat, Answered.accepted?]
    have answered := reflected.answer l
    unfold Registry.serve at answered ⊢
    rw [reflected.sorts.register_eq] at answered ⊢
    by_cases taken : ∃ m ∈ h.accepted, m.name = l.name
    · rw [if_pos taken]
      simpa using reflected.sorts
    · rw [if_neg taken]
      exact reflected.sorts.add fun m member same => taken ⟨m, member, same⟩

end Reflected

theorem reflected_served (calls : List (Listener ε)) :
    Reflected (served calls).1 (served calls).2 := by
  induction calls using List.reverseRecOn with
  | nil => exact reflected_empty
  | append_singleton calls l ih =>
      rw [served_concat]
      exact ih.serve l

theorem listeners_served (calls : List (Listener ε)) :
    (served calls).1.map (·.listener) = calls := by
  induction calls using List.reverseRecOn with
  | nil => rfl
  | append_singleton calls l ih => rw [served_concat, List.map_append, ih]; rfl

/-- A registration is refused if and only if one that was accepted before used its name, and a
refused one might as well not have come. The groups of an event are the accepted listeners of the
event and the mode, in order of registration; an accepted listener stands once in its own group and
in no other; a name finds the accepted listener of the name; and there are as many listeners as
registrations were accepted, which is how many the groups of all events hold. -/
theorem served_sorts [EventFamily ε] [EventFamily.Listed ε] (calls : List (Listener ε)) :
    ∃ h r, served calls = (h, r) ∧ h.map (·.listener) = calls ∧
      (∀ (before : History ε) (x : Answered ε) (after : History ε), h = before ++ x :: after →
        (x.answer = .error (.duplicateListener x.listener.name) ↔
          ∃ m ∈ before.accepted, m.name = x.listener.name) ∧
        (x.answer = .ok () ↔ ∀ m ∈ before.accepted, m.name ≠ x.listener.name)) ∧
      (∀ before l after, calls = before ++ l :: after →
        ((served before).2.serve l).1 ≠ .ok () → r = (served (before ++ after)).2) ∧
      (∀ event, r.sync event = h.accepted.filter fun l => l.event = event && !l.isAsync) ∧
      (∀ event, r.async event = h.accepted.filter fun l => l.event = event && l.isAsync) ∧
      (∀ l ∈ h.accepted, ∀ event,
        (r.sync event).countP (·.name = l.name) = (if l.event = event ∧ !l.isAsync then 1 else 0) ∧
        (r.async event).countP (·.name = l.name) =
          (if l.event = event ∧ l.isAsync then 1 else 0)) ∧
      (∀ name l, r.find? name = some l ↔ l ∈ h.accepted ∧ l.name = name) ∧
      r.size = h.accepted.length ∧
      r.size = ((EventFamily.all (ε := ε)).flatMap fun event =>
        r.sync event ++ r.async event).length := by
  have reflected := reflected_served calls
  have sorts := reflected.sorts
  have line : ∀ event, (served calls).2.sync event = inLine event (served calls).1.accepted :=
    fun event => congrArg Groups.sync (sorts.groups event)
  have pool : ∀ event, (served calls).2.async event = inPool event (served calls).1.accepted :=
    fun event => congrArg Groups.async (sorts.groups event)
  have size : (served calls).2.size = (served calls).1.accepted.length :=
    congrArg List.length sorts.listeners
  refine ⟨(served calls).1, (served calls).2, rfl, listeners_served calls,
    fun before x after split => ?_, fun before l after split refused => ?_, line, pool,
    fun l member event => ?_, sorts.find?_eq_some_iff, size, ?_⟩
  · rw [reflected.answers before x after split]
    exact ⟨before.due_eq_error_iff x.listener, before.due_eq_ok_iff x.listener⟩
  · rw [split, served_append, served_append, List.foldl_cons, serve_of_refused refused]
  · rw [line, pool, inLine, inPool, sorts.countP_name member, sorts.countP_name member]
    simp only [Bool.and_eq_true, decide_eq_true_eq, and_self]
  · rw [size, ← sorts.groups_perm.length_eq]

/-- Three registrations, the last under a name that is taken. -/
def postings : List (Listener TaskEvent) :=
  [⟨"notify", .create, false, fun _ => .success⟩, ⟨"audit", .approve, true, fun _ => .success⟩,
    ⟨"notify", .approve, true, fun _ => .success⟩]

theorem postings_sorted :
    ∃ h r, served postings = (h, r) ∧
      h.map (·.answer) = [.ok (), .ok (), .error (.duplicateListener "notify")] ∧
      (r.async .approve).map (·.name) = ["audit"] ∧ r.size = 2 := by
  obtain ⟨h, r, answered, -, -, -, -, async, -, -, size, -⟩ := served_sorts postings
  cases answered
  exact ⟨_, _, rfl, rfl, by rw [async]; rfl, size⟩

end Registry

end ApprovalFlow
