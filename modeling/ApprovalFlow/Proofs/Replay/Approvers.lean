import ApprovalFlow.Proofs.Replay.Duties
import Mathlib.Data.List.DropRight

/-!
# Who can act on a row

A row of a user task lists its approvers in one text with a mark between the names. When a task is
entered, names are trimmed and blank ones dropped before they are put together, which is enough as
long as no name has the mark in it; when it is handed over, they are put together as they are.

* `UserTask.presentable_of_plain`: trimmed names without the mark can be put together and cut apart.
* `Moment.Appoints`: whom the next move stores a row for.
* `Moment.Leads.staffed_iff`: the approvers on all rows are usable exactly if all the names that
  people have been appointed by are, once they are cut at the mark.
-/

namespace ApprovalFlow

namespace Text

theorem trimList_isPrefix (cs : List Char) : trimList cs <+: trimLeft cs :=
  List.rdropWhile_prefix isBlank (trimLeft cs)

theorem mem_of_mem_trimList {c : Char} {cs : List Char} (member : c ∈ trimList cs) : c ∈ cs :=
  (List.dropWhile_suffix isBlank).subset ((trimList_isPrefix cs).subset member)

/-- What has been trimmed stays as it is. -/
theorem trimList_trimList (cs : List Char) : trimList (trimList cs) = trimList cs := by
  have first : trimLeft (trimList cs) = trimList cs := by
    refine List.dropWhile_eq_self_iff.2 fun some => ?_
    rw [(trimList_isPrefix cs).getElem some]
    exact List.dropWhile_get_zero_not isBlank cs _
  unfold trimList at first ⊢
  rw [first]
  exact List.rdropWhile_idempotent isBlank (trimLeft cs)

theorem partsList_of_notMem {mark : Char} {cs : List Char} (plain : mark ∉ cs) :
    partsList mark cs = [cs] := by
  induction cs with
  | nil => rfl
  | cons c rest ih =>
      rw [List.mem_cons, not_or] at plain
      rw [partsList, if_neg (Ne.symm plain.1), ih plain.2]

/-- A text without the mark is one piece. -/
theorem parts_of_notMem {mark : Char} {s : String} (plain : mark ∉ s.toList) :
    parts mark s = [s] := by
  rw [parts, partsList_of_notMem plain, List.map_singleton, String.ofList_toList]

end Text

/-- A name that somebody can act under: there is something to it, and no blank at either end. -/
def IsUsable (name : String) : Prop :=
  name ≠ "" ∧ Text.trim name = name

instance (name : String) : Decidable (IsUsable name) :=
  inferInstanceAs (Decidable (_ ∧ _))

/-- Whoever is listed on a row has a usable name. -/
def TaskRow.Staffed (row : TaskRow) : Prop :=
  ∀ name ∈ row.approverList, IsUsable name

/-- A list of people whose names are usable, even after being put together and cut apart again. -/
def UserTask.Presentable (crew : List String) : Prop :=
  ∀ entry ∈ crew, ∀ name ∈ Text.parts TaskRow.approverMark entry, IsUsable name

namespace TaskRow

variable {row : TaskRow}

/-- A row that lists people lists the parts of their names. -/
theorem staffed_iff {crew : List String} (somebody : crew ≠ [])
    (approvers : row.approvers = Text.joined approverMark crew) :
    row.Staffed ↔ UserTask.Presentable crew := by
  unfold Staffed UserTask.Presentable approverList
  rw [approvers, Text.parts_joined approverMark somebody]
  constructor
  · intro usable entry listed name part
    exact usable name (List.mem_flatMap.2 ⟨entry, listed, part⟩)
  · intro usable name member
    obtain ⟨entry, listed, part⟩ := List.mem_flatMap.1 member
    exact usable entry listed name part

/-- Every row has somebody who may act on it, if only under an empty name. -/
theorem exists_isApprover (row : TaskRow) : ∃ user, row.isApprover user = true := by
  have some : row.approverList ≠ [] := by
    unfold approverList Text.parts
    simpa using Text.partsList_ne_nil approverMark row.approvers.toList
  obtain ⟨user, rest, first⟩ := List.exists_cons_of_ne_nil some
  refine ⟨user, ?_⟩
  unfold isApprover
  rw [first, List.any_cons, beq_self_eq_true, Bool.true_or]

/-- Nobody acts under a blank name if the approvers are usable. -/
theorem Staffed.refuses_blank (staffed : row.Staffed) {user : String}
    (blank : Text.trim user = "") : row.isApprover user = false := by
  unfold isApprover
  rw [List.any_eq_false]
  intro name member same
  obtain ⟨something, trimmed⟩ := staffed name member
  rw [beq_iff_eq.1 same, blank] at trimmed
  exact something ((beq_iff_eq.1 same).trans trimmed.symm)

end TaskRow

namespace UserTask

variable {needAll : Bool} {names crew : List String}

theorem ne_nil_of_mem_crews (member : crew ∈ crews needAll names) : crew ≠ [] := by
  unfold crews at member
  split at member
  · cases member
  · rename_i somebody
    split at member
    · obtain ⟨name, -, rfl⟩ := List.mem_map.1 member
      exact List.cons_ne_nil name []
    · rw [List.mem_singleton.1 member]
      simpa using somebody

theorem subset_of_mem_crews (member : crew ∈ crews needAll names) : crew ⊆ names := by
  unfold crews at member
  split at member
  · cases member
  · split at member
    · obtain ⟨name, listed, rfl⟩ := List.mem_map.1 member
      exact List.cons_subset.2 ⟨listed, List.nil_subset names⟩
    · rw [List.mem_singleton.1 member]
      exact List.Subset.refl names

theorem isUsable_of_mem {name : String} (member : name ∈ usableNames names) : IsUsable name := by
  obtain ⟨given, something⟩ := List.mem_filter.1 member
  obtain ⟨whole, -, rfl⟩ := List.mem_map.1 given
  refine ⟨by simpa using something, ?_⟩
  unfold Text.trim
  rw [String.toList_ofList, Text.trimList_trimList]

/-- Names without the mark make up usable approvers once they have been trimmed. -/
theorem presentable_of_plain (plain : ∀ name ∈ names, TaskRow.approverMark ∉ name.toList)
    (member : crew ∈ crews needAll (usableNames names)) : Presentable crew := by
  intro entry listed name part
  have usable := subset_of_mem_crews member listed
  have unmarked : TaskRow.approverMark ∉ entry.toList := by
    obtain ⟨whole, given, rfl⟩ := List.mem_map.1 (List.mem_filter.1 usable).1
    unfold Text.trim
    rw [String.toList_ofList]
    exact fun marked => plain whole given (Text.mem_of_mem_trimList marked)
  rw [Text.parts_of_notMem unmarked] at part
  rw [List.mem_singleton.1 part]
  exact isUsable_of_mem usable

end UserTask

namespace Moment

variable {m start : Moment} {crew : List String}

/-- The next move stores a row for these people. -/
inductive Appoints (m : Moment) : List String → Prop
  | enters {t : Task} {p : UserPart} {crew : List String} : m.Enters t → t.kind = .user p →
    crew ∈ UserTask.crews p.needAll (UserTask.usableNames
      (p.assign ({ m.replay.context with current := some t } : Context).snapshot)) →
    Appoints m crew
  | handsOver {t : Task} {users : List String} : m.HandsOver t users → Appoints m users

theorem Appoints.ne_nil (appoints : m.Appoints crew) : crew ≠ [] := by
  cases appoints with
  | enters _ _ member => exact UserTask.ne_nil_of_mem_crews member
  | handsOver handsOver =>
      obtain ⟨_, _, _, -, -, -, somebody⟩ := handsOver
      exact somebody

/-- Whoever is appointed is listed in a duty of a user task's. -/
theorem Appoints.exists_assigned (appoints : m.Appoints crew) :
    ∃ d ∈ m.assigned, d.taskType = Task.userType ∧
      d.approvers = Text.joined TaskRow.approverMark crew := by
  cases appoints with
  | @enters t p _ enters kind member =>
      refine ⟨⟨m.replay.process.id, Task.userType, t.name, _⟩, ?_, rfl, rfl⟩
      refine mem_assigned_iff.2 (Or.inl ⟨t, enters, ?_⟩)
      unfold Replay.dutiesOf Task.duties
      rw [kind]
      exact List.mem_map.2 ⟨crew, member, rfl⟩
  | @handsOver t _ handsOver =>
      exact ⟨_, mem_assigned_iff.2 (Or.inr ⟨t, crew, handsOver, rfl⟩), rfl, rfl⟩

theorem exists_appoints {d : Duty} (assigned : d ∈ m.assigned)
    (isUser : d.taskType = Task.userType) :
    ∃ crew, m.Appoints crew ∧ d.approvers = Text.joined TaskRow.approverMark crew := by
  rcases mem_assigned_iff.1 assigned with ⟨t, enters, member⟩ | ⟨t, users, handsOver, rfl⟩
  · unfold Replay.dutiesOf Task.duties at member
    cases kind : t.kind with
    | user p =>
        rw [kind] at member
        obtain ⟨crew, listed, rfl⟩ := List.mem_map.1 member
        exact ⟨crew, .enters enters kind listed, rfl⟩
    | service part =>
        rw [kind] at member
        rw [List.mem_singleton.1 member] at isUser
        have other : Task.serviceType ≠ Task.userType := by decide
        exact (other isUser).elim
  · exact ⟨users, .handsOver handsOver, rfl⟩

/-- The approvers on all rows of user tasks are usable exactly if nobody has been appointed under
another name. -/
theorem Leads.staffed_iff (leads : Leads start m) (orderly : start.Orderly)
    (empty : start.table.duties = []) :
    (∀ row ∈ m.table.rows, row.taskType = Task.userType → row.Staffed) ↔
      ∀ earlier crew, Leads start earlier → Before earlier m → earlier.Appoints crew →
        UserTask.Presentable crew := by
  constructor
  · intro staffed earlier crew toEarlier before appoints
    obtain ⟨d, assigned, isUser, approvers⟩ := appoints.exists_assigned
    obtain ⟨row, member, rfl⟩ := TaskTable.mem_duties.1
      ((leads.mem_duties_iff orderly).2 (Or.inr ⟨earlier, toEarlier, before, assigned⟩))
    exact (TaskRow.staffed_iff appoints.ne_nil approvers).1 (staffed row member isUser)
  · intro presentable row member isUser
    have there : row.duty ∈ m.table.duties := TaskTable.mem_duties.2 ⟨row, member, rfl⟩
    rcases (leads.mem_duties_iff orderly).1 there with
      first | ⟨earlier, toEarlier, before, assigned⟩
    · rw [empty] at first
      cases first
    · obtain ⟨crew, appoints, approvers⟩ := exists_appoints assigned isUser
      exact (TaskRow.staffed_iff appoints.ne_nil approvers).2
        (presentable earlier crew toEarlier before appoints)

end Moment

/-- In the replay of an accepted scenario, whatever its listeners answer and whatever is done, every
row can be acted on by somebody, and the approvers of user tasks' rows all have usable names exactly
as long as nobody is appointed under another one; nobody acts under a blank name then. Entering a
task appoints nobody under another name if no name has the mark in it. -/
theorem Scenario.rows_staffed_iff {s : Scenario} {now : Instant} {b : BuiltScenario}
    (built : s.build now = .ok b) (config : WorkflowConfig) (time : Instant)
    (actions : List ActionSpec) {m : Moment}
    (leads : Moment.Leads (.begun (b.replay config time) actions) m) :
    (∀ row ∈ m.table.rows, (∃ user, row.isApprover user = true) ∧
      (row.Staffed → ∀ user, Text.trim user = "" → row.isApprover user = false)) ∧
    ((∀ row ∈ m.table.rows, row.taskType = Task.userType → row.Staffed) ↔
      ∀ earlier crew, Moment.Leads (.begun (b.replay config time) actions) earlier →
        Moment.Before earlier m → earlier.Appoints crew → UserTask.Presentable crew) ∧
    ∀ needAll names crew, (∀ name ∈ names, TaskRow.approverMark ∉ name.toList) →
      crew ∈ UserTask.crews needAll (UserTask.usableNames names) → UserTask.Presentable crew := by
  obtain ⟨orderly, -⟩ := Moment.orderly_begun built config time actions
  refine ⟨fun row _ => ⟨row.exists_isApprover, ?_⟩, leads.staffed_iff orderly rfl, ?_⟩
  · intro staffed user blank
    exact staffed.refuses_blank blank
  · intro needAll names crew plain member
    exact UserTask.presentable_of_plain plain member

/-! ## A task that is handed to a person, and one that is handed to a blank -/

namespace Moment

/-- Whether everybody whom the next move stores a row for has a usable name. -/
def isAppointingUsable (m : Moment) : Bool :=
  m.assigned.all fun d => d.taskType != Task.userType ||
    (Text.parts TaskRow.approverMark d.approvers).all fun name => decide (IsUsable name)

theorem Appoints.presentable {m : Moment} {crew : List String} (appoints : m.Appoints crew)
    (usable : m.isAppointingUsable = true) : UserTask.Presentable crew := by
  obtain ⟨d, assigned, isUser, approvers⟩ := appoints.exists_assigned
  have all := List.all_eq_true.1 usable d assigned
  rw [isUser, bne_self_eq_false, Bool.false_or, approvers,
    Text.parts_joined TaskRow.approverMark appoints.ne_nil, List.all_eq_true] at all
  intro entry listed name part
  exact of_decide_eq_true (all name (List.mem_flatMap.2 ⟨entry, listed, part⟩))

end Moment

namespace Scenario

/-- The approver hands the task to somebody and to a blank name. -/
def toBlank : Scenario :=
  { straight with actions := [⟨"review", "alice", .transfer, none, none, ["dave", " "]⟩] }

/-- The approvers on all rows are usable although a name was given with blanks and another one was
nothing but a blank. -/
theorem passedOn_staffed : ∃ b, passedOn.build default = .ok b ∧
    ∀ m, Moment.Leads (.begun (b.replay .standard default) b.actions) m →
      ∀ row ∈ m.table.rows, row.taskType = Task.userType → row.Staffed := by
  have passed : passedOn.moment?.map (·.passes Moment.isAppointingUsable 12) = some true := by
    decide +kernel
  obtain ⟨m, there, usable⟩ := Option.map_eq_some_iff.1 passed
  obtain ⟨b, built, rfl⟩ := build_of_moment? there
  refine ⟨b, built, fun m leads => (rows_staffed_iff built _ _ _ leads).2.1.2 ?_⟩
  intro earlier crew toEarlier _ appoints
  exact appoints.presentable (toEarlier.of_passes usable)

/-- The row for the people the task is handed to lists a blank, and who acts under it is let
through. -/
theorem toBlank_unstaffed : ∃ b m, toBlank.build default = .ok b ∧
    Moment.Leads (.begun (b.replay .standard default) b.actions) m ∧
    ∃ row ∈ m.table.rows, row.taskType = Task.userType ∧ row.status = .pending ∧ ¬ row.Staffed ∧
      Text.trim " " = "" ∧ row.isApprover " " = true := by
  have rows : toBlank.moment?.map (fun m => (m.after 6).table.rows.map fun row =>
      (row.taskType, row.status, row.approvers)) =
      some [(Task.userType, .transferred, "alice"), (Task.userType, .pending, "dave, ")] := by
    decide +kernel
  obtain ⟨m, there, rows⟩ := Option.map_eq_some_iff.1 rows
  obtain ⟨b, built, rfl⟩ := build_of_moment? there
  have listed : (Task.userType, TaskStatus.pending, "dave, ") ∈
      ((Moment.begun (b.replay .standard default) b.actions).after 6).table.rows.map
        fun row => (row.taskType, row.status, row.approvers) := by
    rw [rows]
    decide
  obtain ⟨row, member, same⟩ := List.mem_map.1 listed
  simp only [Prod.mk.injEq] at same
  obtain ⟨isUser, pending, approvers⟩ := same
  have accepted : row.isApprover " " = true := by
    unfold TaskRow.isApprover TaskRow.approverList
    rw [approvers]
    decide
  have blank : Text.trim " " = "" := by decide
  refine ⟨b, _, built, Moment.leads_after 6 _, row, member, isUser, pending, ?_, blank, accepted⟩
  intro staffed
  rw [staffed.refuses_blank blank] at accepted
  cases accepted

end Scenario

end ApprovalFlow
