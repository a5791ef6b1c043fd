import ApprovalFlow.Proofs.Replay.Duties
import ApprovalFlow.Proofs.Replay.Unanimity

/-!
# The types of rows

A row should have the type of the task it is named after. Entering a task sees to that; handing a
task over makes a row of a user task whatever the task is. An engine's own task can be handed over
when it was left with an open row, which a listener that fails when the task is entered brings
about.

* `Moment.Leads.typed_iff`: the types are right as long as only user tasks are handed over.
-/

namespace ApprovalFlow

namespace Moment

variable {m start : Moment}

/-- Every row has the type of the task it is named after. -/
def Typed (m : Moment) : Prop :=
  ∀ row ∈ m.table.rows, ∃ t, m.replay.definition.task? row.name = some t ∧
    row.taskType = t.typeName

theorem HandsOver.has {t : Task} {users : List String} (handsOver : m.HandsOver t users)
    (leads : Leads start m) (orderly : start.Orderly) (opening : start.phase = .opening) :
    start.replay.definition.Has t := by
  obtain ⟨spec, c, taskId, follows, -⟩ := handsOver
  exact leads.has_of_following orderly opening follows

/-- The types are right exactly if nothing but user tasks has been handed over. -/
theorem Leads.typed_iff (leads : Leads start m) (orderly : start.Orderly)
    (opening : start.phase = .opening) (empty : start.table.duties = []) :
    m.Typed ↔ ∀ earlier t users, Leads start earlier → Before earlier m →
      earlier.HandsOver t users → t.typeName = Task.userType := by
  have definition := (Leads.keeps leads orderly).1
  constructor
  · intro typed earlier t users toEarlier before handsOver
    have has := handsOver.has toEarlier orderly opening
    obtain ⟨row, member, duty⟩ := TaskTable.mem_duties.1 ((leads.mem_duties_iff orderly).2
      (Or.inr ⟨earlier, toEarlier, before, mem_assigned_iff.2 (Or.inr ⟨t, users, handsOver, rfl⟩)⟩))
    obtain ⟨t', found, type⟩ := typed row member
    have name : row.name = t.name := congrArg Duty.task duty
    have userRow : row.taskType = Task.userType := congrArg Duty.taskType duty
    rw [definition, name] at found
    have one : t' = t := Option.some.inj (found.symm.trans has)
    rw [← one, ← type, userRow]
  · intro usersOnly row member
    have there : row.duty ∈ m.table.duties := TaskTable.mem_duties.2 ⟨row, member, rfl⟩
    rcases (leads.mem_duties_iff orderly).1 there with first | ⟨earlier, toEarlier, before, assigns⟩
    · rw [empty] at first
      cases first
    · have same : earlier.replay.definition = m.replay.definition :=
        (Leads.keeps toEarlier orderly).1.trans definition.symm
      rcases mem_assigned_iff.1 assigns with ⟨t, enters, assigned⟩ | ⟨t, users, handsOver, duty⟩
      · obtain ⟨-, name, type⟩ := Task.of_mem_duties assigned
        obtain ⟨_, _, _, _, -, -, has⟩ := enters
        have named : row.name = t.name := name
        exact ⟨t, by rw [← same, named]; exact has, type⟩
      · have has := handsOver.has toEarlier orderly opening
        have name : row.name = t.name := congrArg Duty.task duty
        have type : row.taskType = Task.userType := congrArg Duty.taskType duty
        refine ⟨t, ?_, ?_⟩
        · rw [definition, name]
          exact has
        · rw [type, usersOnly earlier t users toEarlier before handsOver]

end Moment

/-- In the replay of an accepted scenario, whatever its listeners answer and whatever is done, every
row has the type of its task exactly until a task is handed over that is no user task. -/
theorem Scenario.rows_typed_iff {s : Scenario} {now : Instant} {b : BuiltScenario}
    (built : s.build now = .ok b) (config : WorkflowConfig) (time : Instant)
    (actions : List ActionSpec) {m : Moment}
    (leads : Moment.Leads (.begun (b.replay config time) actions) m) :
    m.Typed ↔ ∀ earlier t users,
      Moment.Leads (.begun (b.replay config time) actions) earlier → Moment.Before earlier m →
        earlier.HandsOver t users → t.typeName = Task.userType := by
  obtain ⟨orderly, -⟩ := Moment.orderly_begun built config time actions
  exact leads.typed_iff orderly rfl rfl

/-! ## A task that is handed over, and an engine's own task that is -/

namespace Moment

/-- Whether an engine's own task is about to be handed over. -/
def isMishanding (m : Moment) : Bool :=
  match m.phase with
  | .following spec t _ _ => spec.action == .transfer && t.typeName != Task.userType
  | _ => false

theorem HandsOver.typeName_eq {m : Moment} {t : Task} {users : List String}
    (handsOver : m.HandsOver t users) (right : m.isMishanding = false) :
    t.typeName = Task.userType := by
  obtain ⟨spec, c, taskId, follows, transfer, -⟩ := handsOver
  unfold isMishanding at right
  rw [follows] at right
  simpa [transfer] using right

end Moment

namespace Scenario

/-- A task of the engine's own cannot be entered because a listener fails, and somebody hands it
over. -/
def stranded : Scenario where
  process := ⟨1, "P", none, "carol", none, ["archive"]⟩
  form := none
  tasks := [⟨"archive", none, .service [], ["end"]⟩]
  listeners := [⟨"reserve_space", .task "archive", "CREATE", false, some "disk full"⟩]
  actions := [⟨"archive", "dave", .transfer, none, none, ["erin"]⟩]

/-- Handing a user task over leaves the types right. -/
theorem passedOn_typed : ∃ b, passedOn.build default = .ok b ∧
    ∀ m, Moment.Leads (.begun (b.replay .standard default) b.actions) m → m.Typed := by
  have passed : passedOn.moment?.map (·.passes (fun m => !m.isMishanding) 12) = some true := by
    decide +kernel
  obtain ⟨m, there, right⟩ := Option.map_eq_some_iff.1 passed
  obtain ⟨b, built, rfl⟩ := build_of_moment? there
  refine ⟨b, built, fun m leads => (rows_typed_iff built _ _ _ leads).2 ?_⟩
  intro earlier t users toEarlier _ handsOver
  have handsRight := toEarlier.of_passes right
  exact handsOver.typeName_eq (by simpa using handsRight)

/-- The row for the person the engine's own task is handed to has the type of a user task's. -/
theorem stranded_mistyped : ∃ b m, stranded.build default = .ok b ∧
    Moment.Leads (.begun (b.replay .standard default) b.actions) m ∧ ¬ m.Typed := by
  have rows : stranded.moment?.map (fun m =>
      ((m.after 5).table.rows.map (fun row => (row.name, row.taskType)),
        ((m.after 5).replay.definition.task? "archive").map (·.typeName))) =
      some ([("archive", Task.serviceType), ("archive", Task.userType)],
        some Task.serviceType) := by
    decide +kernel
  obtain ⟨m, there, rows⟩ := Option.map_eq_some_iff.1 rows
  obtain ⟨b, built, rfl⟩ := build_of_moment? there
  refine ⟨b, _, built, Moment.leads_after 5 _, fun typed => ?_⟩
  obtain ⟨rows, type⟩ := Prod.mk.inj rows
  have member : ("archive", Task.userType) ∈ ((Moment.begun (b.replay .standard default)
      b.actions).after 5).table.rows.map fun row => (row.name, row.taskType) := by
    rw [rows]
    decide
  obtain ⟨row, member, same⟩ := List.mem_map.1 member
  obtain ⟨name, userRow⟩ := Prod.mk.inj same
  obtain ⟨t, found, own⟩ := typed row member
  rw [name] at found
  rw [found, Option.map_some] at type
  rw [userRow, Option.some.inj type] at own
  exact absurd own (by decide)

end Scenario

end ApprovalFlow
