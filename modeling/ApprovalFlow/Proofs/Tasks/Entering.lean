import ApprovalFlow.Proofs.Store.History
import ApprovalFlow.Proofs.Work
import ApprovalFlow.Store.EventLog

/-!
# Which rows a user task starts with

When a user task is entered its assignment names who has to approve. The names are trimmed, and
those of which nothing is left are dropped. Each of the others gets a row if all have to approve;
otherwise all share one, which lists them in one text. Nothing keeps a name from having the mark in
it that stands between names, so what the row lists in the end are the parts of the names.

* `Text.parts_eq_splitOn`: the parts of a text are those that it splits into at the mark.
* `UserTask.Enters`: what entering a task comes to, with somebody to approve and with nobody.
* `UserTask.create_enters`: it comes to that for any assignment and any table.
-/

namespace ApprovalFlow

/-! ## Parts of a text -/

namespace Text

theorem partsList_eq_splitOn (mark : Char) (cs : List Char) :
    partsList mark cs = cs.splitOn mark := by
  induction cs with
  | nil => rfl
  | cons c rest ih =>
      rw [List.splitOn_eq_splitOnP] at ih ⊢
      rw [partsList, List.splitOnP_cons_eq_if_modifyHead, ih]
      by_cases same : c = mark
      · simp [same]
      · have some := partsList_ne_nil mark rest
        rw [ih] at some
        obtain ⟨piece, more, pieces⟩ := List.exists_cons_of_ne_nil some
        simp [same, pieces]

/-- The parts of a text are those that it splits into. -/
theorem parts_eq_splitOn (mark : Char) (s : String) :
    parts mark s = (s.toList.splitOn mark).map String.ofList := by
  rw [parts, partsList_eq_splitOn]

end Text

namespace UserTask

variable {σ : Type}

/-! ## What is stored -/

/-- A row of a task that waits, as it is stored when the task is entered. -/
structure Waits (t : Task) (process : ProcessRow) (now : Instant) (row : TaskRow) : Prop where
  status : row.status = .pending
  version : row.version = 0
  processId : row.processId = process.id
  processName : row.processName = process.name
  processDisplayName : row.processDisplayName = process.displayName
  applicant : row.applicant = process.applicant
  taskType : row.taskType = Task.userType
  name : row.name = t.name
  displayName : row.displayName = t.displayName
  startTime : row.startTime = now
  untouched : row.operator = none ∧ row.remark = none ∧ row.formData = none ∧
    row.endTime = none ∧ row.extParams = none

/-- The parts of a name between its commas. -/
def nameParts (name : String) : List String :=
  (name.toList.splitOn ',').map String.ofList

/-- What comes of entering a task that some people have to approve, with the rows that are stored
for them. -/
structure Entered (t : Task) (p : UserPart) (c : Context) (e : Engine TaskTable σ)
    [EventStore σ] (names : List String) (rows : List TaskRow) : Prop where
  /-- If all have to approve each has a row. -/
  each : p.needAll = true → rows.map (·.approvers) = names
  /-- Otherwise there is one row, and who is a part of a name may act on it. -/
  shared : p.needAll = false → ∃ row, rows = [row] ∧ row.approverList = names.flatMap nameParts ∧
    ∀ user, row.isApprover user = true ↔ ∃ name ∈ names, user ∈ nameParts name
  waits : ∀ row ∈ rows, Waits t c.process e.now row
  ids : rows.map (·.id) = (List.range rows.length).map fun i : Nat => e.tasks.nextId + i
  fresh : ∀ row ∈ rows, ∀ old ∈ e.tasks.rows, old.id ≠ row.id
  /-- They come behind the rows that are there, and stay whatever the listeners say. -/
  stored : (create t c e).engine.tasks.rows = e.tasks.rows ++ rows
  context : (create t c e).context =
    { c with current := some t, newTasks := c.newTasks ++ rows }
  /-- The creation is notified of when all are stored, and that decides what is answered. -/
  answer : ({ e with tasks := ⟨e.tasks.rows ++ rows⟩ } : Engine TaskTable σ).notify
      TaskEvent.create { c with current := some t, newTasks := c.newTasks ++ rows } =
    ((create t c e).result, (create t c e).engine)
  told : dispatches (create t c e).engine.trace = dispatches e.trace ++
    [⟨.task, TaskEvent.create.name, (create t c e).context.snapshot⟩]

/-- What comes of entering a task, given the names that are left of its assignment. -/
structure Enters (t : Task) (p : UserPart) (c : Context) (e : Engine TaskTable σ)
    [EventStore σ] (names : List String) : Prop where
  /-- With nobody to approve it there is an error that no retry helps against, and nothing is
  stored, dispatched or run. -/
  nobody : names = [] → create t c e =
      ⟨.error (.emptyApprovers t.displayName), { c with current := some t }, e⟩ ∧
    (WorkflowError.emptyApprovers t.displayName).isFatal = true
  somebody : names ≠ [] → ∃ rows, Entered t p c e names rows

/-! ## The rows -/

section Rows

variable {t : Task} {process : ProcessRow} {now : Instant} {names : List String}

theorem waits_stored (table : TaskTable) (approvers : List String) :
    ∀ row ∈ table.stored (approvers.map fun approvers =>
      TaskRow.waiting Task.userType process t.name t.displayName approvers now),
      Waits t process now row := by
  refine TaskTable.forall_mem_stored ?_
  rw [List.forall_mem_map]
  intro approvers _ id
  exact ⟨rfl, rfl, rfl, rfl, rfl, rfl, rfl, rfl, rfl, rfl, rfl, rfl, rfl, rfl, rfl⟩

theorem approvers_stored (table : TaskTable) (approvers : List String) :
    (table.stored (approvers.map fun approvers =>
      TaskRow.waiting Task.userType process t.name t.displayName approvers now)).map
        (·.approvers) = approvers := by
  rw [TaskTable.map_stored fun _ _ => rfl, List.map_map]
  exact List.map_id _

/-- A row that lists some people in one text lists the parts of their names. -/
theorem approverList_of_joined {row : TaskRow} (somebody : names ≠ [])
    (joined : row.approvers = Text.joined TaskRow.approverMark names) :
    row.approverList = names.flatMap nameParts := by
  rw [TaskRow.approverList, joined, Text.parts_joined _ somebody]
  exact congrArg (names.flatMap ·) (funext fun name => Text.parts_eq_splitOn _ name)

theorem isApprover_iff_mem {row : TaskRow} {user : String} :
    row.isApprover user = true ↔ user ∈ row.approverList := by
  simp [TaskRow.isApprover]

end Rows

/-! ## Entering -/

variable [EventStore σ] {t : Task} {p : UserPart}

/-- Entering a task with some rows to store. -/
theorem create_of_somebody (kind : t.kind = .user p) (c : Context) (e : Engine TaskTable σ)
    {names : List String}
    (left : usableNames (p.assign { c with current := some t : Context }.snapshot) = names)
    (somebody : names ≠ []) {rows : List TaskRow}
    (stored : e.tasks.stored ((rowApprovers p.needAll names).map fun approvers =>
      TaskRow.waiting Task.userType c.process t.name t.displayName approvers e.now) = rows) :
    ∃ outcome e', ({ e with tasks := ⟨e.tasks.rows ++ rows⟩ } : Engine TaskTable σ).notify
        TaskEvent.create { c with current := some t, newTasks := c.newTasks ++ rows } =
          (outcome, e') ∧
      create t c e =
        ⟨outcome, { c with current := some t, newTasks := c.newTasks ++ rows }, e'⟩ ∧
      e'.tasks = ⟨e.tasks.rows ++ rows⟩ ∧
      dispatches e'.trace = dispatches e.trace ++ [⟨.task, TaskEvent.create.name,
        { c with current := some t, newTasks := c.newTasks ++ rows : Context }.snapshot⟩] := by
  let filled : Engine TaskTable σ := { e with tasks := ⟨e.tasks.rows ++ rows⟩ }
  let entered : Context := { c with current := some t, newTasks := c.newTasks ++ rows }
  have heard := Engine.heard_notify filled TaskEvent.create entered
  have told := Engine.dispatches_notify (c := entered) (t := t) rfl filled TaskEvent.create
  rcases notified : filled.notify TaskEvent.create entered with ⟨outcome, e'⟩
  rw [notified] at heard told
  refine ⟨outcome, e', rfl, ?_, heard.tasks, told⟩
  unfold create
  rw [part_of_kind kind]
  dsimp only
  rw [left, if_neg (by simpa using somebody), insertRows_eq]
  dsimp only
  rw [stored]
  exact congrArg (fun answer : Except WorkflowError Unit × Engine TaskTable σ =>
    (⟨answer.1, entered, answer.2⟩ : Reply TaskTable σ Unit)) notified

theorem enters_of_numbered (kind : t.kind = .user p) (c : Context) {e : Engine TaskTable σ}
    (numbered : e.tasks.Numbered) :
    Enters t p c e (usableNames (p.assign { c with current := some t : Context }.snapshot)) := by
  generalize left : usableNames (p.assign { c with current := some t : Context }.snapshot) = names
  constructor
  case nobody =>
    rintro rfl
    refine ⟨?_, rfl⟩
    unfold create
    rw [part_of_kind kind]
    dsimp only
    rw [left]
    rfl
  case somebody =>
    intro somebody
    generalize stored : e.tasks.stored ((rowApprovers p.needAll names).map fun approvers =>
      TaskRow.waiting Task.userType c.process t.name t.displayName approvers e.now) = rows
    obtain ⟨outcome, e', notified, whole, tasks, told⟩ :=
      create_of_somebody kind c e left somebody stored
    have approvers : rows.map (·.approvers) = rowApprovers p.needAll names :=
      stored ▸ approvers_stored e.tasks _
    have ids : rows.map (·.id) = (List.range rows.length).map fun i : Nat => e.tasks.nextId + i :=
      stored ▸ TaskTable.ids_stored e.tasks _
    refine ⟨rows, ?_⟩
    constructor
    case each =>
      intro all
      rw [approvers, rowApprovers, if_pos all]
    case shared =>
      intro one
      rw [rowApprovers, one, if_neg Bool.false_ne_true] at approvers
      obtain ⟨row, rfl, joined⟩ := List.map_eq_singleton_iff.1 approvers
      have listed := approverList_of_joined somebody joined
      refine ⟨row, rfl, listed, ?_⟩
      intro user
      rw [isApprover_iff_mem, listed, List.mem_flatMap]
    case waits => exact stored ▸ waits_stored e.tasks _
    case ids => exact ids
    case fresh =>
      intro row member old there same
      have below := numbered.lt_nextId there
      have listed : row.id ∈ rows.map (·.id) := List.mem_map_of_mem member
      rw [ids] at listed
      obtain ⟨i, -, place⟩ := List.mem_map.1 listed
      omega
    case stored => rw [whole, tasks]
    case context => rw [whole]
    case answer =>
      rw [whole]
      exact notified
    case told =>
      rw [whole]
      exact told

/-- Whatever the assignment says and whatever is stored, entering a task that people approve stores
a row for each that has a name, or one for all of them, and then notifies of it once. -/
theorem create_enters (kind : t.kind = .user p) (c : Context) (writes : List TaskTable.Write)
    (start : Engine TaskTable σ) :
    Enters t p c { start with tasks := (TaskTable.served writes).2 }
      (usableNames (p.assign { c with current := some t : Context }.snapshot)) :=
  enters_of_numbered kind c (TaskTable.reflected_served writes).numbered

end UserTask

/-! ## A committee -/

namespace Committee

/-- One of the names has two parts, one is blank, and one is there twice. -/
def part : UserPart :=
  ⟨fun _ => [" alice,bob ", "  ", "carol", "carol"], false, none⟩

def review : Task :=
  ⟨"review", "Review", .user part, .empty, ["end"]⟩

def context : Context :=
  .base (.named "release" "Release") default none

def engine : Engine TaskTable EventLog :=
  .new ⟨.empty, .empty, "system"⟩ 1 none .empty .empty .empty default

theorem usableNames_part :
    UserTask.usableNames (part.assign { context with current := some review : Context }.snapshot) =
      ["alice,bob", "carol", "carol"] := by
  decide +kernel

/-- The committee shares a row, and everybody who is part of a name is on it. -/
theorem review_is_shared : review.kind = .user part ∧
    ∃ row, (UserTask.create review context engine).engine.tasks.rows = [row] ∧
      row.approverList = ["alice", "bob", "carol", "carol"] ∧ row.id = 1 := by
  have enters := UserTask.create_enters (t := review) (p := part) rfl context [] engine
  rw [usableNames_part] at enters
  obtain ⟨rows, entered⟩ := enters.somebody (List.cons_ne_nil _ _)
  obtain ⟨row, rfl, listed, -⟩ := entered.shared rfl
  refine ⟨rfl, row, entered.stored, ?_, ?_⟩
  · rw [listed]
    decide +kernel
  · exact (List.cons.inj entered.ids).1

end Committee

end ApprovalFlow
