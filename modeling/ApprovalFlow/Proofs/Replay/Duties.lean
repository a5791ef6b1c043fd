import ApprovalFlow.Proofs.Replay.Ending
import Mathlib.Data.List.Infix

/-!
# What rows are there for

Closing a row leaves alone what the row is for and who is to act on it: its duty. So the duties in a
table only become more, and every one of them was assigned by a move that entered a task or handed
one over.

* `Moment.duties_next`: a move puts the duties that it assigns behind those that are there.
* `Moment.Leads.mem_duties_iff`: a duty is in the table exactly if an earlier move has assigned it.
-/

namespace ApprovalFlow

/-- What a row is there for. -/
structure Duty where
  processId : Int
  taskType : String
  task : String
  approvers : String

def TaskRow.duty (row : TaskRow) : Duty :=
  ⟨row.processId, row.taskType, row.name, row.approvers⟩

theorem TaskRow.SameTask.duty_eq {row later : TaskRow} (same : row.SameTask later) :
    later.duty = row.duty := by
  rw [same]
  rfl

namespace TaskTable

/-- The duties of the rows, in order. -/
def duties (t : TaskTable) : List Duty :=
  t.rows.map TaskRow.duty

variable {t t' : TaskTable}

theorem mem_duties {d : Duty} : d ∈ t.duties ↔ ∃ row ∈ t.rows, row.duty = d :=
  List.mem_map

theorem duties_insert (t : TaskTable) (row : TaskRow) :
    (t.insert row).duties = t.duties ++ [row.duty] := by
  simp only [duties, insert, List.map_append, List.map_cons, List.map_nil]
  rfl

/-- A row that takes the place of one with the same duty. -/
theorem Numbered.duties_replace (numbered : t.Numbered) {old row : TaskRow} (member : old ∈ t.rows)
    (same : old.SameTask row) : (t.replace row).duties = t.duties := by
  obtain ⟨before, after, split, replaced⟩ := numbered.split_replace member same.id_eq
  rw [duties, duties, split, replaced, List.map_append, List.map_append, List.map_cons,
    List.map_cons, same.duty_eq]

theorem Move.duties_isPrefix (move : Move t t') (sound : t.Sound) : t.duties <+: t'.duties := by
  cases move with
  | stay => exact List.prefix_refl _
  | @insert _ row =>
      rw [duties_insert]
      exact List.prefix_append ..
  | close member closes =>
      rw [sound.numbered.duties_replace member (sameTask_bumped closes.same)]

theorem Moves.duties_isPrefix (moves : Moves t t') (sound : t.Sound) : t.duties <+: t'.duties := by
  induction moves with
  | refl => exact List.prefix_refl _
  | tail on move ih => exact ih.trans (move.duties_isPrefix (Moves.grows on sound).1)

/-- Moves that store no row keep the duties. -/
theorem Moves.duties_eq (moves : Moves t t') (sound : t.Sound) (size : t'.size = t.size) :
    t'.duties = t.duties := by
  refine ((moves.duties_isPrefix sound).eq_of_length ?_).symm
  rw [duties, duties, List.length_map, List.length_map]
  exact size.symm

theorem size_update (t : TaskTable) (row : TaskRow) : (t.update row).2.size = t.size := by
  unfold update
  split
  · rfl
  · split
    · rfl
    · exact size_replace ..

end TaskTable

namespace UserTask

/-- The groups of people that each get a row when a task is entered. -/
def crews (needAll : Bool) (names : List String) : List (List String) :=
  if names.isEmpty then [] else if needAll then names.map fun name => [name] else [names]

theorem crews_ne_nil (needAll : Bool) {names : List String} (somebody : names ≠ []) :
    crews needAll names ≠ [] := by
  unfold crews
  rw [if_neg (by simpa using somebody)]
  split
  · exact mt List.map_eq_nil_iff.1 somebody
  · exact List.cons_ne_nil _ _

theorem rowApprovers_eq (needAll : Bool) {names : List String} (somebody : ¬ names.isEmpty = true) :
    rowApprovers needAll names = (crews needAll names).map (Text.joined TaskRow.approverMark) := by
  unfold rowApprovers crews
  rw [if_neg somebody]
  cases needAll with
  | false => rfl
  | true =>
      have alone : ∀ name, Text.joined TaskRow.approverMark [name] = name := by
        intro name
        simp [Text.joined, Text.joinedLists]
      simp [Function.comp_def, alone]

end UserTask

/-- The duties that entering a task assigns. -/
def Task.duties (t : Task) (processId : Int) (operator : String) (s : Snapshot) : List Duty :=
  match t.kind with
  | .user p => (UserTask.crews p.needAll (UserTask.usableNames (p.assign s))).map fun crew =>
      ⟨processId, userType, t.name, Text.joined TaskRow.approverMark crew⟩
  | .service _ => [⟨processId, serviceType, t.name, operator⟩]

theorem Task.of_mem_duties {t : Task} {processId : Int} {operator : String} {s : Snapshot}
    {d : Duty} (member : d ∈ t.duties processId operator s) :
    d.processId = processId ∧ d.task = t.name ∧ d.taskType = t.typeName := by
  unfold duties at member
  unfold typeName
  cases kind : t.kind with
  | user p =>
      rw [kind] at member
      obtain ⟨crew, -, rfl⟩ := List.mem_map.1 member
      exact ⟨rfl, rfl, rfl⟩
  | service part =>
      rw [kind] at member
      rw [List.mem_singleton.1 member]
      exact ⟨rfl, rfl, rfl⟩

/-! ## Entering and completing tasks -/

section Operations

variable {σ : Type} [EventStore σ] {t : Task}

omit [EventStore σ] in
theorem UserTask.duties_insertRows (c : Context) (e : Engine TaskTable σ) (rows : List TaskRow) :
    (insertRows c e rows).engine.tasks.duties = e.tasks.duties ++ rows.map TaskRow.duty := by
  rw [insertRows_eq, TaskTable.duties, List.map_append, TaskTable.map_stored fun _ _ => rfl]
  rfl

theorem Processor.duties_create (t : Task) (c : Context) (e : Engine TaskTable σ) :
    ((ofTask t).create t c e).engine.tasks.duties = e.tasks.duties ++
      t.duties c.process.id e.settings.systemOperator
        ({ c with current := some t } : Context).snapshot := by
  unfold ofTask Task.duties
  cases kind : t.kind with
  | user p =>
      have isUser : UserTask.part t = .ok p := UserTask.part_of_kind kind
      simp only [create, UserTask.create, isUser]
      split
      · rename_i nobody
        rw [UserTask.crews, if_pos nobody]
        exact (List.append_nil _).symm
      · rename_i somebody
        have stored := UserTask.duties_insertRows { c with current := some t } e
          ((UserTask.rowApprovers p.needAll (UserTask.usableNames (p.assign
            { c with current := some t : Context }.snapshot))).map fun approvers =>
              TaskRow.waiting Task.userType c.process t.name t.displayName approvers e.now)
        rw [UserTask.rowApprovers_eq p.needAll somebody, List.map_map, List.map_map] at stored
        rw [UserTask.rowApprovers_eq p.needAll somebody, List.map_map]
        rcases inserted : UserTask.insertRows { c with current := some t } e _ with
          ⟨err | ⟨⟩, c', e'⟩
        · rw [inserted] at stored
          exact stored
        · rw [inserted] at stored
          dsimp only
          rw [(Engine.heard_notify e' TaskEvent.create c').tasks]
          exact stored
  | service part =>
      have isService : ServiceTask.check t = .ok () := ServiceTask.check_of_kind kind
      simp only [create, ServiceTask.create, isService, Engine.insertTask_eq]
      rw [(Engine.heard_notify _ TaskEvent.create _).tasks, TaskTable.duties_insert]
      rfl

omit [EventStore σ] in
theorem Engine.size_updateTask (e : Engine TaskTable σ) (row : TaskRow) :
    (e.updateTask row).2.tasks.size = e.tasks.size :=
  TaskTable.size_update e.tasks row

omit [EventStore σ] in
theorem ServiceTask.size_finish (status : TaskStatus) (remark : Option String) (c : Context)
    (e : Engine TaskTable σ) : (finish status remark c e).engine.tasks.size = e.tasks.size := by
  unfold finish
  cases c.request with
  | error err => rfl
  | ok a =>
      have kept := e.size_updateTask (closedRow a.row status e.settings.systemOperator remark e.now)
      dsimp only
      rcases stored : e.updateTask _ with ⟨err | row, e'⟩
      · rw [stored] at kept
        exact kept
      · rw [stored] at kept
        exact kept

theorem UserTask.size_complete (c : Context) (e : Engine TaskTable σ) :
    (complete c e).engine.tasks.size = e.tasks.size := by
  unfold complete
  rcases plan c e.now with err | ⟨event, row⟩
  · rfl
  · have kept := e.size_updateTask row
    dsimp only
    rcases stored : e.updateTask row with ⟨err | saved, e'⟩
    · rw [stored] at kept
      exact kept
    · rw [stored] at kept
      have told := (Engine.heard_notify e' event (c.withRow saved)).tasks
      dsimp only
      rcases answer : e'.notify event (c.withRow saved) with ⟨err | ⟨⟩, e''⟩
      · rw [answer] at told
        exact (congrArg TaskTable.size told).trans kept
      · rw [answer] at told
        exact (congrArg TaskTable.size told).trans kept

theorem ServiceTask.size_complete (c : Context) (e : Engine TaskTable σ) :
    (complete c e).engine.tasks.size = e.tasks.size := by
  unfold complete
  rcases prepare c e.settings.systemOperator with ⟨err | ⟨⟩, ready⟩
  · rfl
  · have told := (Engine.heard_notify e TaskEvent.complete ready).tasks
    dsimp only
    rcases answer : e.notify TaskEvent.complete ready with ⟨err | ⟨⟩, e'⟩
    · rw [answer] at told
      have kept := size_finish .failed (some err.message) ready e'
      dsimp only
      rw [(Engine.heard_notify _ TaskEvent.fail _).tasks, kept]
      exact congrArg TaskTable.size told
    · rw [answer] at told
      have kept := size_finish .completed none ready e'
      dsimp only
      rcases finished : finish .completed none ready e' with ⟨err | row, c', e''⟩
      · rw [finished] at kept
        exact kept.trans (congrArg TaskTable.size told)
      · rw [finished] at kept
        exact kept.trans (congrArg TaskTable.size told)

/-- Completing a task stores no row. -/
theorem Processor.size_complete (p : Processor) (c : Context) (e : Engine TaskTable σ) :
    (p.complete c e).engine.tasks.size = e.tasks.size := by
  cases p with
  | user => exact UserTask.size_complete c e
  | service => exact ServiceTask.size_complete c e

end Operations

namespace Replay

/-- The duties that entering a task assigns in a replay. -/
def dutiesOf (r : Replay) (t : Task) : List Duty :=
  t.duties r.process.id r.engine.settings.systemOperator
    ({ r.context with current := some t } : Context).snapshot

variable {r : Replay}

theorem duties_enter (sound : r.engine.tasks.Sound) (t : Task) :
    (r.enter t).2.engine.tasks.duties = r.engine.tasks.duties ++ r.dutiesOf t := by
  have entered := Engine.worked_create (Processor.ofTask t) t
    { r.context with current := some t } r.engine
  have created := Processor.duties_create t { r.context with current := some t } r.engine
  refine Eq.trans ?_ created
  -- What follows closes a row at most.
  refine (worked_entered sound t).engine.moves.duties_eq (entered.moves.grows sound).1 ?_
  unfold enter
  dsimp only
  rcases (Processor.ofTask t).create t { r.context with current := some t } r.engine with
    ⟨err | ⟨⟩, c, e⟩
  · rfl
  · dsimp only
    split
    · rfl
    · have kept := (Processor.ofTask t).size_complete c e
      rcases done : (Processor.ofTask t).complete c e with ⟨err | done, c', e'⟩
      · rw [done] at kept
        have told := (Engine.heard_notify e' ProcessEvent.fail c').tasks
        exact (congrArg TaskTable.size told).trans kept
      · rw [done] at kept
        dsimp only
        rw [engine_next]
        exact kept

/-- The duties that taking a name off the queue assigns. -/
def dutiesAt (r : Replay) (name : String) : List Duty :=
  if name = ProcessDefinition.endName then []
  else ((r.definition.task? name).map r.dutiesOf).getD []

theorem duties_visit (sound : r.engine.tasks.Sound) (name : String) :
    (r.visit name).2.engine.tasks.duties = r.engine.tasks.duties ++ r.dutiesAt name := by
  unfold dutiesAt
  by_cases ends : name = ProcessDefinition.endName
  · rw [if_pos ends, List.append_nil, ends, (ended_visit r).tasks]
  · rw [if_neg ends]
    unfold visit
    rw [if_neg ends]
    unfold task
    cases r.definition.task? name with
    | none => exact (List.append_nil _).symm
    | some t => exact duties_enter sound t

/-- The duties that handing a task over assigns: one, for everybody whom it is handed to. -/
def dutiesFor (r : Replay) (t : Task) (users : List String) : List Duty :=
  if users.isEmpty then []
  else [⟨r.process.id, Task.userType, t.name, Text.joined TaskRow.approverMark users⟩]

theorem duties_transfer (r : Replay) (t : Task) (c : Context) (users : List String) :
    (r.transfer t c users).2.engine.tasks.duties =
      r.engine.tasks.duties ++ r.dutiesFor t users := by
  unfold transfer dutiesFor
  split
  · exact (List.append_nil _).symm
  · simp only [Engine.insertTask_eq]
    rw [(Engine.heard_notify _ TaskEvent.create _).tasks, TaskTable.duties_insert]
    rfl

end Replay

/-! ## Moves -/

namespace Moment

variable {m m' : Moment}

/-- The duties that the next move assigns. -/
def assigned (m : Moment) : List Duty :=
  match m.phase with
  | .walking _ _ (name :: _) _ => m.replay.dutiesAt name
  | .following spec t _ _ =>
    if spec.action = .transfer then m.replay.dutiesFor t spec.transferTo else []
  | _ => []

/-- The next move enters a task. -/
def Enters (m : Moment) (t : Task) : Prop :=
  ∃ step before rest entered, m.phase = .walking step before (t.name :: rest) entered ∧
    t.name ≠ ProcessDefinition.endName ∧ m.replay.definition.Has t

/-- The next move hands a task over to other people. -/
def HandsOver (m : Moment) (t : Task) (users : List String) : Prop :=
  ∃ spec c taskId, m.phase = .following spec t c taskId ∧ spec.action = .transfer ∧
    spec.transferTo = users ∧ users ≠ []

/-- Duties are assigned by entering tasks and by handing tasks over. -/
theorem mem_assigned_iff {d : Duty} : d ∈ m.assigned ↔
    (∃ t, m.Enters t ∧ d ∈ m.replay.dutiesOf t) ∨ ∃ t users, m.HandsOver t users ∧
      d = ⟨m.replay.process.id, Task.userType, t.name, Text.joined TaskRow.approverMark users⟩ := by
  constructor
  · intro assigns
    obtain ⟨r, phase, actions⟩ := m
    cases phase with
    | walking step before queue entered =>
        cases queue with
        | nil => cases assigns
        | cons name rest =>
            simp only [assigned, Replay.dutiesAt] at assigns
            split at assigns
            · cases assigns
            · rename_i goesOn
              cases found : r.definition.task? name with
              | none =>
                  rw [found] at assigns
                  cases assigns
              | some t =>
                  rw [found] at assigns
                  obtain ⟨has, rfl⟩ := ProcessDefinition.has_of_task? found
                  exact Or.inl ⟨t, ⟨step, before, rest, entered, rfl, goesOn, has⟩, assigns⟩
    | following spec t c taskId =>
        simp only [assigned, Replay.dutiesFor] at assigns
        split at assigns
        · rename_i transfer
          split at assigns
          · cases assigns
          · rename_i somebody
            exact Or.inr ⟨t, _, ⟨spec, c, taskId, rfl, transfer, rfl, by simpa using somebody⟩,
              List.mem_singleton.1 assigns⟩
        · cases assigns
    | opening => cases assigns
    | resting => cases assigns
    | broken => cases assigns
  · obtain ⟨r, phase, actions⟩ := m
    rintro (⟨t, ⟨step, before, rest, entered, rfl, goesOn, has⟩, assigns⟩ |
      ⟨t, users, ⟨spec, c, taskId, rfl, transfer, rfl, somebody⟩, rfl⟩)
    · unfold ProcessDefinition.Has at has
      simp only [assigned, Replay.dutiesAt, if_neg goesOn, has]
      exact assigns
    · simp only [assigned, if_pos transfer, Replay.dutiesFor]
      rw [if_neg (by simpa using somebody)]
      exact List.mem_singleton.2 rfl

theorem table_settle (r : Replay) (actions : List ActionSpec) (step : String)
    (result : Except WorkflowError String) :
    (settle r actions step result).table = r.engine.tasks := by
  obtain ⟨steps, phase, same, -⟩ := settle_eq r actions step result
  rw [same]
  rfl

/-- A move puts the duties that it assigns behind those that are there. -/
theorem duties_next (sound : m.table.Sound) (h : m.next = some m') :
    m'.table.duties = m.table.duties ++ m.assigned := by
  match m, h with
  | ⟨r, .opening, actions⟩, h =>
      have told := (Engine.heard_notify r.engine ProcessEvent.create r.context).tasks
      have kept : m'.table = r.engine.tasks := by
        rcases answer : r.notifyProcess .create r.context with ⟨err | ⟨⟩, r'⟩
        · simp only [next, answer] at h
          cases h
          rw [table_settle, show r' = (r.notifyProcess .create r.context).2 by rw [answer]]
          exact told
        · simp only [next, answer] at h
          cases h
          rw [show r' = (r.notifyProcess .create r.context).2 by rw [answer]]
          exact told
      rw [kept]
      exact (List.append_nil _).symm
  | ⟨r, .walking step before [] entered, actions⟩, h =>
      cases h
      rw [table_settle]
      exact (List.append_nil _).symm
  | ⟨r, .walking step before (name :: rest) entered, actions⟩, h =>
      cases h
      obtain ⟨steps, same⟩ := visited_replay actions step before rest (entered ++ [name])
        (r.visit name)
      rw [Moment.table, same]
      exact Replay.duties_visit sound name
  | ⟨r, .resting, []⟩, h => cases h
  | ⟨r, .resting, spec :: actions⟩, h =>
      have kept : m'.table.duties = r.engine.tasks.duties := by
        refine ((next_cases sound h).keeps sound).2.2.duties_eq sound ?_
        rcases target : r.target spec with err | ⟨t, row⟩
        · simp only [next, target] at h
          cases h
          rw [show (settle r actions _ _).replay.engine.tasks = _ from table_settle ..]
        · simp only [next, target] at h
          cases h
          obtain ⟨steps, same⟩ := applied_replay r actions spec t
            ((Processor.ofTask t).complete (r.actionContext spec t row) r.engine)
          rw [same]
          exact (Processor.ofTask t).size_complete (r.actionContext spec t row) r.engine
      rw [kept]
      exact (List.append_nil _).symm
  | ⟨r, .following spec t c taskId, actions⟩, h =>
      cases followed_of_next h with
      | goesOn approves =>
          have other : ¬ spec.action = .transfer := by
            rcases approves with action | action <;> rw [action] <;> decide
          obtain ⟨steps, same⟩ := approved_replay r actions spec t c taskId
          simp only [assigned, if_neg other, List.append_nil]
          rw [Moment.table, same]
          rfl
      | handsOver action =>
          simp only [assigned, if_pos action]
          rw [table_settle]
          exact Replay.duties_transfer r t c spec.transferTo
      | @closes status event word veto final terminal =>
          have other : ¬ spec.action = .transfer := by
            intro action
            rw [action] at veto
            exact absurd veto (by decide)
          have ended : Replay.Ended status r _ := ended_closed terminal r actions spec taskId word
          simp only [assigned, if_neg other, List.append_nil]
          rw [Moment.table, ended.tasks]
          rfl
      | refuses action =>
          have other : ¬ spec.action = .transfer := by rw [action]; decide
          simp only [assigned, if_neg other, List.append_nil]
          rw [table_settle]
          rfl
  | ⟨r, .broken failure, actions⟩, h => cases h

/-- The first moment comes at least one move before the second. -/
abbrev Before : Moment → Moment → Prop :=
  Relation.TransGen fun m m' => m.next = some m'

theorem Leads.duties_isPrefix (leads : Leads m m') (orderly : m.Orderly) :
    m.table.duties <+: m'.table.duties := by
  induction leads with
  | refl => exact List.prefix_refl _
  | tail on h ih =>
      rw [duties_next (Leads.orderly on orderly).sound h]
      exact ih.trans (List.prefix_append ..)

/-- A duty is in the table exactly if it was there to begin with or an earlier move has assigned
it. -/
theorem Leads.mem_duties_iff {start : Moment} (leads : Leads start m) (orderly : start.Orderly)
    {d : Duty} : d ∈ m.table.duties ↔
      d ∈ start.table.duties ∨ ∃ earlier, Leads start earlier ∧ Before earlier m ∧
        d ∈ earlier.assigned := by
  constructor
  · intro member
    induction leads with
    | refl => exact Or.inl member
    | @tail middle last on h ih =>
        rw [duties_next (Leads.orderly on orderly).sound h] at member
        rcases List.mem_append.1 member with old | new
        · rcases ih old with first | ⟨earlier, toEarlier, before, assigns⟩
          · exact Or.inl first
          · exact Or.inr ⟨earlier, toEarlier, before.tail h, assigns⟩
        · exact Or.inr ⟨middle, on, .single h, new⟩
  · rintro (first | ⟨earlier, toEarlier, before, assigns⟩)
    · exact (leads.duties_isPrefix orderly).subset first
    · obtain ⟨after, h, on⟩ := Relation.TransGen.head'_iff.1 before
      have now := Leads.orderly toEarlier orderly
      refine (Leads.duties_isPrefix on (now.next h)).subset ?_
      rw [duties_next now.sound h]
      exact List.mem_append_right _ assigns

end Moment

/-- The approver of a task, whose name was given with a blank, hands it to somebody else, who
approves. -/
def Scenario.passedOn : Scenario :=
  { straight with
    tasks := [⟨"review", none, .user ["alice ", " "] false none, ["end"]⟩]
    actions := [⟨"review", "alice", .transfer, none, none, ["dave"]⟩,
      ⟨"review", "dave", .approve, none, none, []⟩] }

end ApprovalFlow
