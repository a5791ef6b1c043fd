import ApprovalFlow.Proofs.Replay.Course
import ApprovalFlow.Proofs.Replay.Duties
import ApprovalFlow.Proofs.Replay.Refusals

/-!
# What a step adds to the table

A step acts on one row at most, and does so first. All that comes after it puts new rows behind
those that are there: walking on stores rows for the tasks that it comes to, and closes no row but
one that it has stored itself; handing a task over stores one.

* `TaskTable.Adds`: rows are added and nothing else.
* `Moment.adds_next`: a move adds rows unless it takes the next action.
* `Moment.Leads.adds_within`: what comes of an action once its row has been dealt with.
* `Moment.Leads.unnoted`: nothing is noted on a row before somebody acts on it.
-/

namespace ApprovalFlow

/-- Nothing has been noted on the row as long as it waits. -/
def TaskRow.Unnoted (row : TaskRow) : Prop :=
  row.status = .pending → row.extParams = none

theorem TaskRow.IsClosed.unnoted {row : TaskRow} (closed : row.IsClosed) : row.Unnoted := by
  intro pending
  have terminal := closed.status
  rw [pending] at terminal
  cases terminal

namespace TaskTable

/-- Rows have been put behind those that were there, and nothing is noted on those that wait. -/
def Adds (t t' : TaskTable) : Prop :=
  ∃ more, t'.rows = t.rows ++ more ∧ ∀ row ∈ more, row.Unnoted

variable {t t' t'' : TaskTable}

theorem Adds.refl (t : TaskTable) : t.Adds t :=
  ⟨[], (List.append_nil _).symm, by simp⟩

theorem Adds.of_eq (same : t' = t) : t.Adds t' :=
  same ▸ Adds.refl t

theorem Adds.trans (left : t.Adds t') (right : t'.Adds t'') : t.Adds t'' := by
  obtain ⟨first, rows, unnoted⟩ := left
  obtain ⟨second, rows', unnoted'⟩ := right
  refine ⟨first ++ second, by rw [rows', rows, List.append_assoc], ?_⟩
  intro row member
  rcases List.mem_append.1 member with old | new
  · exact unnoted row old
  · exact unnoted' row new

theorem Adds.isPrefix (adds : t.Adds t') : t.rows <+: t'.rows := by
  obtain ⟨more, rows, -⟩ := adds
  exact ⟨more, rows.symm⟩

theorem Adds.unnoted (adds : t.Adds t') (unnoted : ∀ row ∈ t.rows, row.Unnoted) :
    ∀ row ∈ t'.rows, row.Unnoted := by
  obtain ⟨more, rows, new⟩ := adds
  intro row member
  rw [rows] at member
  rcases List.mem_append.1 member with old | added
  · exact unnoted row old
  · exact new row added

/-- A row that is closed as the last one has been put behind the others. -/
theorem Numbered.replace_last (numbered : t.Numbered) {row closed : TaskRow}
    (rows : t'.rows = t.rows ++ [row]) (own : row.id = t.nextId) (same : closed.id = row.id) :
    (t'.replace closed).rows = t.rows ++ [closed] := by
  have kept : ∀ old ∈ t.rows, (if old.id = closed.id then closed else old) = old := by
    intro old member
    have below := numbered.lt_nextId member
    exact if_neg (by omega)
  unfold TaskTable.replace
  rw [rows, List.map_append, List.map_congr_left kept, List.map_id', List.map_singleton,
    if_pos same.symm]

/-- A row that is closed by a copy is replaced by the closed row. -/
theorem ClosedBy.eq_replace {copy closed : TaskRow} (numbered : t.Numbered)
    (by_ : t.ClosedBy t' copy closed) : t' = t.replace closed := by
  have added := by_.added
  cases move : by_.move with
  | stay =>
      rw [added_self] at added
      cases added
  | insert opened =>
      rw [numbered.added_insert, List.cons.injEq] at added
      exact (opened.not_isClosed (added.1 ▸ by_.final.2)).elim
  | @close row asked there closes =>
      have new : bumped asked ≠ row := by
        intro same
        have terminal : row.status.isTerminal = true := same ▸ closes.status
        rw [closes.pending] at terminal
        cases terminal
      rw [numbered.added_replace there (sameTask_bumped closes.same).id_eq new,
        List.cons.injEq] at added
      rw [added.1]

end TaskTable

/-! ## Entering a task -/

section Entering

variable {σ : Type} [EventStore σ] {t : Task} {c c' : Context} {e e' : Engine TaskTable σ}

theorem TaskTable.adds_stored {rows : List TaskRow} (table : TaskTable)
    (blank : ∀ row ∈ rows, row.extParams = none) :
    table.Adds ⟨table.rows ++ table.stored rows⟩ :=
  ⟨_, rfl, forall_mem_stored fun row member _ _ => blank row member⟩

theorem UserTask.adds_create (t : Task) (c : Context) (e : Engine TaskTable σ) :
    e.tasks.Adds (create t c e).engine.tasks := by
  unfold create
  cases part t with
  | error err => exact TaskTable.Adds.refl _
  | ok p =>
      dsimp only
      split
      · exact TaskTable.Adds.refl _
      · rw [insertRows_eq]
        dsimp only
        rw [(Engine.heard_notify _ TaskEvent.create _).tasks]
        refine e.tasks.adds_stored fun row member => ?_
        obtain ⟨approvers, -, rfl⟩ := List.mem_map.1 member
        rfl

theorem ServiceTask.adds_create (t : Task) (c : Context) (e : Engine TaskTable σ) :
    e.tasks.Adds (create t c e).engine.tasks := by
  unfold create
  cases check t with
  | error err => exact TaskTable.Adds.refl _
  | ok =>
      simp only [Engine.insertTask_eq]
      rw [(Engine.heard_notify _ TaskEvent.create _).tasks]
      refine ⟨_, rfl, fun row member => ?_⟩
      rw [List.mem_singleton.1 member]
      exact fun _ => rfl

theorem Processor.adds_create (p : Processor) (t : Task) (c : Context) (e : Engine TaskTable σ) :
    e.tasks.Adds (p.create t c e).engine.tasks := by
  cases p with
  | user => exact UserTask.adds_create t c e
  | service => exact ServiceTask.adds_create t c e

/-- Completing a service task that has just been entered closes the row that was stored for it. -/
theorem ServiceTask.adds_of_entered (sound : e.tasks.Sound) (none : c.action = none)
    (created : create t c e = ⟨.ok (), c', e'⟩) :
    e.tasks.Adds (complete c' e').engine.tasks := by
  have entered := Engine.worked_create .service t c e
  rw [Processor.create, created] at entered
  have sound' : e'.tasks.Sound := (entered.moves.grows sound).1
  obtain ⟨isService, row, context, name, pending, here, rows, own⟩ := entered_of_create created
  have ready := prepare_entered (c := c') c.newTasks e'.settings.systemOperator isService
    (by rw [context]; rfl) (by rw [context]; exact none) (by rw [context]; rfl) name pending
  obtain ⟨closed, -, -, by_⟩ := complete_of_prepared sound' ready rfl here pending
  have same : closed.id = row.id := by_.same.id_eq
  refine ⟨[closed], ?_, fun other member => ?_⟩
  · rw [by_.eq_replace sound'.numbered]
    exact sound.numbered.replace_last rows own same
  · rw [List.mem_singleton.1 member]
    exact by_.final.2.unnoted

end Entering

namespace Replay

variable {r : Replay}

theorem tasks_notifyProcess (r : Replay) (event : ProcessEvent) (c : Context) :
    (r.notifyProcess event c).2.engine.tasks = r.engine.tasks :=
  (Engine.heard_notify r.engine event c).tasks

theorem tasks_close (r : Replay) (status : ProcessStatus) (event : ProcessEvent) :
    (r.close status event).2.engine.tasks = r.engine.tasks :=
  (Engine.heard_notify r.engine event _).tasks

theorem adds_enter (sound : r.engine.tasks.Sound) (t : Task) :
    r.engine.tasks.Adds (r.enter t).2.engine.tasks := by
  have entered := Processor.adds_create (Processor.ofTask t) t
    { r.context with current := some t } r.engine
  unfold enter
  dsimp only
  cases kind : Processor.ofTask t with
  | user =>
      rw [kind] at entered
      rcases created : Processor.user.create t _ r.engine with ⟨err | ⟨⟩, c, e⟩
      · rw [created] at entered
        exact entered
      · rw [created] at entered
        exact entered
  | service =>
      rw [kind] at entered
      rcases created : Processor.service.create t _ r.engine with ⟨err | ⟨⟩, c, e⟩
      · rw [created] at entered
        exact entered
      · have completed : r.engine.tasks.Adds (Processor.service.complete c e).engine.tasks :=
          ServiceTask.adds_of_entered sound rfl created
        simp only [Processor.waits, Bool.false_eq_true, if_false]
        rcases done : Processor.service.complete c e with ⟨err | ok, c', e'⟩
        · rw [done] at completed
          dsimp only
          rw [tasks_notifyProcess]
          exact completed
        · rw [done] at completed
          exact completed

/-- Taking a name off the queue adds rows at most. -/
theorem adds_visit (sound : r.engine.tasks.Sound) (name : String) :
    r.engine.tasks.Adds (r.visit name).2.engine.tasks := by
  by_cases ends : name = ProcessDefinition.endName
  · rw [ends]
    exact .of_eq (ended_visit r).tasks
  · unfold visit
    rw [if_neg ends]
    split
    · exact TaskTable.Adds.refl _
    · exact adds_enter sound _

theorem adds_walk (fuel : Nat) (queue entered : List String) (sound : r.engine.tasks.Sound) :
    r.engine.tasks.Adds (walk fuel queue entered r).2.engine.tasks := by
  induction fuel generalizing queue entered r with
  | zero => cases queue <;> exact TaskTable.Adds.refl _
  | succ fuel ih =>
      cases queue with
      | nil => exact TaskTable.Adds.refl _
      | cons name rest =>
          have first := adds_visit sound name
          have later := sound_visit sound name
          unfold walk
          rcases visited : r.visit name with ⟨err | names, r'⟩
          · rw [visited] at first
            exact first
          · rw [visited] at first later
            exact first.trans (ih (rest ++ names) (entered ++ [name]) later)

theorem adds_advance (sound : r.engine.tasks.Sound) (names : List String) :
    r.engine.tasks.Adds (r.advance names).2.engine.tasks := by
  have walked := adds_walk (budget r.definition names) names [] sound
  unfold advance
  rcases answer : walk (budget r.definition names) names [] r with ⟨halt | entered, r'⟩
  · rw [answer] at walked
    exact walked
  · rw [answer] at walked
    exact walked

/-- Handing a task over adds one row at most. -/
theorem adds_transfer (r : Replay) (t : Task) (c : Context) (users : List String) :
    r.engine.tasks.Adds (r.transfer t c users).2.engine.tasks := by
  unfold transfer
  split
  · exact TaskTable.Adds.refl _
  · simp only [Engine.insertTask_eq]
    rw [(Engine.heard_notify _ TaskEvent.create _).tasks]
    refine ⟨_, rfl, fun row member => ?_⟩
    rw [List.mem_singleton.1 member]
    exact fun _ => rfl

theorem tasks_closeAfter (r : Replay) (taskId : Int) (status : ProcessStatus)
    (event : ProcessEvent) (word : String) :
    (r.closeAfter taskId status event word).2.engine.tasks = r.engine.tasks :=
  r.tasks_close status event

/-- What follows when an action has closed its row adds rows at most. -/
theorem adds_followUp (sound : r.engine.tasks.Sound) (t : Task) (c : Context) (taskId : Int)
    (spec : ActionSpec) : r.engine.tasks.Adds (r.followUp t c taskId spec).2.engine.tasks := by
  have goesOn : ∀ action, spec.action = action → action = .approve ∨ action = .complete →
      r.engine.tasks.Adds (r.followUp t c taskId spec).2.engine.tasks := by
    intro action same approves
    have kept := engine_next (Processor.ofTask t) t c r.engine
    unfold followUp
    rw [same]
    rcases approves with rfl | rfl
    all_goals
      dsimp only
      rcases answer : (Processor.ofTask t).next t c r.engine with ⟨err | ⟨_ | ⟨name, rest⟩⟩, e⟩
      · rw [answer] at kept
        exact .of_eq (congrArg Engine.tasks kept)
      · rw [answer] at kept
        exact .of_eq (congrArg Engine.tasks kept)
      · rw [answer] at kept
        cases kept
        exact adds_advance sound (name :: rest)
  cases action : spec.action with
  | approve => exact goesOn _ action (Or.inl rfl)
  | complete => exact goesOn _ action (Or.inr rfl)
  | transfer =>
      simp only [followUp, action]
      exact adds_transfer r t c spec.transferTo
  | reject =>
      simp only [followUp, action]
      exact .of_eq (tasks_closeAfter ..)
  | cancel =>
      simp only [followUp, action]
      exact .of_eq (tasks_closeAfter ..)
  | terminate =>
      simp only [followUp, action]
      exact .of_eq (tasks_closeAfter ..)
  | start =>
      simp only [followUp, action]
      exact TaskTable.Adds.refl _

theorem adds_dealWith (sound : r.engine.tasks.Sound) (t : Task) (spec : ActionSpec)
    (reply : Except WorkflowError Bool × Context) :
    r.engine.tasks.Adds (dealWith t spec reply r).2.engine.tasks := by
  unfold dealWith
  split
  · exact TaskTable.Adds.refl _
  · split
    · exact TaskTable.Adds.refl _
    · exact adds_followUp sound ..

end Replay

/-! ## Moments -/

namespace Moment

variable {m m' : Moment}

/-- A move adds rows at most, unless it takes the next action. -/
theorem adds_next (sound : m.table.Sound) (h : m.next = some m') (busy : m.phase ≠ .resting) :
    m.table.Adds m'.table := by
  match m, h with
  | ⟨r, .opening, actions⟩, h =>
      have kept := r.tasks_notifyProcess .create r.context
      rcases told : r.notifyProcess .create r.context with ⟨err | ⟨⟩, r'⟩
      · simp only [next, told] at h
        cases h
        rw [told] at kept
        exact .of_eq ((table_settle ..).trans kept)
      · simp only [next, told] at h
        cases h
        rw [told] at kept
        exact .of_eq kept
  | ⟨r, .walking step before [] entered, actions⟩, h =>
      cases h
      exact .of_eq (table_settle ..)
  | ⟨r, .walking step before (name :: rest) entered, actions⟩, h =>
      cases h
      obtain ⟨steps, same⟩ := visited_replay actions step before rest (entered ++ [name])
        (r.visit name)
      rw [Moment.table, Moment.table, same]
      exact Replay.adds_visit sound name
  | ⟨r, .resting, actions⟩, h => exact (busy rfl).elim
  | ⟨r, .following spec t c taskId, actions⟩, h =>
      cases followed_of_next h with
      | goesOn approves =>
          obtain ⟨steps, same⟩ := approved_replay r actions spec t c taskId
          rw [Moment.table, Moment.table, same]
          exact TaskTable.Adds.refl _
      | handsOver action =>
          rw [table_settle]
          exact Replay.adds_transfer r t c spec.transferTo
      | closes veto final terminal =>
          exact .of_eq ((table_settle ..).trans (r.tasks_close ..))
      | refuses action => exact .of_eq (table_settle ..)
  | ⟨r, .broken failure, actions⟩, h => cases h

/-- The first move of a step completes the task. -/
theorem table_applied (r : Replay) (actions : List ActionSpec) (spec : ActionSpec) (t : Task)
    (reply : Reply TaskTable EventLog Bool) :
    (applied r actions spec t reply).table = reply.engine.tasks := by
  obtain ⟨steps, same⟩ := applied_replay r actions spec t reply
  rw [table, same]

/-- What an action closes is not noted on as long as it waits, since it does not. -/
theorem unnoted_next {roles : ListenerSpec → ListenerSpec → Prop} (sound : m.table.Sound)
    (scripted : m.replay.Scripted roles) (h : m.next = some m')
    (unnoted : ∀ row ∈ m.table.rows, row.Unnoted) : ∀ row ∈ m'.table.rows, row.Unnoted := by
  by_cases resting : m.phase = .resting
  · obtain ⟨r, phase, actions⟩ := m
    cases resting
    cases actions with
    | nil => cases h
    | cons spec later =>
        rcases target : r.target spec with err | ⟨t, row⟩
        · simp only [next, target] at h
          cases h
          rw [table_settle]
          exact unnoted
        · simp only [next, target] at h
          cases h
          have targets := Replay.targets_of_target target
          rw [table_applied]
          rcases (Processor.ofTask t).complete_cases sound scripted.engine
            (scripted.actionContext targets.task spec row) rfl targets.member with
            ⟨_, -, kept⟩ | ⟨closed, by_, -, -⟩
          · rw [kept]
            exact unnoted
          · intro other member
            rcases TaskTable.mem_of_mem_later (t := r.engine.tasks) member with old | added
            · exact unnoted other old
            · rw [by_.added] at added
              rw [List.mem_singleton.1 added]
              exact by_.final.2.unnoted
  · exact (adds_next sound h resting).unnoted unnoted

/-- Nothing is ever noted on a row that waits. -/
theorem Leads.unnoted {roles : ListenerSpec → ListenerSpec → Prop} (leads : Leads m m')
    (orderly : m.Orderly) (scripted : m.replay.Scripted roles) (empty : m.table.rows = []) :
    ∀ row ∈ m'.table.rows, row.Unnoted := by
  induction leads with
  | refl => simp [empty]
  | tail on h ih =>
      exact unnoted_next (Leads.orderly on orderly).sound (Leads.scripted on orderly scripted) h ih

/-- What has been at rest and taken an action has fewer actions left. -/
theorem ne_actions_of_resting {r : Replay} {actions : List ActionSpec}
    (h : Moment.next ⟨r, .resting, actions⟩ = some m') : m'.actions ≠ actions := by
  cases actions with
  | nil => cases h
  | cons spec later =>
      rw [actions_of_resting h]
      exact (List.cons_ne_self spec later).symm

/-- As long as the next action has not been taken rows are added at most. -/
theorem Leads.adds_within (leads : Leads m m') (orderly : m.Orderly)
    (within : m'.actions = m.actions) : m.table.Adds m'.table := by
  induction leads with
  | refl => exact TaskTable.Adds.refl _
  | @tail middle last on h ih =>
      have back : middle.actions = m.actions := by
        refine (Leads.suffix on).eq_of_length_le ?_
        rw [← within]
        exact (suffix_next h).length_le
      refine (ih back).trans (adds_next (Leads.orderly on orderly).sound h ?_)
      intro resting
      obtain ⟨r, phase, actions⟩ := middle
      cases resting
      exact ne_actions_of_resting h (within.trans back.symm)

end Moment

end ApprovalFlow
