import ApprovalFlow.Proofs.Audit.Notices
import ApprovalFlow.Proofs.Calls.Release
import ApprovalFlow.Proofs.Store.History

/-!
# The process of a completed row

A context names a process, a task and the copy of a row, each for itself, and a completion compares
the copy with the task, by name, but with nothing of the process. So the row that is closed is of
the process that the copy is of. What else a completion does is done for the process of its context:
the runs of its listeners are recorded there, and whoever asks what follows counts the rows that
wait there.

* `TaskTable.Settles`: the row of a copy is replaced by one that closes it.
* `Engine.RanFor`: the runs that are recorded, and those that are left to the pools, are of a
  process and about a row.
* `Processor.settles_row_of_copy`: a completion changes at most the row of its copy, and keeps to
  the process of its context exactly if the copy does.
-/

namespace ApprovalFlow

/-! ## The row that is closed -/

namespace TaskTable

/-- The row of a pending copy, whose version the stored row had, has been replaced by one that
closes it, and no other id finds another row. If the copy was ever handed out, it was the stored row
itself, and in its process and under its name, and nowhere else, one row fewer waits. -/
structure Settles (h : History) (t t' : TaskTable) (copy row : TaskRow) : Prop where
  closes : copy.Closes { row with version := copy.version }
  version : row.version = copy.version + 1
  was : ∃ stored, t.get? copy.id = some stored ∧ stored.version = copy.version
  now : t'.get? copy.id = some row
  elsewhere : ∀ id, id ≠ copy.id → t'.get? id = t.get? id
  own : copy ∈ h.saved → t.get? copy.id = some copy
  waiting : copy ∈ h.saved → ∀ processId name, t.count processId name .pending =
    t'.count processId name .pending +
      if copy.processId = processId ∧ copy.name = name then 1 else 0

/-- Whether a row is one of those that are counted. -/
def counts (processId : Int) (name : String) (status : TaskStatus) (row : TaskRow) : Bool :=
  row.processId == processId && row.name == name && row.status == status

theorem Numbered.count_replace {t : TaskTable} (numbered : t.Numbered) {stored row : TaskRow}
    (member : stored ∈ t.rows) (same : row.id = stored.id) (processId : Int) (name : String)
    (status : TaskStatus) :
    (t.replace row).count processId name status +
        (if counts processId name status stored then 1 else 0) =
      t.count processId name status + if counts processId name status row then 1 else 0 := by
  obtain ⟨before, after, split, replaced⟩ := numbered.split_replace member same
  change (t.replace row).rows.countP (counts processId name status) + _ =
    t.rows.countP (counts processId name status) + _
  rw [split, replaced]
  simp only [List.countP_append, List.countP_cons]
  omega

/-- A copy that has the version of the stored row is closed by storing a row that closes it. -/
theorem History.Reflected.settles {h : History} {t : TaskTable} (reflected : h.Reflected t)
    {copy row stored : TaskRow} (closes : copy.Closes row) (member : stored ∈ t.rows)
    (same : stored.id = row.id) (version : stored.version = row.version) :
    t.Settles h (t.replace (bumped row)) copy (bumped row) := by
  have numbered := reflected.numbered
  have found : t.get? copy.id = some stored :=
    numbered.get?_eq_some_iff.2 ⟨member, same.trans closes.same.id_eq⟩
  have agrees : stored.version = copy.version := version.trans closes.version
  have own : copy ∈ h.saved → copy = stored :=
    fun saved => reflected.eq_of_version saved found agrees
  have replaced := numbered.get?_replace (bumped row) member same
  refine ⟨?_, ?_, ⟨stored, found, agrees⟩, ?_, ?_, ?_, ?_⟩
  · rw [← closes.version]
    exact closes
  · exact congrArg (· + 1) closes.version
  · rw [replaced]
    exact if_pos closes.same.id_eq.symm
  · intro id other
    rw [replaced]
    exact if_neg fun clash => other (clash.trans closes.same.id_eq)
  · intro saved
    rw [found, own saved]
  · intro saved processId name
    have place : (bumped row).id = stored.id := same.symm
    have count := numbered.count_replace member place processId name .pending
    have done : counts processId name .pending (bumped row) = false := by
      have final : row.status ≠ .pending := by
        intro pending
        have terminal := closes.status
        rw [pending] at terminal
        cases terminal
      simp [counts, bumped, final]
    have open_ : counts processId name .pending stored = true ↔
        copy.processId = processId ∧ copy.name = name := by
      rw [← own saved]
      simp [counts, closes.pending]
    simp only [done, open_, Bool.false_eq_true, if_false] at count
    omega

end TaskTable

/-! ## The runs that are recorded -/

namespace Invocation

/-- However late the run is made, it is recorded as one of a process and about a row. -/
def IsFor (processId rowId : Int) (i : Invocation) : Prop :=
  ∀ now, (i.opening now).processId = processId ∧ (i.opening now).taskId = some rowId

theorem isFor_invocation {c : Context} {rowId : Int}
    (acts : c.action.map (·.row.id) = some rowId) (l : Listener TaskEvent) (element : Element)
    (isAsync : Bool) :
    (l.invocation element c.snapshot isAsync).IsFor c.process.id rowId :=
  fun _ => ⟨rfl, acts⟩

/-- A row that is brought up to date stays one of its process. -/
theorem closing_eq {row closed : EventRow} {now : Instant} {outcome : Outcome}
    (closes : closing row now outcome = some closed) :
    closed.processId = row.processId ∧ closed.taskId = row.taskId := by
  cases outcome with
  | success | refusal | failure =>
      cases closes
      exact ⟨rfl, rfl⟩
  | panic => cases closes

end Invocation

namespace Engine

/-- What the log and the queues have gained is of a process and about a row. -/
structure RanFor (processId rowId : Int) (e e' : Engine TaskTable EventLog) : Prop where
  logged : ∀ row ∈ e'.events.rows,
    row ∈ e.events.rows ∨ row.processId = processId ∧ row.taskId = some rowId
  queued : ∀ family, ∀ job ∈ (e'.pool family).queued,
    job ∈ (e.pool family).queued ∨ job.work.IsFor processId rowId

variable {processId rowId : Int} {e e' e'' : Engine TaskTable EventLog}

theorem RanFor.trans (left : RanFor processId rowId e e') (right : RanFor processId rowId e' e'') :
    RanFor processId rowId e e'' where
  logged _ member := (right.logged _ member).elim (left.logged _) Or.inr
  queued _ _ member := (right.queued _ _ member).elim (left.queued _ _) Or.inr

theorem ranFor_of_eq (events : e'.events = e.events) (pools : e'.pool = e.pool) :
    RanFor processId rowId e e' where
  logged _ member := Or.inl (events ▸ member)
  queued _ _ member := Or.inl (pools ▸ member)

theorem RanFor.refl (e : Engine TaskTable EventLog) : RanFor processId rowId e e :=
  ranFor_of_eq rfl rfl

theorem ranFor_withPool {family : Family} {p : Pool Invocation}
    (queued : ∀ job ∈ p.queued, job ∈ (e.pool family).queued ∨ job.work.IsFor processId rowId) :
    RanFor processId rowId e (e.withPool family p) where
  logged row member := Or.inl (Floor.events_withPool e family p ▸ member)
  queued other job member := by
    by_cases same : other = family
    · subst same
      rw [pool_withPool] at member
      exact queued job member
    · rw [pool_withPool_of_ne same] at member
      exact Or.inl member

/-- A run is recorded by two writes to the log, both of a row of its process. -/
theorem ranFor_run {i : Invocation} (own : i.IsFor processId rowId)
    (e : Engine TaskTable EventLog) : RanFor processId rowId e (e.run i).2 := by
  have begun : RanFor processId rowId e ((e.beginRecord i).2.note i.observation) := by
    refine ⟨?_, fun family job member => Or.inl ?_⟩
    · intro row member
      rcases List.mem_append.1 member with old | new
      · exact Or.inl old
      · rw [List.mem_singleton.1 new]
        exact Or.inr (own e.now)
    · cases family <;> exact member
  refine begun.trans ?_
  change RanFor _ _ _ (endRecord _ (e.events.fresh (i.opening e.now)) i.outcome)
  unfold endRecord
  cases closes : Invocation.closing _ _ i.outcome with
  | none => exact .refl _
  | some closed =>
      obtain ⟨process, about⟩ := Invocation.closing_eq closes
      refine ⟨?_, fun family job member => Or.inl ?_⟩
      · intro row member
        change row ∈ (EventLog.update _ closed).2.rows at member
        unfold EventLog.update at member
        split at member
        · obtain ⟨old, there, rfl⟩ := List.mem_map.1 member
          split
          · exact Or.inr ⟨process.trans (own e.now).1, about.trans (own e.now).2⟩
          · exact Or.inl there
        · exact Or.inl member
      · cases family <;> exact member

theorem ranFor_submit {i : Invocation} (own : i.IsFor processId rowId)
    (e : Engine TaskTable EventLog) : RanFor processId rowId e (e.submit i) := by
  have queued : RanFor processId rowId e
      (e.withPool i.family ((e.pool i.family).submit i)) := by
    refine ranFor_withPool fun job member => ?_
    unfold Pool.submit at member
    split at member
    · exact Or.inl member
    · rcases List.mem_append.1 member with old | new
      · exact Or.inl old
      · rw [List.mem_singleton.1 new]
        exact Or.inr own
  unfold submit
  dsimp only
  split
  · refine (queued.trans (ranFor_run own _)).trans (ranFor_withPool fun job member => Or.inl ?_)
    unfold Pool.finishOnCaller at member
    split at member <;> exact member
  · exact queued

theorem ranFor_perform {c : Context} {x : Effect} (made : x.For TaskEvent c)
    (acts : c.action.map (·.row.id) = some rowId) (e : Engine TaskTable EventLog) :
    RanFor c.process.id rowId e (e.perform x) := by
  cases made with
  | noted => exact ranFor_of_eq rfl (funext fun family => by cases family <;> rfl)
  | ran => exact ranFor_run (Invocation.isFor_invocation acts _ _ _) e
  | submitted => exact ranFor_submit (Invocation.isFor_invocation acts _ _ _) e

/-- All that a notification runs, or leaves to a pool, is recorded for the process of its context
and the row of the context's action. -/
theorem ranFor_notify {c : Context} (acts : c.action.map (·.row.id) = some rowId)
    (e : Engine TaskTable EventLog) (event : TaskEvent) :
    RanFor c.process.id rowId e (e.notify event c).2 := by
  have all : ∀ x ∈ (Script.ofEvent e.settings e.catalogue event c).effects, x.For TaskEvent c :=
    fun x member => Effect.for_ofEvent member
  rw [notify_eq_play, play]
  generalize (Script.ofEvent e.settings e.catalogue event c).effects = fx at all
  dsimp only
  induction fx generalizing e with
  | nil => exact .refl e
  | cons x rest ih =>
      have first := ranFor_perform (all x (List.mem_cons_self ..)) acts e
      exact first.trans (ih _ fun y member => all y (List.mem_cons_of_mem _ member))

/-- A row that closes a copy is refused, which changes nothing, or it takes the place of the copy's
row. -/
theorem updateTask_cases {h : TaskTable.History} (reflected : h.Reflected e.tasks)
    {copy row : TaskRow} (closes : copy.Closes row) :
    (∃ err, e.updateTask row = (.error err, e)) ∨
      e.updateTask row = (.ok (TaskTable.bumped row),
          { e with tasks := e.tasks.replace (TaskTable.bumped row) }) ∧
        e.tasks.Settles h (e.tasks.replace (TaskTable.bumped row)) copy
          (TaskTable.bumped row) := by
  simp only [updateTask, TaskStore.update]
  rcases reflected.numbered.update_cases row with
    ⟨-, answer⟩ | ⟨_, -, -, answer⟩ | ⟨stored, member, -, same, version, answer⟩
  · rw [answer]
    exact Or.inl ⟨_, rfl⟩
  · rw [answer]
    exact Or.inl ⟨_, rfl⟩
  · rw [answer]
    exact Or.inr ⟨rfl, reflected.settles closes member same version⟩

end Engine

/-! ## Completions -/

/-- A completion has replaced the row of the copy that its context acts on. The row is one of the
context's task, by its name; the runs of the listeners are recorded for the context's process. -/
structure Processor.Closes (p : Processor) (h : TaskTable.History) (c : Context)
    (e e' : Engine TaskTable EventLog) (t : Task) (copy row : TaskRow) : Prop where
  current : c.current = some t
  acted : c.acted p = some copy
  name : row.name = t.name
  settles : e.tasks.Settles h e'.tasks copy row
  ran : e.RanFor c.process.id copy.id e'

variable {h : TaskTable.History} {e : Engine TaskTable EventLog}

theorem UserTask.closes_of_complete (reflected : h.Reflected e.tasks) (c : Context) :
    (complete c e).context.process = c.process ∧
      ((complete c e).engine.tasks = e.tasks ∨
        ∃ t copy row, Processor.user.Closes h c e (complete c e).engine t copy row) := by
  unfold complete
  rcases checks : plan c e.now with err | ⟨event, row⟩
  · exact ⟨rfl, Or.inl rfl⟩
  obtain ⟨t, a, planned⟩ := planned_of_plan checks
  rcases Engine.updateTask_cases reflected planned.closes with ⟨err, refused⟩ | ⟨saved, settles⟩
  · dsimp only
    rw [refused]
    exact ⟨rfl, Or.inl rfl⟩
  dsimp only
  rw [saved]
  dsimp only
  have name : row.name = t.name := planned.closes.same.name_eq.trans planned.name
  have acts : (c.withRow (TaskTable.bumped row)).action.map (·.row.id) = some a.row.id := by
    unfold Context.withRow
    rw [planned.action]
    exact congrArg some planned.closes.same.id_eq
  have stored : e.RanFor c.process.id a.row.id
      { e with tasks := e.tasks.replace (TaskTable.bumped row) } := Engine.ranFor_of_eq rfl rfl
  have heard := Engine.heard_notify { e with tasks := e.tasks.replace (TaskTable.bumped row) } event
    (c.withRow (TaskTable.bumped row))
  have ran := stored.trans (Engine.ranFor_notify acts _ event)
  rcases notified : Engine.notify _ event _ with ⟨answer, e'⟩
  rw [notified] at heard ran
  have closes : Processor.user.Closes h c e e' t a.row (TaskTable.bumped row) := by
    refine ⟨planned.current, planned.acted, name, ?_, ran⟩
    rw [heard.tasks]
    exact settles
  cases answer with
  | error err => exact ⟨rfl, Or.inr ⟨t, a.row, _, closes⟩⟩
  | ok => exact ⟨rfl, Or.inr ⟨t, a.row, _, closes⟩⟩

/-- What writing the row of an action leaves: the log and the pools as they were, the context with
the action's row, and the table as it was or with the row closed. -/
structure ServiceTask.Wrote (h : TaskTable.History) (t : Task) (a : ActionRequest) (c : Context)
    (e : Engine TaskTable EventLog) (r : Reply TaskTable EventLog TaskRow) : Prop where
  process : r.context.process = c.process
  acts : r.context.action.map (·.row.id) = some a.row.id
  ran : e.RanFor c.process.id a.row.id r.engine
  tasks : r.engine.tasks = e.tasks ∨
    ∃ row, row.name = t.name ∧ e.tasks.Settles h r.engine.tasks a.row row

theorem ServiceTask.wrote_finish (reflected : h.Reflected e.tasks) {t : Task} {a : ActionRequest}
    {c ready : Context} (prepared : Prepared t a c ready) {status : TaskStatus}
    (terminal : status.isTerminal = true) (remark : Option String) :
    Wrote h t a c e (finish status remark ready e) := by
  have process : ready.process = c.process := by rw [prepared.ready]
  have action : ready.action = some a := by rw [prepared.ready]
  have closes := closes_closedRow prepared.pending terminal e.settings.systemOperator remark e.now
  unfold finish
  rw [Context.request_eq_ok_iff.2 action]
  dsimp only
  rcases Engine.updateTask_cases reflected closes with ⟨err, refused⟩ | ⟨saved, settles⟩
  · rw [refused]
    exact ⟨process, congrArg (Option.map _) action, .refl e, Or.inl rfl⟩
  · rw [saved]
    refine ⟨process, ?_, Engine.ranFor_of_eq rfl rfl, Or.inr ⟨_, ?_, settles⟩⟩
    · unfold Context.withRow
      rw [action]
      exact congrArg some closes.same.id_eq
    · exact closes.same.name_eq.trans prepared.name

theorem ServiceTask.closes_of_complete (reflected : h.Reflected e.tasks) (c : Context) :
    (complete c e).context.process = c.process ∧
      ((complete c e).engine.tasks = e.tasks ∨
        ∃ t copy row, Processor.service.Closes h c e (complete c e).engine t copy row) := by
  unfold complete
  rcases checks : prepare c e.settings.systemOperator with ⟨err | ⟨⟩, ready⟩
  · have same := process_prepare c e.settings.systemOperator
    rw [checks] at same
    exact ⟨same, Or.inl rfl⟩
  obtain ⟨t, a, prepared⟩ := prepared_of_prepare checks
  have process : ready.process = c.process := by rw [prepared.ready]
  have action : ready.action = some a := by rw [prepared.ready]
  have heard := Engine.heard_notify e TaskEvent.complete ready
  have told := Engine.ranFor_notify (congrArg (Option.map _) action) e TaskEvent.complete
  rw [process] at told
  dsimp only
  rcases notified : e.notify TaskEvent.complete ready with ⟨answer, e₁⟩
  rw [notified] at heard told
  rw [← heard.tasks] at reflected
  -- Whatever has become of the notification, the row is written next.
  have closes : ∀ {r : Reply TaskTable EventLog TaskRow} {e' : Engine TaskTable EventLog},
      Wrote h t a c e₁ r → e.RanFor c.process.id a.row.id e' → e'.tasks = r.engine.tasks →
      e'.tasks = e.tasks ∨ ∃ t copy row, Processor.service.Closes h c e e' t copy row := by
    intro r e' wrote ran same
    rw [← heard.tasks, same]
    rcases wrote.tasks with kept | ⟨row, name, settles⟩
    · exact Or.inl kept
    · refine Or.inr ⟨t, a.row, row, prepared.current, prepared.acted, name, ?_, ran⟩
      rw [← heard.tasks, same]
      exact settles
  cases answer with
  | ok =>
      have wrote := wrote_finish reflected prepared (show TaskStatus.completed.isTerminal from rfl)
        none
      dsimp only
      rcases finished : finish .completed none ready e₁ with ⟨_ | _, c', e'⟩ <;>
        rw [finished] at wrote
      · exact ⟨wrote.process, closes wrote (told.trans wrote.ran) rfl⟩
      · exact ⟨wrote.process, closes wrote (told.trans wrote.ran) rfl⟩
  | error err =>
      have wrote := wrote_finish reflected prepared (show TaskStatus.failed.isTerminal from rfl)
        (some err.message)
      dsimp only
      generalize finish .failed (some err.message) ready e₁ = closed at wrote
      have excused := Engine.ranFor_notify wrote.acts closed.engine TaskEvent.fail
      rw [wrote.process] at excused
      have ran := (told.trans wrote.ran).trans excused
      refine ⟨wrote.process, closes wrote ran ?_⟩
      exact (Engine.heard_notify closed.engine TaskEvent.fail closed.context).tasks

namespace Processor

/-- A completion keeps to its context: a row that it changes is of the context's process, and of its
task by its name. -/
def KeepsTo (p : Processor) (c : Context) (e : Engine TaskTable EventLog) : Prop :=
  ∀ id row, (p.complete c e).engine.tasks.get? id = some row → e.tasks.get? id ≠ some row →
    row.processId = c.process.id ∧ ∃ t, c.current = some t ∧ row.name = t.name

/-- What a closed row has to do with those who ask what follows. They count the rows that wait in
the process of the context; if the copy was ever handed out, there is one fewer than before exactly
if the row is of that process. -/
structure Counts (h : TaskTable.History) (c : Context) (e : Engine TaskTable EventLog)
    (r : Reply TaskTable EventLog Bool) (t : Task) (copy row : TaskRow) : Prop where
  asked : ∀ part, UserTask.part t = .ok part → part.needAll = true →
    UserTask.next t r.context r.engine =
      (.ok (if r.engine.tasks.count c.process.id t.name .pending > 0 then [] else t.next), r.engine)
  fewer : copy ∈ h.saved → e.tasks.count c.process.id t.name .pending =
    r.engine.tasks.count c.process.id t.name .pending +
      if row.processId = c.process.id then 1 else 0

variable {p : Processor} {c : Context}

theorem closes_of_complete (p : Processor) (reflected : h.Reflected e.tasks) (c : Context) :
    (p.complete c e).context.process = c.process ∧
      ((p.complete c e).engine.tasks = e.tasks ∨
        ∃ t copy row, p.Closes h c e (p.complete c e).engine t copy row) := by
  cases p with
  | user => exact UserTask.closes_of_complete reflected c
  | service => exact ServiceTask.closes_of_complete reflected c

section

variable {e' : Engine TaskTable EventLog} {t : Task} {copy row : TaskRow}

theorem Closes.processId_eq (closes : p.Closes h c e e' t copy row) :
    row.processId = copy.processId :=
  closes.settles.closes.same.processId_eq

theorem Closes.copy_name (closes : p.Closes h c e e' t copy row) : copy.name = t.name :=
  closes.settles.closes.same.name_eq.symm.trans closes.name

/-- The row has been changed: it has another version. -/
theorem Closes.changed (closes : p.Closes h c e e' t copy row) :
    e.tasks.get? copy.id ≠ some row := by
  intro same
  obtain ⟨stored, found, version⟩ := closes.settles.was
  rw [found, Option.some.injEq] at same
  have next := closes.settles.version
  rw [← same] at next
  omega

/-- Only the row of the copy has been changed. -/
theorem Closes.eq_of_changed (closes : p.Closes h c e e' t copy row) {id : Int} {other : TaskRow}
    (found : e'.tasks.get? id = some other) (changed : e.tasks.get? id ≠ some other) :
    other = row := by
  by_cases own : id = copy.id
  · rw [own, closes.settles.now] at found
    exact (Option.some.inj found).symm
  · rw [closes.settles.elsewhere id own] at found
    exact (changed found).elim

end

/-- A completion keeps to its context exactly if it changes nothing, or its copy is of the context's
process. -/
theorem keepsTo_iff (reflected : h.Reflected e.tasks) : p.KeepsTo c e ↔
    (p.complete c e).engine.tasks = e.tasks ∨
      ∃ copy, c.acted p = some copy ∧ copy.processId = c.process.id := by
  rcases (closes_of_complete p reflected c).2 with kept | ⟨t, copy, row, closes⟩
  · refine iff_of_true ?_ (Or.inl kept)
    intro id row found changed
    rw [kept] at found
    exact (changed found).elim
  · constructor
    · intro keeps
      have own := (keeps copy.id row closes.settles.now closes.changed).1
      exact Or.inr ⟨copy, closes.acted, closes.processId_eq.symm.trans own⟩
    · intro either id other found changed
      rw [closes.eq_of_changed found changed]
      refine ⟨closes.processId_eq.trans ?_, t, closes.current, closes.name⟩
      rcases either with kept | ⟨acted, acts, own⟩
      · have now := closes.settles.now
        rw [kept] at now
        exact (closes.changed now).elim
      · rw [closes.acted, Option.some.injEq] at acts
        rw [acts]
        exact own

/-- Whatever rows there are, and whatever the context: a completion changes at most the row of the
copy that its context acts on. That row is under the name of the context's task, and its process is
the copy's; the runs of the listeners are recorded, and the waiting rows are counted, for the process
of the context. So a completion keeps to its context exactly if it changes nothing or the copy is
of the context's process. -/
theorem settles_row_of_copy (writes : List TaskTable.Write) (start : Engine TaskTable EventLog)
    (p : Processor) (c : Context) :
    let h := (TaskTable.served writes).1
    let e := { start with tasks := (TaskTable.served writes).2 }
    let r := p.complete c e
    (p.KeepsTo c e ↔ r.engine.tasks = e.tasks ∨
      ∃ copy, c.acted p = some copy ∧ copy.processId = c.process.id) ∧
    (r.engine.tasks = e.tasks ∨ ∃ t copy row, p.Closes h c e r.engine t copy row ∧
      row.processId = copy.processId ∧ Counts h c e r t copy row) := by
  intro h e r
  have reflected : h.Reflected e.tasks := TaskTable.reflected_served writes
  obtain ⟨process, outcome⟩ := closes_of_complete p reflected c
  refine ⟨keepsTo_iff reflected, ?_⟩
  rcases outcome with kept | ⟨t, copy, row, closes⟩
  · exact Or.inl kept
  · refine Or.inr ⟨t, copy, row, closes, closes.processId_eq, ?_, ?_⟩
    · intro part isUser needAll
      rw [UserTask.next_eq isUser needAll, process]
    · intro saved
      have counted := closes.settles.waiting saved c.process.id t.name
      rw [counted]
      simp only [closes.copy_name, closes.processId_eq, and_true]
      rfl

end Processor

/-! ## A copy from another process -/

namespace Mixup

/-- A task that somebody has to approve, with a listener. -/
def review : Task where
  name := "review"
  displayName := "Review"
  kind := .user ⟨fun _ => ["alice"], false, none⟩
  listeners := Registry.empty.add ⟨"bell", .approve, false, fun _ => .success⟩
  next := [ProcessDefinition.endName]

/-- A task that the engine does, with a listener. -/
def deploy : Task where
  name := "deploy"
  displayName := "Deploy"
  kind := .service ⟨[.initMq], []⟩
  listeners := Registry.empty.add ⟨"create_topic", .complete, false, fun _ => .success⟩
  next := [ProcessDefinition.endName]

/-- A process of these tasks. -/
def definition : ProcessDefinition :=
  { ProcessDefinition.named "P" "P" with tasks := [review, deploy], start := ["review"] }

/-- An instance of the process. -/
def instance_ (id : Int) : ProcessRow :=
  .opened id "P" "carol" default

/-- Both tasks have been entered in two instances. -/
def writes : List TaskTable.Write :=
  [1, 2].flatMap fun id : Int =>
    [review, deploy].map fun t : Task =>
      .insert (.waiting t.typeName (instance_ id) t.name t.displayName "alice" default)

/-- The engine with the rows of both instances. -/
def engine : Engine TaskTable EventLog :=
  .new ⟨.empty, .empty, "system"⟩ 1 none .empty (TaskTable.served writes).2 .empty default

/-- A context of the first instance with the copy of a row. -/
def context (t : Task) (action : Action) (id : Int) : Context :=
  { Context.base definition (instance_ 1) none with
    current := some t
    action := some ⟨action, "alice", none, none, [], (engine.tasks.get? id).getD default⟩ }

/-- A completion that changes a row of another process does not keep to its context. -/
theorem not_keepsTo {p : Processor} {c : Context} (id : Int)
    (changed : ((p.complete c engine).engine.tasks.get? id).map (·.version) ≠
      (engine.tasks.get? id).map (·.version))
    (foreign : ∃ other, ((p.complete c engine).engine.tasks.get? id).map (·.processId) =
      some other ∧ other ≠ c.process.id) : ¬ p.KeepsTo c engine := by
  intro keeps
  obtain ⟨other, shown, apart⟩ := foreign
  obtain ⟨row, found, process⟩ := Option.map_eq_some_iff.1 shown
  have different : engine.tasks.get? id ≠ some row := by
    intro same
    rw [found, same] at changed
    exact changed rfl
  have own := (keeps id row found different).1
  exact apart (process.symm.trans own)

/-- Approving, and completing, for the first instance closes a row of the second one by its copy.
The listeners' runs are recorded as runs for the first instance, about a row of the second. -/
theorem foreign_rows_closed :
    let approval := Processor.user.complete (context review .approve 3) engine
    let completion := Processor.service.complete (context deploy .complete 4) engine
    ¬ Processor.user.KeepsTo (context review .approve 3) engine ∧
    ¬ Processor.service.KeepsTo (context deploy .complete 4) engine ∧
    approval.engine.tasks.rows.map (fun row => (row.id, row.processId, row.status)) =
      [(1, 1, .pending), (2, 1, .pending), (3, 2, .approved), (4, 2, .pending)] ∧
    approval.engine.events.rows.map (fun row => (row.processId, row.taskId)) = [(1, some 3)] ∧
    completion.engine.tasks.rows.map (fun row => (row.id, row.processId, row.status)) =
      [(1, 1, .pending), (2, 1, .pending), (3, 2, .pending), (4, 2, .completed)] ∧
    completion.engine.events.rows.map (fun row => (row.processId, row.taskId)) = [(1, some 4)] := by
  refine ⟨not_keepsTo 3 ?_ ⟨2, ?_, ?_⟩, not_keepsTo 4 ?_ ⟨2, ?_, ?_⟩, ?_⟩
  all_goals decide +kernel

end Mixup

end ApprovalFlow
