import ApprovalFlow.Proofs.Calls.Closing
import ApprovalFlow.Proofs.Tasks.Completion

/-!
# How often the engine's own tasks are done

The listeners of a service task's completion do its work, and its row is written when they are
through. Whether the row still waits is checked on the caller's copy before that. So every caller
whose copy waits has the work done, and the table only decides which of them writes the row.

* `Call.Serving`: what each stage of such a call has stored and notified of, and `Serving.advance`,
  that a step keeps it.
* `World.worked_once_iff`: the work is done once exactly when at most one call on the row gets past
  its checks and its listeners.
-/

namespace ApprovalFlow

/-! ## The checks -/

namespace ServiceTask

/-- A context that passes the checks of a completion. They read the task and the copy of the row
that the context has, and nothing else. -/
def Ready (c : Context) : Prop :=
  ∃ t row, c.current = some t ∧ t.typeName = Task.serviceType ∧ c.acted .service = some row ∧
    row.name = t.name ∧ row.status = .pending

theorem Prepared.isReady {t : Task} {a : ActionRequest} {c ready : Context}
    (prepared : Prepared t a c ready) : Ready c :=
  ⟨t, a.row, prepared.current, prepared.isService, prepared.acted, prepared.name, prepared.pending⟩

/-- The row that a completion acts upon is the copy that the task is completed by. -/
theorem acted_eq_some_iff {c : Context} {t : Task} {row : TaskRow} (current : c.current = some t) :
    c.acted .service = some row ↔ Copy t c row := by
  unfold Context.acted
  constructor
  · intro acted
    cases action : c.action with
    | some a =>
        rw [action] at acted
        cases acted
        exact .supplied action
    | none =>
        rw [action, current] at acted
        obtain ⟨named, before, after, rows, others⟩ := lastRow_eq_some_iff.1 acted
        exact .created action rows named others
  · intro copy
    cases copy with
    | supplied action => rw [action]
    | created none rows named others =>
        rw [none, current]
        exact lastRow_eq_some_iff.2 ⟨named, _, _, rows, others⟩

theorem ready_iff_poised {c : Context} : Ready c ↔ ∃ t row, Poised c t row := by
  constructor
  · rintro ⟨t, row, current, isService, acted, named, pending⟩
    exact ⟨t, row, current, Task.typeName_eq_serviceType_iff.1 isService,
      (acted_eq_some_iff current).1 acted, pending, named⟩
  · rintro ⟨t, row, poised⟩
    exact ⟨t, row, poised.current, Task.typeName_eq_serviceType_iff.2 poised.service,
      (acted_eq_some_iff poised.current).2 poised.copy, poised.named, poised.pending⟩

theorem prepare_eq_ok_iff (c : Context) (operator : String) :
    (prepare c operator).1 = .ok () ↔ Ready c := by
  rw [ready_iff_poised]
  constructor
  · intro passed
    by_contra unready
    obtain ⟨err, c', -, failed, -⟩ := prepare_of_not_poised unready operator
    rw [failed] at passed
    cases passed
  · rintro ⟨t, row, poised⟩
    rw [prepare_of_poised poised]

end ServiceTask

/-! ## Writing the row -/

/-- A writer who is refused has been overtaken: the row is closed. -/
theorem TaskTable.Sound.final_of_conflict {t t' : TaskTable} (sound : t.Sound)
    {copy row : TaskRow} {e : StoreError} (copied : t.Copied copy) (closes : copy.Closes row)
    (updated : t.update row = (.error e, t')) :
    ∃ stored, t.Final stored ∧ stored.id = copy.id := by
  obtain ⟨stored, member, before⟩ := copied
  refine ⟨stored, ⟨member, ?_⟩, before.sameTask.id_eq⟩
  rcases before with same | ⟨-, closed, -⟩
  · have there : ∃ old ∈ t.rows, old.id = row.id ∧ old.version = row.version :=
      ⟨stored, member, same ▸ closes.same.id_eq.symm, same ▸ closes.version.symm⟩
    have answer := sound.numbered.update_eq_ok_iff.2 ⟨there, rfl, rfl⟩
    rw [updated] at answer
    cases answer
  · exact closed

variable {σ : Type}

namespace ServiceTask

/-- What closing the row of an action comes to. -/
inductive Finished (status : TaskStatus) (a : ActionRequest) (e : Engine TaskTable σ) :
    Except WorkflowError TaskRow → Engine TaskTable σ → Prop
  /-- The row has been closed. -/
  | closes {row : TaskRow} {e' : Engine TaskTable σ} : row.id = a.row.id → row.status = status →
    e.tasks.ClosedBy e'.tasks a.row row → e'.trace = e.trace →
    Finished status a e (.ok row) e'
  /-- Somebody else has closed the row. -/
  | conflicts {row : TaskRow} {id : String} {expected actual : Int} : row.id = a.row.id →
    e.tasks.Final row →
    Finished status a e (.error (.store (.conflict "task" id expected actual))) e

theorem finished_of_finish {status : TaskStatus} (remark : Option String) {a : ActionRequest}
    {c : Context} {e : Engine TaskTable σ} (sound : e.tasks.Sound) (copied : e.tasks.Copied a.row)
    (pending : a.row.status = .pending) (action : c.action = some a)
    (terminal : status.isTerminal = true) :
    Finished status a e (finish status remark c e).result (finish status remark c e).engine := by
  have closes := closes_closedRow pending terminal e.settings.systemOperator remark e.now
  unfold finish
  rw [Context.request_eq_ok_iff.2 action]
  dsimp only
  rcases answer : e.tasks.update
    (closedRow a.row status e.settings.systemOperator remark e.now) with ⟨err | saved, t⟩
  · obtain ⟨rfl, id, expected, actual, rfl⟩ := sound.conflict copied closes answer
    obtain ⟨stored, final, same⟩ := sound.final_of_conflict copied closes answer
    simp only [Engine.updateTask, TaskStore.update, answer]
    exact .conflicts same final
  · obtain ⟨rfl, by_⟩ := sound.closedBy copied closes answer
    simp only [Engine.updateTask, TaskStore.update, answer]
    exact .closes by_.same.id_eq rfl by_ rfl

theorem current_finish {status : TaskStatus} {remark : Option String} {c : Context}
    {e : Engine TaskTable σ} : (finish status remark c e).context.current = c.current := by
  unfold finish
  split
  · rfl
  · split <;> rfl

end ServiceTask

/-! ## What a call has notified of -/

namespace Turn

/-- The events that some steps have dispatched, by family and name. -/
def told (turns : List (Turn σ)) : List (Family × String) :=
  (dispatches (observed turns)).map fun d => (d.family, d.event)

theorem told_concat (turns : List (Turn σ)) {e e' : Engine TaskTable σ} {more : List Observation}
    (trace : e'.trace = e.trace ++ more) :
    told (turns ++ [⟨e, e'⟩]) =
      told turns ++ (dispatches more).map fun d => (d.family, d.event) := by
  rw [told, observed_concat, trace, List.drop_left, dispatches_append, List.map_append, told]

theorem told_concat_silent (turns : List (Turn σ)) {e e' : Engine TaskTable σ}
    (trace : e'.trace = e.trace) : told (turns ++ [⟨e, e'⟩]) = told turns := by
  have same := told_concat turns (show e'.trace = e.trace ++ [] by rw [trace, List.append_nil])
  rw [same]
  exact List.append_nil _

theorem Quiet.told_eq_nil {turns : List (Turn σ)} (quiet : Quiet turns) : told turns = [] := by
  rw [told, quiet.observed_eq_nil]
  rfl

/-- A step that notifies of a task's event stores nothing and dispatches the event once. -/
theorem of_notify [EventStore σ] (turns : List (Turn σ)) {e e' : Engine TaskTable σ}
    {event : TaskEvent} {c : Context} {t : Task} {outcome : Except WorkflowError Unit}
    (current : c.current = some t) (notified : e.notify event c = (outcome, e')) :
    e'.tasks = e.tasks ∧ stored (turns ++ [⟨e, e'⟩]) = stored turns ∧
      told (turns ++ [⟨e, e'⟩]) = told turns ++ [(.task, event.name)] := by
  have heard := Engine.heard_notify e event c
  rw [notified] at heard
  obtain ⟨more, trace, events, -⟩ := heard.trace
  have kept := heard.tasks
  have once := Engine.announced_of_current current event
  refine ⟨kept, ?_, ?_⟩
  · rw [stored_concat, kept, TaskTable.added_self, List.append_nil]
  · rw [told_concat turns trace, events, once]
    rfl

end Turn

namespace Call

/-- The events that the call's own steps have dispatched, by family and name. -/
def told (call : Call σ) : List (Family × String) :=
  Turn.told call.turns

/-- A call that notifies of a failure, after it has written the row as failed or met somebody else's
closed row. -/
def Failing (table : TaskTable) (a : ActionRequest) (turns : List (Turn σ)) : Prop :=
  ∃ row, row.id = a.row.id ∧ table.Final row ∧
    (Turn.stored turns = [] ∨ row.status = .failed ∧ Turn.stored turns = [row])

/-- What a completion of a service task has stored and notified of at each of its stages. -/
inductive Serving (table : TaskTable) : Call σ → Prop
  | asked {c : Context} : (∀ row, c.acted .service = some row → table.Copied row) →
    Serving table (begun (.completing .service c))
  /-- It has not passed its checks. -/
  | refused {c₀ c : Context} {err : WorkflowError} {turns : List (Turn σ)} :
    ¬ ServiceTask.Ready c₀ → Turn.Quiet turns →
    Serving table ⟨.completing .service c₀, .done (.error err) c, turns⟩
  | working {t : Task} {a : ActionRequest} {c₀ ready : Context} {turns : List (Turn σ)} :
    ServiceTask.Prepared t a c₀ ready → table.Copied a.row → Turn.Quiet turns →
    Serving table ⟨.completing .service c₀, .working ready, turns⟩
  /-- Its listeners have answered. -/
  | recording {t : Task} {a : ActionRequest} {c₀ ready : Context}
    {outcome : Except WorkflowError Unit} {turns : List (Turn σ)} :
    ServiceTask.Prepared t a c₀ ready → table.Copied a.row → Turn.stored turns = [] →
    Turn.told turns = [(.task, TaskEvent.complete.name)] →
    Serving table ⟨.completing .service c₀, .recording outcome ready, turns⟩
  /-- They succeeded, and it has written the row. -/
  | completed {t : Task} {a : ActionRequest} {c₀ ready c : Context} {row : TaskRow}
    {turns : List (Turn σ)} :
    ServiceTask.Prepared t a c₀ ready → row.id = a.row.id → table.Final row →
    row.status = .completed → Turn.stored turns = [row] →
    Turn.told turns = [(.task, TaskEvent.complete.name)] →
    Serving table ⟨.completing .service c₀, .done (.ok ()) c, turns⟩
  /-- They succeeded, and somebody else has closed the row. -/
  | overtaken {t : Task} {a : ActionRequest} {c₀ ready c : Context} {row : TaskRow} {id : String}
    {expected actual : Int} {turns : List (Turn σ)} :
    ServiceTask.Prepared t a c₀ ready → row.id = a.row.id → table.Final row →
    Turn.stored turns = [] → Turn.told turns = [(.task, TaskEvent.complete.name)] →
    Serving table ⟨.completing .service c₀,
      .done (.error (.store (.conflict "task" id expected actual))) c, turns⟩
  /-- One of them failed. -/
  | excusing {t : Task} {a : ActionRequest} {c₀ ready c : Context} {err : WorkflowError}
    {turns : List (Turn σ)} :
    ServiceTask.Prepared t a c₀ ready → c.current = some t → Failing table a turns →
    Turn.told turns = [(.task, TaskEvent.complete.name)] →
    Serving table ⟨.completing .service c₀, .excusing err c, turns⟩
  /-- One of them failed, and that has been notified of. -/
  | excused {t : Task} {a : ActionRequest} {c₀ ready c : Context} {err : WorkflowError}
    {turns : List (Turn σ)} :
    ServiceTask.Prepared t a c₀ ready → Failing table a turns →
    Turn.told turns = [(.task, TaskEvent.complete.name), (.task, TaskEvent.fail.name)] →
    Serving table ⟨.completing .service c₀, .done (.error err) c, turns⟩

theorem Failing.mono {table table' : TaskTable} {a : ActionRequest} {turns : List (Turn σ)}
    (failing : Failing table a turns) (grows : table.Grows table') : Failing table' a turns := by
  obtain ⟨row, same, final, stored⟩ := failing
  exact ⟨row, same, final.mono grows, stored⟩

theorem Serving.mono {table table' : TaskTable} {call : Call σ} (serving : call.Serving table)
    (grows : table.Grows table') : call.Serving table' := by
  cases serving with
  | asked copied => exact .asked fun row acted => (copied row acted).mono grows
  | refused failed quiet => exact .refused failed quiet
  | working prepared copied quiet => exact .working prepared (copied.mono grows) quiet
  | recording prepared copied stored told =>
      exact .recording prepared (copied.mono grows) stored told
  | completed prepared same final status stored told =>
      exact .completed prepared same (final.mono grows) status stored told
  | overtaken prepared same final stored told =>
      exact .overtaken prepared same (final.mono grows) stored told
  | excusing prepared current failing told =>
      exact .excusing prepared current (failing.mono grows) told
  | excused prepared failing told => exact .excused prepared (failing.mono grows) told

/-- A call that is done does nothing more. -/
theorem Serving.rest {result : Except WorkflowError Unit} {entry : Stage} {c : Context}
    {turns : List (Turn σ)} {table : TaskTable} {e : Engine TaskTable σ}
    (serving : Serving table ⟨entry, .done result c, turns⟩) :
    (turned ⟨entry, .done result c, turns⟩ (.done result c) e e).Serving table := by
  have stored : Turn.stored (turns ++ [⟨e, e⟩]) = Turn.stored turns := by
    rw [Turn.stored_concat, TaskTable.added_self, List.append_nil]
  have told : Turn.told (turns ++ [⟨e, e⟩]) = Turn.told turns := Turn.told_concat_silent turns rfl
  cases serving with
  | refused failed quiet => exact .refused failed (quiet.concat e)
  | completed prepared same final status wrote notified =>
      exact .completed prepared same final status (stored.trans wrote) (told.trans notified)
  | overtaken prepared same final wrote notified =>
      exact .overtaken prepared same final (stored.trans wrote) (told.trans notified)
  | excused prepared failing notified =>
      refine .excused prepared ?_ (told.trans notified)
      rw [Failing, stored]
      exact failing

/-! ## One step -/

variable [EventStore σ] {e e' : Engine TaskTable σ} {stage : Stage}

/-- The checks of a completion. -/
theorem serving_of_completing {c : Context}
    (copied : ∀ row, c.acted .service = some row → e.tasks.Copied row)
    (h : (Stage.completing .service c).step e = (stage, e')) :
    ((begun (.completing .service c)).turned stage e e').Serving e'.tasks := by
  have checks := ServiceTask.prepare_eq_ok_iff c e.settings.systemOperator
  rcases prepared : ServiceTask.prepare c e.settings.systemOperator with ⟨err | ⟨⟩, ready⟩
  · simp only [Stage.step, prepared] at h
    cases h
    rw [prepared] at checks
    refine .refused (fun passes => ?_) (Turn.quiet_nil.concat e)
    cases checks.2 passes
  · simp only [Stage.step, prepared] at h
    cases h
    obtain ⟨t, a, checked⟩ := ServiceTask.prepared_of_prepare prepared
    exact .working checked (copied a.row checked.acted) (Turn.quiet_nil.concat e)

/-- The listeners are notified of the completion. -/
theorem serving_of_working {t : Task} {a : ActionRequest} {c₀ ready : Context}
    {turns : List (Turn σ)} (prepared : ServiceTask.Prepared t a c₀ ready)
    (copied : e.tasks.Copied a.row) (quiet : Turn.Quiet turns)
    (h : (Stage.working ready).step e = (stage, e')) :
    (turned ⟨.completing .service c₀, .working ready, turns⟩ stage e e').Serving e'.tasks := by
  have current : ready.current = some t := by
    rw [prepared.ready]
    exact prepared.current
  rcases notified : e.notify TaskEvent.complete ready with ⟨outcome, e''⟩
  simp only [Stage.step, notified] at h
  cases h
  obtain ⟨kept, stored, told⟩ := Turn.of_notify turns current notified
  rw [quiet.stored_eq_nil] at stored
  rw [quiet.told_eq_nil] at told
  exact .recording prepared (kept ▸ copied) stored told

/-- The row is written, or somebody else has written it. -/
theorem serving_of_recording {t : Task} {a : ActionRequest} {c₀ ready : Context}
    {outcome : Except WorkflowError Unit} {turns : List (Turn σ)} (sound : e.tasks.Sound)
    (prepared : ServiceTask.Prepared t a c₀ ready) (copied : e.tasks.Copied a.row)
    (stored : Turn.stored turns = []) (told : Turn.told turns = [(.task, TaskEvent.complete.name)])
    (h : (Stage.recording outcome ready).step e = (stage, e')) :
    (turned ⟨.completing .service c₀, .recording outcome ready, turns⟩ stage e e').Serving
      e'.tasks := by
  have action : ready.action = some a := by rw [prepared.ready]
  have current : ready.current = some t := by
    rw [prepared.ready]
    exact prepared.current
  cases outcome with
  | ok =>
      have finished := @ServiceTask.finished_of_finish σ .completed none a ready e sound copied
        prepared.pending action rfl
      simp only [Stage.step] at h
      rcases closed : ServiceTask.finish .completed none ready e with ⟨result, c, e''⟩
      rw [closed] at h finished
      cases h
      cases finished with
      | closes same status by_ trace =>
          refine .completed prepared same by_.final status ?_ ?_
          · rw [Turn.stored_concat, stored, by_.added]
            rfl
          · rw [Turn.told_concat_silent turns trace, told]
      | conflicts same final =>
          refine .overtaken prepared same final ?_ ?_
          · rw [Turn.stored_concat, stored, TaskTable.added_self]
            rfl
          · rw [Turn.told_concat_silent turns rfl, told]
  | error err =>
      have finished := @ServiceTask.finished_of_finish σ .failed (some err.message) a ready e sound
        copied prepared.pending action rfl
      have still : (ServiceTask.finish .failed (some err.message) ready e).context.current =
          some t := ServiceTask.current_finish.trans current
      simp only [Stage.step] at h
      rcases closed : ServiceTask.finish .failed (some err.message) ready e with ⟨result, c, e''⟩
      rw [closed] at h finished still
      cases h
      cases finished with
      | closes same status by_ trace =>
          refine .excusing prepared still ⟨_, same, by_.final, Or.inr ⟨status, ?_⟩⟩ ?_
          · rw [Turn.stored_concat, stored, by_.added]
            rfl
          · rw [Turn.told_concat_silent turns trace, told]
      | conflicts same final =>
          refine .excusing prepared still ⟨_, same, final, Or.inl ?_⟩ ?_
          · rw [Turn.stored_concat, stored, TaskTable.added_self]
            rfl
          · rw [Turn.told_concat_silent turns rfl, told]

/-- The listeners are notified of the failure. -/
theorem serving_of_excusing {t : Task} {a : ActionRequest} {c₀ ready c : Context}
    {err : WorkflowError} {turns : List (Turn σ)} (prepared : ServiceTask.Prepared t a c₀ ready)
    (current : c.current = some t) (failing : Failing e.tasks a turns)
    (told : Turn.told turns = [(.task, TaskEvent.complete.name)])
    (h : (Stage.excusing err c).step e = (stage, e')) :
    (turned ⟨.completing .service c₀, .excusing err c, turns⟩ stage e e').Serving e'.tasks := by
  rcases notified : e.notify TaskEvent.fail c with ⟨outcome, e''⟩
  simp only [Stage.step, notified] at h
  cases h
  obtain ⟨kept, stored, both⟩ := Turn.of_notify turns current notified
  rw [told] at both
  refine .excused prepared ?_ both
  rw [kept, Failing, stored]
  exact failing

/-- A step keeps what is known of a service task's completion. -/
theorem Serving.advance {call : Call σ} (serving : call.Serving e.tasks) (sound : e.tasks.Sound)
    (h : call.stage.step e = (stage, e')) : (call.turned stage e e').Serving e'.tasks := by
  cases serving with
  | asked copied => exact serving_of_completing copied h
  | working prepared copied quiet => exact serving_of_working prepared copied quiet h
  | recording prepared copied stored told =>
      exact serving_of_recording sound prepared copied stored told h
  | excusing prepared current failing told =>
      exact serving_of_excusing prepared current failing told h
  | refused failed quiet =>
      cases h
      exact (Serving.refused failed quiet).rest
  | completed prepared same final status stored told =>
      cases h
      exact (Serving.completed prepared same final status stored told).rest
  | overtaken prepared same final stored told =>
      cases h
      exact (Serving.overtaken prepared same final stored told).rest
  | excused prepared failing told =>
      cases h
      exact (Serving.excused prepared failing told).rest

end Call

/-! ## Calls on one row -/

namespace Stage

/-- A completion that has notified its listeners, or has ended. -/
def IsPastWork : Stage → Prop
  | recording .. | excusing .. | done .. => True
  | _ => False

/-- A completion that has tried to write its row, or has ended. -/
def IsPastWriting : Stage → Prop
  | excusing .. | done .. => True
  | _ => False

end Stage

namespace Call

/-- The call completes a service task by a copy of a row. -/
def Serves (call : Call σ) (row : TaskRow) : Prop :=
  ∃ c copy, call.entry = .completing .service c ∧ c.acted .service = some copy ∧ copy.id = row.id

/-- The call completes a service task by a copy that waits, and has notified its listeners. -/
def Works (call : Call σ) (row : TaskRow) : Prop :=
  call.Serves row ∧ (∃ c, call.entry = .completing .service c ∧ ServiceTask.Ready c) ∧
    call.stage.IsPastWork

/-- The call completes a service task by a copy that waits, and has tried to write the row but not
written it. -/
def IsOvertaken (call : Call σ) (row : TaskRow) : Prop :=
  call.Serves row ∧ (∃ c, call.entry = .completing .service c ∧ ServiceTask.Ready c) ∧
    call.stage.IsPastWriting ∧ call.stored = []

theorem IsOvertaken.works {call : Call σ} {row : TaskRow} (lost : call.IsOvertaken row) :
    call.Works row := by
  obtain ⟨serves, passes, past, -⟩ := lost
  refine ⟨serves, passes, ?_⟩
  unfold Stage.IsPastWriting at past
  split at past
  · rename_i stage
    rw [stage]
    trivial
  · rename_i stage
    rw [stage]
    trivial
  · exact past.elim

variable {table : TaskTable} {call : Call σ} {row : TaskRow}

/-- A call is through with its listeners and has notified of the completion, or it has stored
nothing and notified of nothing. -/
theorem Serving.works_or_silent (serving : call.Serving table) (serves : call.Serves row) :
    call.Works row ∧ (.task, TaskEvent.complete.name) ∈ call.told ∨
      ¬ call.Works row ∧ call.stored = [] ∧ call.told = [] := by
  have works : ∀ {c₀ : Context}, call.entry = .completing .service c₀ → ServiceTask.Ready c₀ →
      call.stage.IsPastWork → call.Works row :=
    fun entry passes past => ⟨serves, ⟨_, entry, passes⟩, past⟩
  unfold stored told
  cases serving with
  | asked => exact Or.inr ⟨fun early => early.2.2, rfl, rfl⟩
  | refused failed quiet =>
      refine Or.inr ⟨?_, quiet.stored_eq_nil, quiet.told_eq_nil⟩
      rintro ⟨-, ⟨c, entry, passes⟩, -⟩
      cases entry
      exact failed passes
  | working prepared copied quiet =>
      exact Or.inr ⟨fun early => early.2.2, quiet.stored_eq_nil, quiet.told_eq_nil⟩
  | recording prepared copied stored told =>
      exact Or.inl ⟨works rfl prepared.isReady trivial, by simp [told]⟩
  | completed prepared same final status stored told =>
      exact Or.inl ⟨works rfl prepared.isReady trivial, by simp [told]⟩
  | overtaken prepared same final stored told =>
      exact Or.inl ⟨works rfl prepared.isReady trivial, by simp [told]⟩
  | excusing prepared current failing told =>
      exact Or.inl ⟨works rfl prepared.isReady trivial, by simp [told]⟩
  | excused prepared failing told =>
      exact Or.inl ⟨works rfl prepared.isReady trivial, by simp [told]⟩

theorem Serving.told_iff (serving : call.Serving table) (serves : call.Serves row) :
    (.task, TaskEvent.complete.name) ∈ call.told ↔ call.Works row := by
  rcases serving.works_or_silent serves with ⟨works, told⟩ | ⟨idle, -, none⟩
  · exact iff_of_true told works
  · rw [none]
    exact iff_of_false List.not_mem_nil idle

theorem Serving.works_of_stored (serving : call.Serving table) (serves : call.Serves row)
    {other : TaskRow} (member : other ∈ call.stored) : call.Works row := by
  rcases serving.works_or_silent serves with ⟨works, -⟩ | ⟨-, none, -⟩
  · exact works
  · rw [none] at member
    cases member

/-- A call that has not come to write the row has met a closed one. -/
theorem Serving.isClosed_of_isOvertaken (serving : call.Serving table) (sound : table.Sound)
    (member : row ∈ table.rows) (lost : call.IsOvertaken row) : row.IsClosed := by
  obtain ⟨⟨c, copy, entry, acted, same⟩, ⟨c', entry', passes⟩, past, nothing⟩ := lost
  -- The closed row that the call met is the row that its copy is of.
  have closes : ∀ {t : Task} {a : ActionRequest} {ready : Context} {closed : TaskRow},
      ServiceTask.Prepared t a c ready → closed.id = a.row.id → table.Final closed →
      row.IsClosed := by
    intro t a ready closed prepared id final
    rw [prepared.acted] at acted
    cases acted
    rw [← sound.numbered.eq_of_id_eq final.1 member (id.trans same)]
    exact final.2
  cases serving with
  | asked => exact past.elim
  | refused failed quiet =>
      cases entry'
      exact (failed passes).elim
  | working => exact past.elim
  | recording => exact past.elim
  | completed prepared id final status stored told =>
      cases entry
      exact closes prepared id final
  | overtaken prepared id final stored told =>
      cases entry
      exact closes prepared id final
  | excusing prepared current failing told =>
      cases entry
      obtain ⟨closed, id, final, -⟩ := failing
      exact closes prepared id final
  | excused prepared failing told =>
      cases entry
      obtain ⟨closed, id, final, -⟩ := failing
      exact closes prepared id final

/-- The row of a service task is closed by completions of service tasks only. -/
theorem Lawful.serves_of_stored {d : ProcessDefinition} (lawful : call.Lawful d.Has table)
    (sound : table.Sound) (member : row ∈ table.rows) (known : row.Known d.Has)
    (service : row.taskType = Task.serviceType) (completes : call.acted.isSome) {closed : TaskRow}
    (stored : closed ∈ call.stored) (same : closed.id = row.id) :
    call.Serves row ∧ ∃ c, call.entry = .completing .service c := by
  obtain ⟨final, closes⟩ := lawful.closes_of_stored completes stored
  have one : closed = row := sound.numbered.eq_of_id_eq final.1 member same
  cases closes with
  | planned entry isKnown planned wrote =>
      -- The action closes a row of its own task's name, and the name settles the type.
      have sameTask := TaskTable.sameTask_bumped planned.closes.same
      rw [← wrote, one] at sameTask
      obtain ⟨t', isKnown', name, taskType⟩ := known
      have named := name.trans (sameTask.name_eq.trans planned.name)
      rw [isKnown'.eq_of_name_eq isKnown named, planned.isUser, service] at taskType
      simp [Task.serviceType, Task.userType] at taskType
  | served entry isKnown prepared served =>
      exact ⟨⟨_, _, entry, prepared.acted, served.id.symm.trans same⟩, _, entry⟩

end Call

/-! ## Worlds -/

namespace World

variable [EventStore σ] {known : Task → Prop} {w : World σ}

/-- In every world that can be reached each completion of a service task has stored and notified of
what belongs to its stage. -/
theorem Reachable.serving (reached : w.Reachable known) : ∀ call ∈ w.calls,
    (∃ c, call.entry = .completing .service c) → call.Serving w.engine.tasks := by
  obtain ⟨e, start, later⟩ := reached
  induction later with
  | refl => simp
  | @tail middle last before step ih =>
      have sound := Reachable.sound ⟨e, start, before⟩
      have grows := (step.sound sound).2
      have old : ∀ call ∈ middle.calls, (∃ c, call.entry = .completing .service c) →
          call.Serving last.engine.tasks :=
        fun call member service => (ih call member service).mono grows
      cases step with
      | begin asked =>
          rintro call member ⟨c, entry⟩
          rcases List.mem_append.1 member with there | new
          · exact old call there ⟨c, entry⟩
          · rw [List.mem_singleton.1 new] at entry ⊢
            cases entry
            cases asked with
            | complete isKnown copied =>
                exact .asked fun row acted => sound.copies row (copied row acted)
      | @proceed i mover found =>
          rintro call member ⟨c, entry⟩
          rcases h : mover.stage.step middle.engine with ⟨stage, e'⟩
          have engine : (middle.proceed i mover).engine = e' := by simp only [World.proceed, h]
          obtain ⟨j, place⟩ := List.mem_iff_getElem?.1 member
          rw [getElem?_proceed found h] at place
          split at place
          · cases place
            rw [engine]
            exact (ih mover (List.mem_of_getElem? found) ⟨c, entry⟩).advance sound.table h
          · exact old call (List.mem_of_getElem? place) ⟨c, entry⟩
      | meanwhile same => exact old

/-- The work of a service task's row has been done once: no two calls have notified of its
completion, and a call that was overtaken has run no listener of the completion and has not notified
of a failure if the row is completed. -/
structure WorkedOnce (w : World σ) (row : TaskRow) : Prop where
  once : ∀ (i j : Nat) (call other : Call σ), w.calls[i]? = some call →
    w.calls[j]? = some other → call.Serves row → other.Serves row →
    (.task, TaskEvent.complete.name) ∈ call.told → (.task, TaskEvent.complete.name) ∈ other.told →
    i = j
  overtaken : ∀ call ∈ w.calls, call.IsOvertaken row →
    (∀ listener isAsync s,
      Observation.ran .task TaskEvent.complete.name listener isAsync s ∉ call.observed) ∧
    (row.status = .completed → (.task, TaskEvent.fail.name) ∉ call.told)

omit [EventStore σ] in
/-- Nobody is overtaken who alone is through with the listeners: somebody else has closed the row,
and was through with them before. -/
theorem Sound.exists_other {d : ProcessDefinition} (sound : w.Sound d.Has)
    (serving : ∀ call ∈ w.calls, (∃ c, call.entry = .completing .service c) →
      call.Serving w.engine.tasks)
    {row : TaskRow} (member : row ∈ w.rows) (service : row.taskType = Task.serviceType) {i : Nat}
    {call : Call σ} (found : w.calls[i]? = some call) (lost : call.IsOvertaken row) :
    ∃ j other, i ≠ j ∧ w.calls[j]? = some other ∧ other.Works row := by
  obtain ⟨c, -, entry, -⟩ := lost.1
  have closed := (serving call (List.mem_of_getElem? found) ⟨c, entry⟩).isClosed_of_isOvertaken
    sound.table member lost
  obtain ⟨j, other, place, completes, stored, wrote, same⟩ := sound.wrote row member closed
  have there := List.mem_of_getElem? place
  obtain ⟨serves, isService⟩ := (sound.calls other there).serves_of_stored sound.table member
    (sound.named row member) service completes wrote same
  refine ⟨j, other, ?_, place, (serving other there isService).works_of_stored serves wrote⟩
  rintro rfl
  rw [found] at place
  cases place
  rw [lost.2.2.2] at wrote
  cases wrote

/-- In every world that can be reached, of the calls that complete a service task by a copy of one
row: at each of its stages a call has stored and notified of what belongs to it; it notifies of the
completion exactly if its copy waits, whatever has become of the row since the copy was taken; and
so the work is done once exactly when at most one of them comes through with a copy that waits. -/
theorem worked_once_iff (d : ProcessDefinition) (reached : w.Reachable d.Has) {row : TaskRow}
    (member : row ∈ w.rows) (service : row.taskType = Task.serviceType) :
    (∀ call ∈ w.calls, call.Serves row → call.Serving w.engine.tasks ∧
      ((.task, TaskEvent.complete.name) ∈ call.told ↔ call.Works row)) ∧
    (w.WorkedOnce row ↔ ∀ (i j : Nat) (call other : Call σ), w.calls[i]? = some call →
      w.calls[j]? = some other → call.Works row → other.Works row → i = j) := by
  have sound := reached.sound
  have serving := reached.serving
  have stands : ∀ call ∈ w.calls, call.Serves row → call.Serving w.engine.tasks ∧
      ((.task, TaskEvent.complete.name) ∈ call.told ↔ call.Works row) := by
    intro call made serves
    obtain ⟨c, -, entry, -⟩ := id serves
    have at_ := serving call made ⟨c, entry⟩
    exact ⟨at_, at_.told_iff serves⟩
  refine ⟨stands, ?_, ?_⟩
  · intro worked i j call other found found' works works'
    have told := (stands call (List.mem_of_getElem? found) works.1).2.2 works
    have told' := (stands other (List.mem_of_getElem? found') works'.1).2.2 works'
    exact worked.once i j call other found found' works.1 works'.1 told told'
  · intro alone
    refine ⟨?_, ?_⟩
    · intro i j call other found found' serves serves' told told'
      have works := (stands call (List.mem_of_getElem? found) serves).2.1 told
      have works' := (stands other (List.mem_of_getElem? found') serves').2.1 told'
      exact alone i j call other found found' works works'
    · intro call made lost
      obtain ⟨i, found⟩ := List.mem_iff_getElem?.1 made
      obtain ⟨j, other, apart, place, works⟩ :=
        sound.exists_other serving member service found lost
      exact (apart (alone i j call other found place lost.works works)).elim

end World

/-! ## A task that two callers complete -/

namespace Rollout

/-- A task whose work is one listener. -/
def deploy : Task where
  name := "deploy"
  displayName := "Deploy"
  kind := .service ⟨[.initMq], []⟩
  listeners := Registry.empty.add ⟨"create_topic", .complete, false, fun _ => .success⟩
  next := [ProcessDefinition.endName]

/-- A process of that task alone. -/
def definition : ProcessDefinition :=
  { ProcessDefinition.named "P" "P" with tasks := [deploy], start := ["deploy"] }

/-- A context of the process. -/
def context : Context :=
  .base definition (.opened 1 "P" "carol" default) none

/-- The world before any step of the call that enters the task. -/
def opening : World EventLog where
  engine := .new ⟨.empty, .empty, "system"⟩ 1 none .empty .empty .empty default
  copies := []
  calls := [.begun (.entering .service deploy context)]

/-- The task is entered. -/
def entered : World EventLog :=
  opening.schedule [0, 0, 0, 0]

/-- The completion by somebody who has a copy of the row. -/
def completion (copy : TaskRow) : Stage :=
  .completing .service { context with
    current := some deploy
    action := some ⟨.complete, "admin", none, none, [], copy⟩ }

/-- The copy that is handed out when the task is entered. -/
def waitingCopy : TaskRow :=
  entered.copies.headD default

/-- One completion has been made. -/
def completedOnce : World EventLog :=
  { entered with calls := entered.calls ++ [Call.begun (completion waitingCopy)] }.schedule
    [1, 1, 1]

/-- A copy that is handed out after that. -/
def closedCopy : TaskRow :=
  (completedOnce.copies.find? (·.status == .completed)).getD default

/-- Another completion is made by a copy. -/
def completedAgain (copy : TaskRow) : World EventLog :=
  { completedOnce with calls := completedOnce.calls ++ [Call.begun (completion copy)] }.schedule
    [2, 2, 2]

theorem has_deploy : definition.Has deploy := by
  rfl

theorem asked_completion {w : World EventLog} {copy : TaskRow} (member : copy ∈ w.copies) :
    (completion copy).Asked definition.Has (· ∈ w.copies) := by
  refine .complete ?_ ?_
  · rintro t ⟨⟩
    exact has_deploy
  · rintro row ⟨⟩
    exact member

theorem completedOnce_reachable : completedOnce.Reachable definition.Has := by
  have start : opening.Reachable definition.Has :=
    ⟨opening.engine, rfl, Relation.ReflTransGen.single (.begin (.enter has_deploy))⟩
  have first := start.schedules [0, 0, 0, 0]
  have there : waitingCopy ∈ entered.copies := by decide +kernel
  exact (first.begins (asked_completion there)).schedules [1, 1, 1]

theorem completedAgain_reachable {copy : TaskRow} (member : copy ∈ completedOnce.copies) :
    (completedAgain copy).Reachable definition.Has := by
  have again := completedOnce_reachable.begins (asked_completion member)
  exact again.schedules [2, 2, 2]

theorem entry_completedAgain (copy : TaskRow) :
    (completedAgain copy).calls[1]?.map Call.entry = some (completion waitingCopy) ∧
      (completedAgain copy).calls[2]?.map Call.entry = some (completion copy) := by
  have one : entered.calls.length = 1 := by decide +kernel
  have two : completedOnce.calls.length = 2 := by decide +kernel
  have first : completedOnce.calls[1]?.map Call.entry = some (completion waitingCopy) := by
    rw [completedOnce, World.entry_schedule]
    dsimp only
    rw [List.getElem?_append_right (Nat.le_of_eq one), one]
    rfl
  constructor
  · rw [completedAgain, World.entry_schedule]
    dsimp only
    rw [List.getElem?_append_left (by omega), first]
  · rw [completedAgain, World.entry_schedule]
    dsimp only
    rw [List.getElem?_append_right (Nat.le_of_eq two), two]
    rfl

theorem serves_of_entry {call : Call EventLog} {row copy : TaskRow}
    (entry : call.entry = completion copy) (same : copy.id = row.id) : call.Serves row :=
  ⟨_, copy, entry, rfl, same⟩

/-- Whoever has kept the copy that was handed out first has the work done again. -/
theorem waitingCopy_works_twice :
    ¬ ∀ (w : World EventLog) (row : TaskRow), w.Reachable definition.Has → row ∈ w.rows →
      row.taskType = Task.serviceType → w.WorkedOnce row := by
  intro once
  have shape : (completedAgain waitingCopy).rows.map (fun row => (row.id, row.taskType)) =
      [(1, Task.serviceType)] := by decide +kernel
  have copied : waitingCopy ∈ completedOnce.copies ∧ waitingCopy.id = 1 := by decide +kernel
  have told : ∀ i ∈ [1, 2], (completedAgain waitingCopy).calls[i]?.map Call.told =
      some [(.task, TaskEvent.complete.name)] := by decide +kernel
  obtain ⟨row, rows_eq, shown⟩ := List.map_eq_singleton_iff.1 shape
  obtain ⟨id, service⟩ := Prod.mk.inj shown
  have member : row ∈ (completedAgain waitingCopy).rows := by simp [rows_eq]
  obtain ⟨first, found, entry⟩ := Option.map_eq_some_iff.1 (entry_completedAgain waitingCopy).1
  obtain ⟨last, found', entry'⟩ := Option.map_eq_some_iff.1 (entry_completedAgain waitingCopy).2
  have events := told 1 (by simp)
  have events' := told 2 (by simp)
  rw [found, Option.map_some, Option.some.injEq] at events
  rw [found', Option.map_some, Option.some.injEq] at events'
  have same := copied.2.trans id.symm
  have worked := once _ row (completedAgain_reachable copied.1) member service
  have one := worked.once 1 2 first last found found' (serves_of_entry entry same)
    (serves_of_entry entry' same) (by simp [events]) (by simp [events'])
  cases one

/-- With a copy that shows the completed row nothing is done again. -/
theorem closedCopy_works_once :
    ∃ row, (completedAgain closedCopy).rows = [row] ∧ row.status = .completed ∧
      (completedAgain closedCopy).WorkedOnce row := by
  have shape : (completedAgain closedCopy).rows.map (fun row => (row.taskType, row.status)) =
      [(Task.serviceType, .completed)] := by decide +kernel
  have copied : closedCopy ∈ completedOnce.copies ∧ closedCopy.status = .completed := by
    decide +kernel
  have length : (completedAgain closedCopy).calls.length = 3 := by decide +kernel
  obtain ⟨row, rows_eq, shown⟩ := List.map_eq_singleton_iff.1 shape
  obtain ⟨service, status⟩ := Prod.mk.inj shown
  have member : row ∈ (completedAgain closedCopy).rows := by simp [rows_eq]
  obtain ⟨-, alone⟩ := World.worked_once_iff definition (completedAgain_reachable copied.1) member
    service
  have entering : (completedAgain closedCopy).calls[0]?.map Call.entry =
      some (.entering .service deploy context) := by
    rw [completedAgain, World.entry_schedule]
    rfl
  have first : ∀ (i : Nat) call, (completedAgain closedCopy).calls[i]? = some call →
      call.Works row → i = 1 := by
    rintro i call found ⟨-, ⟨c, entry, t, copy, -, -, acted, -, pending⟩, -⟩
    have inside := (List.getElem?_eq_some_iff.1 found).1
    match i with
    | 0 =>
        rw [found, Option.map_some, Option.some.injEq, entry] at entering
        cases entering
    | 1 => rfl
    | 2 =>
        have same := (entry_completedAgain closedCopy).2
        rw [found, Option.map_some, Option.some.injEq, entry] at same
        cases same
        cases acted
        rw [copied.2] at pending
        cases pending
    | i + 3 => omega
  refine ⟨row, rows_eq, status, alone.2 ?_⟩
  intro i j call other found found' works works'
  rw [first i call found works, first j other found' works']

end Rollout

end ApprovalFlow
