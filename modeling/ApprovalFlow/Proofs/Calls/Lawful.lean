import ApprovalFlow.Proofs.Calls.World

/-!
# What a call knows at each stage

`Call.Lawful` has a constructor for each stretch of a call's life and says what the call knows
there: of the row it acts on, of the rows it has stored and of what was observed. `Call.Advanced` is
what one step does to the table and to the call.

* `Call.Lawful.advance`: a step of a lawful call is a move of the table and leaves the call lawful.
-/

namespace ApprovalFlow

/-- The task event that goes with the state a row is in. -/
def TaskStatus.event : TaskStatus → TaskEvent
  | .pending => .create
  | .approved => .approve
  | .rejected => .reject
  | .canceled => .cancel
  | .transferred => .transfer
  | .terminated => .terminate
  | .completed => .complete
  | .failed => .fail

theorem Action.event_of_taskStatus {action : Action} {status : TaskStatus} {event : TaskEvent}
    (closes : action.taskStatus = some status) (follows : action.taskEvent = some event) :
    event = status.event := by
  cases action <;> cases closes <;> cases follows <;> rfl

/-- A row of a known task. -/
def TaskRow.Known (known : Task → Prop) (row : TaskRow) : Prop :=
  ∃ t, known t ∧ t.name = row.name ∧ t.typeName = row.taskType

theorem TaskRow.Known.of_sameTask {known : Task → Prop} {row later : TaskRow}
    (h : row.Known known) (same : row.SameTask later) : later.Known known := by
  obtain ⟨t, isKnown, name, taskType⟩ := h
  exact ⟨t, isKnown, name.trans same.name_eq.symm, taskType.trans same.taskType_eq.symm⟩

/-- One pass of exactly the event that goes with a row: it was dispatched once, and everything that
ran saw the same snapshot, which shows the row. -/
def TaskRow.Passed (row : TaskRow) (os : List Observation) : Prop :=
  ∃ s : Snapshot, s.action.map (·.row) = some row ∧
    dispatches os = [⟨.task, row.status.event.name, s⟩] ∧ ∀ o ∈ os, o.Shows .task s

/-- Why a completion is refused before it has done anything: a check fails, or somebody else has
written the row since the copy was taken. -/
inductive Refused : Processor → Context → WorkflowError → Prop
  | plan {c : Context} {now : Instant} {err : WorkflowError} :
    UserTask.plan c now = .error err → Refused .user c err
  | prepare {c : Context} {operator : String} {err : WorkflowError} :
    (ServiceTask.prepare c operator).1 = .error err → Refused .service c err
  | conflict {c : Context} {id : String} {expected actual : Int} :
    Refused .user c (.store (.conflict "task" id expected actual))

/-- A stage of a service task's completion after its checks. Until the row is written the context
has the action on it. -/
inductive Stage.Serves (a : ActionRequest) : Stage → Prop
  | working {c : Context} : c.action = some a → Serves a (.working c)
  | recording {outcome : Except WorkflowError Unit} {c : Context} : c.action = some a →
    Serves a (.recording outcome c)
  | excusing {err : WorkflowError} {c : Context} : Serves a (.excusing err c)
  | done {result : Except WorkflowError Unit} {c : Context} : Serves a (.done result c)

/-- A row that a service task's completion has stored. -/
structure TaskRow.ServedFor (a : ActionRequest) (table : TaskTable) (row : TaskRow) : Prop where
  id : row.id = a.row.id
  final : table.Final row
  status : row.status = .completed ∨ row.status = .failed
  formData : row.formData = a.row.formData

variable {σ : Type}

namespace Call

/-- What a call knows. -/
inductive Lawful (known : Task → Prop) (table : TaskTable) : Call σ → Prop
  /-- It has not begun. -/
  | asked {entry : Stage} : entry.Asked known table.Copied → Lawful known table (.begun entry)
  /-- It stores rows of a task it knows. -/
  | storing {p : Processor} {t : Task} {c₀ c : Context} {rows : List TaskRow}
    {turns : List (Turn σ)} : known t → (∀ row ∈ rows, row.FreshFor t) →
    Lawful known table ⟨.entering p t c₀, .storing rows c, turns⟩
  /-- It has stored them. -/
  | announcing {p : Processor} {t : Task} {c₀ c : Context} {turns : List (Turn σ)} :
    Lawful known table ⟨.entering p t c₀, .announcing c, turns⟩
  /-- It has entered the task, or failed to. -/
  | entered {p : Processor} {t : Task} {c₀ c : Context} {result : Except WorkflowError Unit}
    {turns : List (Turn σ)} : Lawful known table ⟨.entering p t c₀, .done result c, turns⟩
  /-- It was refused, and has done nothing. -/
  | refused {p : Processor} {c₀ c : Context} {err : WorkflowError} {turns : List (Turn σ)} :
    Refused p c₀ err → Turn.Quiet turns →
    Lawful known table ⟨.completing p c₀, .done (.error err) c, turns⟩
  /-- An action has passed its checks; nothing has been done. -/
  | closing {t : Task} {a : ActionRequest} {c₀ : Context} {event : TaskEvent} {row : TaskRow}
    {turns : List (Turn σ)} : known t → UserTask.Planned t a c₀ event row → table.Copied a.row →
    Turn.Quiet turns →
    Lawful known table ⟨.completing .user c₀, .closing event row c₀, turns⟩
  /-- It has closed the row. -/
  | telling {t : Task} {a : ActionRequest} {c₀ : Context} {event : TaskEvent} {row : TaskRow}
    {turns : List (Turn σ)} : known t → UserTask.Planned t a c₀ event row → table.Copied a.row →
    table.Final (TaskTable.bumped row) →
    Turn.stored turns = [TaskTable.bumped row] → Turn.observed turns = [] →
    Lawful known table
      ⟨.completing .user c₀, .telling event (c₀.withRow (TaskTable.bumped row)), turns⟩
  /-- It has closed the row and notified of it. -/
  | told {t : Task} {a : ActionRequest} {c₀ c : Context} {event : TaskEvent} {row : TaskRow}
    {result : Except WorkflowError Unit} {turns : List (Turn σ)} :
    known t → UserTask.Planned t a c₀ event row → table.Copied a.row →
    table.Final (TaskTable.bumped row) →
    Turn.stored turns = [TaskTable.bumped row] →
    (TaskTable.bumped row).Passed (Turn.observed turns) →
    Lawful known table ⟨.completing .user c₀, .done result c, turns⟩
  /-- It does one of the engine's own tasks. -/
  | serving {t : Task} {a : ActionRequest} {c₀ ready : Context} {stage : Stage}
    {turns : List (Turn σ)} : known t → ServiceTask.Prepared t a c₀ ready → table.Copied a.row →
    stage.Serves a →
    (∀ row ∈ Turn.stored turns, row.ServedFor a table) →
    Lawful known table ⟨.completing .service c₀, stage, turns⟩

/-- What is known stays known when the table grows. -/
theorem Lawful.mono {known : Task → Prop} {table table' : TaskTable} {call : Call σ}
    (lawful : call.Lawful known table) (grows : table.Grows table') :
    call.Lawful known table' := by
  cases lawful with
  | asked asked => exact .asked (asked.mono fun row copied => copied.mono grows)
  | storing isKnown fresh => exact .storing isKnown fresh
  | announcing => exact .announcing
  | entered => exact .entered
  | refused why quiet => exact .refused why quiet
  | closing isKnown planned copied quiet =>
      exact .closing isKnown planned (copied.mono grows) quiet
  | telling isKnown planned copied final stored observed =>
      exact .telling isKnown planned (copied.mono grows) (final.mono grows) stored observed
  | told isKnown planned copied final stored passed =>
      exact .told isKnown planned (copied.mono grows) (final.mono grows) stored passed
  | serving isKnown prepared copied serves served =>
      refine .serving isKnown prepared (copied.mono grows) serves ?_
      intro row member
      have old := served row member
      exact ⟨old.id, old.final.mono grows, old.status, old.formData⟩

/-- What a step of a call does: a move of the table, whose new rows are of known tasks. A completion
puts them in the places of open ones, any other call puts open ones without a form at the end. -/
structure Advanced (known : Task → Prop) (e e' : Engine TaskTable σ) (call call' : Call σ) :
    Prop where
  move : TaskTable.Move e.tasks e'.tasks
  added : ∀ row ∈ e.tasks.added e'.tasks, row.Known known
  closes : call.acted.isSome → ∀ row ∈ e.tasks.added e'.tasks,
    ∃ old ∈ e.tasks.rows, old.IsOpen ∧ old.id = row.id
  opens : ¬ call.acted.isSome → ∀ row ∈ e.tasks.added e'.tasks, row.IsOpen
  blank : ¬ call.acted.isSome → ∀ row ∈ e.tasks.added e'.tasks, row.formData = none
  lawful : call'.Lawful known e'.tasks

variable {known : Task → Prop} {e e' : Engine TaskTable σ} {call call' : Call σ}

/-- A step that leaves the table alone. -/
theorem Advanced.of_tasks_eq (same : e'.tasks = e.tasks) (lawful : call'.Lawful known e.tasks) :
    Advanced known e e' call call' := by
  have none : e.tasks.added e'.tasks = [] := by rw [same, TaskTable.added_self]
  refine ⟨same ▸ .stay e.tasks, ?_, ?_, ?_, ?_, same ▸ lawful⟩
  · rw [none]
    intro row member
    cases member
  all_goals
    rw [none]
    intro _ row member
    cases member

/-- A step that closes a row. -/
theorem Advanced.of_closedBy {copy closed : TaskRow}
    (by_ : e.tasks.ClosedBy e'.tasks copy closed) (named : ∀ row ∈ e.tasks.rows, row.Known known)
    (completes : call.acted.isSome) (lawful : call'.Lawful known e'.tasks) :
    Advanced known e e' call call' := by
  refine ⟨by_.move, ?_, ?_, fun enters => (enters completes).elim,
    fun enters => (enters completes).elim, lawful⟩
  · rw [by_.added]
    intro row member
    rw [List.mem_singleton.1 member]
    exact (named copy by_.member).of_sameTask by_.same
  · rw [by_.added]
    intro _ row member
    rw [List.mem_singleton.1 member]
    exact ⟨copy, by_.member, by_.isOpen, by_.same.id_eq.symm⟩

end Call

/-! ## One step -/

namespace Call

variable [EventStore σ] {known : Task → Prop} {e e' : Engine TaskTable σ} {stage : Stage}

/-- A call that enters a task works out its rows. -/
theorem advance_entering {p : Processor} {t : Task} {c : Context} (isKnown : known t)
    (h : (Stage.entering p t c).step e = (stage, e')) :
    Advanced known e e' (begun (.entering p t c))
      ((begun (.entering p t c)).turned stage e e') := by
  cases p with
  | user =>
      simp only [Stage.step] at h
      split at h
      · cases h
        exact .of_tasks_eq rfl .entered
      · rename_i p isUser
        split at h
        · cases h
          exact .of_tasks_eq rfl .entered
        · cases h
          refine .of_tasks_eq rfl (.storing isKnown ?_)
          intro row member
          obtain ⟨approvers, -, rfl⟩ := List.mem_map.1 member
          rw [← UserTask.typeName_of_part isUser]
          exact TaskRow.freshFor_waiting ..
  | service =>
      simp only [Stage.step] at h
      split at h
      · cases h
        exact .of_tasks_eq rfl .entered
      · rename_i isService
        cases h
        refine .of_tasks_eq rfl (.storing isKnown ?_)
        intro row member
        rw [List.mem_singleton.1 member, ← ServiceTask.typeName_of_check isService]
        exact TaskRow.freshFor_waiting ..

/-- A call that stores its next row. -/
theorem advance_storing {p : Processor} {t : Task} {c₀ c : Context} {rows : List TaskRow}
    {turns : List (Turn σ)} (sound : e.tasks.Sound) (isKnown : known t)
    (fresh : ∀ row ∈ rows, row.FreshFor t) (h : (Stage.storing rows c).step e = (stage, e')) :
    Advanced known e e' ⟨.entering p t c₀, .storing rows c, turns⟩
      (turned ⟨.entering p t c₀, .storing rows c, turns⟩ stage e e') := by
  cases rows with
  | nil =>
      cases h
      exact .of_tasks_eq rfl .announcing
  | cons row rest =>
      cases h
      have first := fresh row (List.mem_cons_self ..)
      have new : e.tasks.added (e.tasks.insert row) = [e.tasks.fresh row] :=
        sound.numbered.added_insert row
      refine ⟨.insert (first.isOpen e.tasks), ?_, ?_, ?_, ?_, ?_⟩
      · intro added member
        rw [List.mem_singleton.1 (show added ∈ [e.tasks.fresh row] from new ▸ member)]
        exact ⟨t, isKnown, first.name.symm, first.taskType.symm⟩
      · intro completes
        cases completes
      · intro _ added member
        rw [List.mem_singleton.1 (show added ∈ [e.tasks.fresh row] from new ▸ member)]
        exact first.isOpen e.tasks
      · intro _ added member
        rw [List.mem_singleton.1 (show added ∈ [e.tasks.fresh row] from new ▸ member)]
        exact first.formData
      · exact .storing isKnown fun r member => fresh r (List.mem_cons_of_mem _ member)

/-- A completion checks; it is refused or goes on, and nothing has been done. -/
theorem advance_completing {p : Processor} {c : Context}
    (isKnown : ∀ t, c.current = some t → known t)
    (copied : ∀ row, c.acted p = some row → e.tasks.Copied row)
    (h : (Stage.completing p c).step e = (stage, e')) :
    Advanced known e e' (begun (.completing p c))
      ((begun (.completing p c)).turned stage e e') := by
  cases p with
  | user =>
      cases planned : UserTask.plan c e.now with
      | error err =>
          simp only [Stage.step, planned] at h
          cases h
          exact .of_tasks_eq rfl (.refused (.plan planned) (Turn.quiet_nil.concat e))
      | ok plan =>
          obtain ⟨event, row⟩ := plan
          simp only [Stage.step, planned] at h
          cases h
          obtain ⟨t, a, checked⟩ := UserTask.planned_of_plan planned
          exact .of_tasks_eq rfl (.closing (isKnown t checked.current) checked
            (copied a.row checked.acted) (Turn.quiet_nil.concat e))
  | service =>
      rcases prepared : ServiceTask.prepare c e.settings.systemOperator with ⟨err | ⟨⟩, ready⟩
      · simp only [Stage.step, prepared] at h
        cases h
        exact .of_tasks_eq rfl (.refused (.prepare (congrArg Prod.fst prepared))
          (Turn.quiet_nil.concat e))
      · simp only [Stage.step, prepared] at h
        cases h
        obtain ⟨t, a, checked⟩ := ServiceTask.prepared_of_prepare prepared
        refine .of_tasks_eq rfl (.serving (isKnown t checked.current) checked
          (copied a.row checked.acted) (.working (by rw [checked.ready])) ?_)
        intro row member
        change row ∈ Turn.stored ([] ++ [⟨e, e⟩]) at member
        rw [(Turn.quiet_nil.concat e).stored_eq_nil] at member
        cases member

/-- A completion that has passed its checks writes the row, or meets a conflict. -/
theorem advance_closing {t : Task} {a : ActionRequest} {c₀ : Context} {event : TaskEvent}
    {row : TaskRow} {turns : List (Turn σ)} (sound : e.tasks.Sound)
    (named : ∀ row ∈ e.tasks.rows, row.Known known) (isKnown : known t)
    (planned : UserTask.Planned t a c₀ event row) (copied : e.tasks.Copied a.row)
    (quiet : Turn.Quiet turns)
    (h : (Stage.closing event row c₀).step e = (stage, e')) :
    Advanced known e e' ⟨.completing .user c₀, .closing event row c₀, turns⟩
      (turned ⟨.completing .user c₀, .closing event row c₀, turns⟩ stage e e') := by
  rcases updated : e.updateTask row with ⟨err | saved, e''⟩
  · simp only [Stage.step, updated] at h
    cases h
    obtain ⟨rfl, id, expected, actual, rfl⟩ :=
      Engine.conflict_of_updateTask sound copied planned.closes updated
    exact .of_tasks_eq rfl (.refused .conflict (quiet.concat _))
  · simp only [Stage.step, updated] at h
    cases h
    obtain ⟨rfl, by_, trace⟩ :=
      Engine.closedBy_of_updateTask sound copied planned.closes updated
    have stays := copied.mono (by_.move.grows sound)
    have completes : (Call.mk (.completing .user c₀) (.closing event row c₀) turns).acted.isSome :=
      Option.isSome_of_eq_some planned.acted
    refine .of_closedBy by_ named completes (.telling isKnown planned stays by_.final ?_ ?_)
    · rw [Turn.stored_concat, quiet.stored_eq_nil, by_.added, List.nil_append]
    · rw [Turn.observed_concat, quiet.observed_eq_nil, trace, List.drop_length, List.nil_append]

/-- A completion that has closed its row notifies of it, once. -/
theorem advance_telling {t : Task} {a : ActionRequest} {c₀ : Context} {event : TaskEvent}
    {row : TaskRow} {turns : List (Turn σ)} (isKnown : known t)
    (planned : UserTask.Planned t a c₀ event row) (copied : e.tasks.Copied a.row)
    (final : e.tasks.Final (TaskTable.bumped row))
    (wrote : Turn.stored turns = [TaskTable.bumped row]) (silent : Turn.observed turns = [])
    (h : (Stage.telling event (c₀.withRow (TaskTable.bumped row))).step e = (stage, e')) :
    Advanced known e e'
      ⟨.completing .user c₀, .telling event (c₀.withRow (TaskTable.bumped row)), turns⟩
      (turned ⟨.completing .user c₀, .telling event (c₀.withRow (TaskTable.bumped row)), turns⟩
        stage e e') := by
  have heard := Engine.heard_notify e event (c₀.withRow (TaskTable.bumped row))
  have current : (c₀.withRow (TaskTable.bumped row)).current = some t := planned.current
  have once := Engine.announced_of_current current event
  rcases told : e.notify event (c₀.withRow (TaskTable.bumped row)) with ⟨result, e''⟩
  rw [told, once] at heard
  simp only [Stage.step, told] at h
  cases h
  have kept := heard.tasks
  obtain ⟨more, trace, events, shown⟩ := heard.trace
  have event_eq : event = (TaskTable.bumped row).status.event :=
    Action.event_of_taskStatus planned.status planned.event
  refine .of_tasks_eq kept (.told isKnown planned copied final ?_ ?_)
  · rw [Turn.stored_concat, wrote, kept, TaskTable.added_self, List.append_nil]
  · rw [Turn.observed_concat, silent, trace, List.drop_left, List.nil_append]
    refine ⟨_, ?_, ?_, shown⟩
    · simp [Context.withRow, planned.action]
    · rw [events, event_eq]

omit [EventStore σ] in
/-- A row that a service task's completion writes. -/
theorem servedFor_of_finish {status : TaskStatus} {remark : Option String} {a : ActionRequest}
    {c : Context} (sound : e.tasks.Sound) (copied : e.tasks.Copied a.row)
    (pending : a.row.status = .pending) (action : c.action = some a)
    (final : status = .completed ∨ status = .failed)
    (h : (ServiceTask.finish status remark c e).engine = e') :
    e' = e ∨ ∃ closed, e.tasks.ClosedBy e'.tasks a.row closed ∧ closed.ServedFor a e'.tasks := by
  have terminal : status.isTerminal = true := by
    rcases final with rfl | rfl <;> rfl
  have closes :=
    ServiceTask.closes_closedRow pending terminal e.settings.systemOperator remark e.now
  unfold ServiceTask.finish at h
  rw [Context.request_eq_ok_iff.2 action] at h
  rcases updated : e.updateTask (ServiceTask.closedRow a.row status e.settings.systemOperator remark
    e.now) with ⟨err | saved, e''⟩
  · simp only [updated] at h
    rw [← h]
    exact Or.inl (Engine.conflict_of_updateTask sound copied closes updated).1
  · simp only [updated] at h
    obtain ⟨rfl, by_, -⟩ := Engine.closedBy_of_updateTask sound copied closes updated
    rw [← h]
    exact Or.inr ⟨_, by_, by_.same.id_eq, by_.final, final, rfl⟩

/-- A service task's completion writes its row at most in one step. -/
theorem advance_serving {t : Task} {a : ActionRequest} {c₀ ready : Context} {s : Stage}
    {turns : List (Turn σ)} (sound : e.tasks.Sound)
    (named : ∀ row ∈ e.tasks.rows, row.Known known) (isKnown : known t)
    (prepared : ServiceTask.Prepared t a c₀ ready) (copied : e.tasks.Copied a.row)
    (serves : s.Serves a)
    (served : ∀ row ∈ Turn.stored turns, row.ServedFor a e.tasks)
    (h : s.step e = (stage, e')) :
    Advanced known e e' ⟨.completing .service c₀, s, turns⟩
      (turned ⟨.completing .service c₀, s, turns⟩ stage e e') := by
  -- A step that leaves the table alone stores nothing new.
  have same : e'.tasks = e.tasks → stage.Serves a → Advanced known e e'
      ⟨.completing .service c₀, s, turns⟩
      (turned ⟨.completing .service c₀, s, turns⟩ stage e e') := by
    intro kept goes
    refine .of_tasks_eq kept (.serving isKnown prepared copied goes ?_)
    intro row member
    rw [Turn.stored_concat, kept, TaskTable.added_self, List.append_nil] at member
    exact served row member
  have wrote : (e' = e ∨ ∃ closed, e.tasks.ClosedBy e'.tasks a.row closed ∧
      closed.ServedFor a e'.tasks) → stage.Serves a → Advanced known e e'
      ⟨.completing .service c₀, s, turns⟩
      (turned ⟨.completing .service c₀, s, turns⟩ stage e e') := by
    rintro (rfl | ⟨closed, by_, new⟩) goes
    · exact same rfl goes
    · have grows := by_.move.grows sound
      have completes : (Call.mk (.completing .service c₀) s turns).acted.isSome :=
        Option.isSome_of_eq_some prepared.acted
      refine .of_closedBy by_ named completes
        (.serving isKnown prepared (copied.mono grows) goes ?_)
      intro row member
      rw [Turn.stored_concat, by_.added] at member
      rcases List.mem_append.1 member with old | last
      · have before := served row old
        exact ⟨before.id, before.final.mono grows, before.status, before.formData⟩
      · rw [List.mem_singleton.1 last]
        exact new
  cases serves with
  | @working c action =>
      cases h
      exact same (Engine.heard_notify e TaskEvent.complete c).tasks (.recording action)
  | @recording outcome c action =>
      cases outcome with
      | ok =>
          cases h
          exact wrote (servedFor_of_finish sound copied prepared.pending action (Or.inl rfl) rfl)
            .done
      | error err =>
          cases h
          exact wrote (servedFor_of_finish sound copied prepared.pending action (Or.inr rfl) rfl)
            .excusing
  | @excusing err c =>
      cases h
      exact same (Engine.heard_notify e TaskEvent.fail c).tasks .done
  | done =>
      cases h
      exact same rfl .done

/-- A step of a lawful call moves a sound table and leaves the call lawful. -/
theorem Lawful.advance {call : Call σ} (lawful : call.Lawful known e.tasks) (sound : e.tasks.Sound)
    (named : ∀ row ∈ e.tasks.rows, row.Known known) (h : call.stage.step e = (stage, e')) :
    Advanced known e e' call (call.turned stage e e') := by
  cases lawful with
  | asked asked =>
      cases asked with
      | enter isKnown => exact advance_entering isKnown h
      | complete isKnown copied => exact advance_completing isKnown copied h
  | storing isKnown fresh => exact advance_storing sound isKnown fresh h
  | @announcing p t c₀ c turns =>
      cases h
      have kept := (Engine.heard_notify e TaskEvent.create c).tasks
      exact .of_tasks_eq kept .entered
  | entered =>
      cases h
      exact .of_tasks_eq rfl .entered
  | refused why quiet =>
      cases h
      exact .of_tasks_eq rfl (.refused why (quiet.concat e))
  | closing isKnown planned copied quiet =>
      exact advance_closing sound named isKnown planned copied quiet h
  | telling isKnown planned copied final stored observed =>
      exact advance_telling isKnown planned copied final stored observed h
  | told isKnown planned copied final stored passed =>
      cases h
      refine .of_tasks_eq rfl (.told isKnown planned copied final ?_ ?_)
      · rw [Turn.stored_concat, stored, TaskTable.added_self, List.append_nil]
      · rw [Turn.observed_concat, List.drop_length, List.append_nil]
        exact passed
  | serving isKnown prepared copied serves served =>
      exact advance_serving sound named isKnown prepared copied serves served h

end Call

end ApprovalFlow
