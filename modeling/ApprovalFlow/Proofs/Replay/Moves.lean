import ApprovalFlow.Proofs.Definition
import ApprovalFlow.Proofs.Replay.Moments
import ApprovalFlow.Proofs.Work

/-!
# What one move of a replay can do

There are two kinds of moves. In one the process stays as it is and tasks are worked on
(`Replay.Worked`); in the other the process is closed and no row is touched (`Replay.Ended`). The
lemmas below give the kind of each operation; `Moment.next_cases` puts them together.
-/

namespace ApprovalFlow

namespace Replay

/-- Tasks were worked on, and the process has stayed as it was. -/
structure Worked (made : TaskRow → Prop) (r r' : Replay) : Prop where
  definition : r'.definition = r.definition
  process : r'.process = r.process
  engine : Engine.Worked made r.engine r'.engine

/-- The process was closed, which was dispatched, and no row was touched. -/
structure Ended (status : ProcessStatus) (r r' : Replay) : Prop where
  definition : r'.definition = r.definition
  id : r'.process.id = r.process.id
  status : r'.process.status = status
  tasks : r'.engine.tasks = r.engine.tasks
  endings : ∃ d, endings r'.engine.trace = endings r.engine.trace ++ [d]

variable {made : TaskRow → Prop} {r r' r'' : Replay}

theorem Worked.refl (r : Replay) : Worked made r r :=
  ⟨rfl, rfl, Engine.Worked.refl r.engine⟩

theorem Worked.trans (left : Worked made r r') (right : Worked made r' r'') :
    Worked made r r'' :=
  ⟨right.definition.trans left.definition, right.process.trans left.process,
    left.engine.trans right.engine⟩

theorem worked_of_engine {e : Engine TaskTable EventLog} (worked : Engine.Worked made r.engine e) :
    Worked made r { r with engine := e } :=
  ⟨rfl, rfl, worked⟩

/-- Notifying of an event that ends nothing. -/
theorem worked_notifyProcess {event : ProcessEvent} (goesOn : event ∉ ProcessEvent.terminal)
    (r : Replay) (c : Context) : Worked made r (r.notifyProcess event c).2 := by
  have heard := Engine.heard_notify r.engine event c
  refine worked_of_engine (heard.worked ?_)
  intro d member
  have one : d = ⟨.process, event.name, c.snapshot⟩ := List.mem_singleton.1 member
  rw [one, Dispatch.ends_process, decide_eq_false goesOn]

theorem ended_close {event : ProcessEvent} (terminal : event ∈ ProcessEvent.terminal) (r : Replay)
    (status : ProcessStatus) : Ended status r (r.close status event).2 := by
  let c : Context := .base r.definition
    { r.process with status := status, endTime := some r.engine.now } r.form
  have heard := Engine.heard_notify r.engine event c
  refine ⟨rfl, rfl, rfl, heard.tasks, ⟨.process, event.name, c.snapshot⟩, ?_⟩
  refine heard.endings_eq.trans ?_
  have ends : (Dispatch.mk .process event.name c.snapshot).ends = true := by
    rw [Dispatch.ends_process, decide_eq_true terminal]
  change _ ++ [Dispatch.mk .process event.name c.snapshot].filter Dispatch.ends = _
  rw [List.filter_cons_of_pos ends, List.filter_nil]

/-- What follows when a task has been entered: it is completed if nobody has to act on it. -/
theorem worked_entered (sound : r.engine.tasks.Sound) (t : Task) :
    Worked TaskRow.NoVeto
      { r with engine :=
        ((Processor.ofTask t).create t { r.context with current := some t } r.engine).engine }
      (r.enter t).2 := by
  have entered := Engine.worked_create (Processor.ofTask t) t
    { r.context with current := some t } r.engine
  unfold enter
  dsimp only
  rcases created : (Processor.ofTask t).create t { r.context with current := some t } r.engine with
    ⟨err | ⟨⟩, c, e⟩
  · exact Worked.refl _
  · rw [created] at entered
    dsimp only
    split
    · exact Worked.refl _
    · rename_i goes
      -- Only a service task goes on, and its row is the one it has just stored.
      have service : Processor.ofTask t = .service := by
        cases kind : Processor.ofTask t with
        | user =>
            rw [kind] at goes
            exact absurd rfl goes
        | service => rfl
      rw [service] at created ⊢
      obtain ⟨action, rows⟩ := ServiceTask.context_of_create created
      have copied : ∀ row, c.acted .service = some row → e.tasks.Copied row := by
        intro row acted
        unfold Context.acted at acted
        rw [action] at acted
        obtain ⟨t', -, last⟩ := Option.bind_eq_some_iff.1 acted
        have member := List.mem_reverse.1 (List.mem_of_find?_eq_some last)
        rcases rows row member with old | stored
        · cases old
        · exact ⟨row, stored, TaskRow.Precedes.refl row⟩
      have completed : Engine.Worked TaskRow.NoVeto e (Processor.service.complete c e).engine :=
        Engine.worked_service (entered.moves.grows sound).1 copied
      rcases done : Processor.service.complete c e with ⟨err | ok, c', e'⟩
      · rw [done] at completed
        have failed : Worked TaskRow.NoVeto { r with engine := e } { r with engine := e' } :=
          ⟨rfl, rfl, completed⟩
        exact failed.trans (worked_notifyProcess (by decide) _ c')
      · rw [done] at completed
        exact ⟨rfl, rfl, completed⟩

/-- Entering a task, and completing it if nobody has to act on it. -/
theorem worked_enter (sound : r.engine.tasks.Sound) (t : Task) :
    Worked TaskRow.NoVeto r (r.enter t).2 :=
  (worked_of_engine (Engine.worked_create _ t _ r.engine)).trans (worked_entered sound t)

/-- Taking a name off the queue that is not the end. -/
theorem worked_visit (sound : r.engine.tasks.Sound) {name : String}
    (goesOn : name ≠ ProcessDefinition.endName) : Worked TaskRow.NoVeto r (r.visit name).2 := by
  unfold visit
  rw [if_neg goesOn]
  split
  · exact Worked.refl r
  · exact worked_enter sound _

theorem ended_visit (r : Replay) :
    Ended .completed r (r.visit ProcessDefinition.endName).2 := by
  unfold visit
  rw [if_pos rfl]
  exact ended_close (by decide) r .completed

/-- Handing a task to other users stores one open row. -/
theorem worked_transfer (r : Replay) (t : Task) (c : Context) (users : List String) :
    Worked TaskRow.NoVeto r (r.transfer t c users).2 := by
  unfold transfer
  split
  · exact Worked.refl r
  · have opened := TaskRow.isOpen_fresh_waiting r.engine.tasks Task.userType r.process t.name
      t.displayName (Text.joined TaskRow.approverMark users) r.engine.now
    have stored := Engine.worked_insertTask opened opened.noVeto
    exact worked_of_engine (stored.trans (Engine.worked_notifyTask _ TaskEvent.create _))

/-- Working out the successors changes nothing. -/
theorem engine_next (p : Processor) (t : Task) (c : Context) (e : Engine TaskTable EventLog) :
    (p.next t c e).2 = e := by
  cases p with
  | service => rfl
  | user =>
      unfold Processor.next UserTask.next
      dsimp only
      split
      · rfl
      · split
        · rfl
        · rfl

/-- What an action finds: a task of the definition and one of the rows that wait for it. -/
structure Targets (r : Replay) (t : Task) (row : TaskRow) : Prop where
  opened : r.process.status = .processing
  task : r.definition.Has t
  member : row ∈ r.engine.tasks.rows
  process : row.processId = r.process.id
  name : row.name = t.name

theorem targets_of_target {spec : ActionSpec} {t : Task} {row : TaskRow}
    (h : r.target spec = .ok (t, row)) : r.Targets t row := by
  unfold target at h
  by_cases opened : r.process.status = .processing
  · rw [if_neg (not_not_intro opened)] at h
    obtain ⟨t', task, h⟩ := Except.bind_eq_ok.1 h
    obtain ⟨row', found, h⟩ := Except.bind_eq_ok.1 h
    cases h
    obtain ⟨has, name⟩ : r.definition.Has t ∧ t.name = spec.task := by
      unfold Replay.task at task
      split at task
      · rename_i t' there
        cases task
        exact ProcessDefinition.has_of_task? there
      · cases task
    unfold openRow at found
    dsimp only at found
    split at found
    · rename_i row' chosen
      cases found
      have member : row ∈ (r.engine.tasks.ofProcess r.process.id).filter fun row =>
          row.name == spec.task && !row.status.isTerminal := by
        rcases Option.or_eq_some_iff.1 chosen with first | ⟨-, first⟩
        · exact List.mem_of_find?_eq_some first
        · exact List.mem_of_mem_head? first
      obtain ⟨ofProcess, waits⟩ := List.mem_filter.1 member
      obtain ⟨there, process⟩ := List.mem_filter.1 ofProcess
      simp only [Bool.and_eq_true, beq_iff_eq] at waits process
      exact ⟨opened, has, there, process, waits.1.trans name.symm⟩
    · cases found
  · rw [if_pos opened] at h
    cases h

end Replay

/-- A phase in which no step is under way. -/
inductive Phase.Settled : Phase → Prop
  | resting : Settled .resting
  | broken {failure : ReplayFailure} : Settled (.broken failure)

/-- A phase that a replay can be in when its process is closed. Only a walk that has come to the end
goes on. -/
inductive Phase.Over : ProcessStatus → Phase → Prop
  | settled {status : ProcessStatus} {phase : Phase} : phase.Settled → Over status phase
  | walking {step before : String} {queue entered : List String} :
    Over .completed (.walking step before queue entered)

theorem Phase.Over.cases {status : ProcessStatus} {phase : Phase} (past : phase.Over status) :
    phase.Settled ∨ status = .completed ∧
      ∃ step before queue entered, phase = .walking step before queue entered := by
  cases past with
  | settled settled => exact Or.inl settled
  | walking => exact Or.inr ⟨rfl, _, _, _, _, rfl⟩

namespace Moment

variable {made : TaskRow → Prop} {r : Replay} {actions : List ActionSpec} {m m' : Moment}

/-- The end of a step records it and nothing else. -/
theorem settle_eq (r : Replay) (actions : List ActionSpec) (step : String)
    (result : Except WorkflowError String) :
    ∃ steps phase, settle r actions step result = ⟨{ r with steps := steps }, phase, actions⟩ ∧
      phase.Settled := by
  unfold settle
  rcases recorded : r.record step (Replay.lift result) with failure | r'
  · exact ⟨r.steps, _, rfl, .broken⟩
  · refine ⟨r'.steps, _, ?_, .resting⟩
    unfold Replay.record at recorded
    cases result with
    | ok outcome =>
        cases recorded
        rfl
    | error err =>
        dsimp only [Replay.lift] at recorded
        split at recorded
        · cases recorded
        · cases recorded
          rfl

theorem worked_settle {r' : Replay} (worked : Replay.Worked made r r') (actions : List ActionSpec)
    (step : String) (result : Except WorkflowError String) :
    Replay.Worked made r (settle r' actions step result).replay := by
  obtain ⟨steps, phase, same, -⟩ := settle_eq r' actions step result
  rw [same]
  exact ⟨worked.definition, worked.process, worked.engine⟩

/-- The engine after an action has closed its row, or has failed to. -/
theorem applied_replay (r : Replay) (actions : List ActionSpec) (spec : ActionSpec) (t : Task)
    (reply : Reply TaskTable EventLog Bool) :
    ∃ steps, (applied r actions spec t reply).replay =
      { r with engine := reply.engine, steps := steps } := by
  rcases reply with ⟨err | ok, c, e⟩
  · obtain ⟨steps, phase, same, -⟩ :=
      settle_eq { r with engine := e } actions (Replay.stepName spec) (.error err)
    exact ⟨steps, congrArg Moment.replay same⟩
  · unfold applied
    dsimp only
    cases c.request with
    | error err =>
        obtain ⟨steps, phase, same, -⟩ :=
          settle_eq { r with engine := e } actions (Replay.stepName spec) (.error err)
        exact ⟨steps, congrArg Moment.replay same⟩
    | ok a => exact ⟨r.steps, rfl⟩

/-- What a move does. -/
inductive Move : Moment → Moment → Prop
  /-- Tasks are worked on, and no veto is recorded. -/
  | works {m m' : Moment} : Replay.Worked TaskRow.NoVeto m.replay m'.replay → Move m m'
  /-- An action is applied to a row of a user task. -/
  | acts {r : Replay} {spec : ActionSpec} {actions : List ActionSpec} {t : Task} {row : TaskRow} :
    r.target spec = .ok (t, row) → Processor.ofTask t = .user →
    Move ⟨r, .resting, spec :: actions⟩ (applied r actions spec t
      (UserTask.complete (r.actionContext spec t row) r.engine))
  /-- The process is closed. -/
  | ends {m m' : Moment} {status : ProcessStatus} : status ≠ .processing →
    Replay.Ended status m.replay m'.replay → m'.phase.Over status → Move m m'

theorem ended_settle {status : ProcessStatus} {r' : Replay} (ended : Replay.Ended status r r')
    (actions : List ActionSpec) (step : String) (result : Except WorkflowError String) :
    Replay.Ended status r (settle r' actions step result).replay := by
  obtain ⟨steps, phase, same, -⟩ := settle_eq r' actions step result
  rw [same]
  exact ⟨ended.definition, ended.id, ended.status, ended.tasks, ended.endings⟩

theorem settled_settle (r : Replay) (actions : List ActionSpec) (step : String)
    (result : Except WorkflowError String) : (settle r actions step result).phase.Settled := by
  obtain ⟨steps, phase, same, settled⟩ := settle_eq r actions step result
  rw [same]
  exact settled

theorem over_visited (actions : List ActionSpec) (step before : String) (rest entered : List String)
    (answer : Except WorkflowError (List String) × Replay) :
    (visited actions step before rest entered answer).phase.Over .completed := by
  rcases answer with ⟨err | names, r⟩
  · exact .settled (settled_settle ..)
  · exact .walking

theorem visited_replay (actions : List ActionSpec) (step before : String)
    (rest entered : List String) (answer : Except WorkflowError (List String) × Replay) :
    ∃ steps, (visited actions step before rest entered answer).replay =
      { answer.2 with steps := steps } := by
  rcases answer with ⟨err | names, r⟩
  · obtain ⟨steps, phase, same, -⟩ := settle_eq r actions step (.error err)
    exact ⟨steps, congrArg Moment.replay same⟩
  · exact ⟨r.steps, rfl⟩

/-- Working out the successors changes nothing but the steps. -/
theorem approved_replay (r : Replay) (actions : List ActionSpec) (spec : ActionSpec) (t : Task)
    (c : Context) (taskId : Int) :
    ∃ steps, (approved r actions spec taskId ((Processor.ofTask t).next t c r.engine)).replay =
      { r with steps := steps } := by
  have kept := Replay.engine_next (Processor.ofTask t) t c r.engine
  rcases answer : (Processor.ofTask t).next t c r.engine with ⟨err | ⟨_ | ⟨name, rest⟩⟩, e⟩
  · rw [answer] at kept
    cases kept
    obtain ⟨steps, phase, same, -⟩ := settle_eq r actions (Replay.stepName spec) (.error err)
    exact ⟨steps, congrArg Moment.replay same⟩
  · rw [answer] at kept
    cases kept
    obtain ⟨steps, phase, same, -⟩ := settle_eq r actions (Replay.stepName spec)
      (.ok ("task " ++ toString taskId ++ " approved, waiting on other approvers"))
    exact ⟨steps, congrArg Moment.replay same⟩
  · rw [answer] at kept
    cases kept
    exact ⟨r.steps, rfl⟩

/-- What may follow from an action. -/
inductive Followed (r : Replay) (spec : ActionSpec) (t : Task) (c : Context) (taskId : Int)
    (actions : List ActionSpec) : Moment → Prop
  /-- The task is done as far as this person is concerned. -/
  | goesOn : spec.action = .approve ∨ spec.action = .complete →
    Followed r spec t c taskId actions
      (approved r actions spec taskId ((Processor.ofTask t).next t c r.engine))
  /-- The task goes to other people. -/
  | handsOver {answer : Except WorkflowError String} : spec.action = .transfer →
    Followed r spec t c taskId actions
      (settle (r.transfer t c spec.transferTo).2 actions (Replay.stepName spec) answer)
  /-- A veto closes the process. -/
  | closes {status : ProcessStatus} {event : ProcessEvent} {word : String} :
    spec.action ∈ Action.vetoes → status ≠ .processing → event ∈ ProcessEvent.terminal →
    Followed r spec t c taskId actions (closed r actions spec taskId status event word)
  /-- It is no action on a task. -/
  | refuses {err : WorkflowError} : spec.action = .start →
    Followed r spec t c taskId actions (settle r actions (Replay.stepName spec) (.error err))

theorem followed_of_next {spec : ActionSpec} {t : Task} {c : Context} {taskId : Int}
    (h : next ⟨r, .following spec t c taskId, actions⟩ = some m') :
    Followed r spec t c taskId actions m' := by
  cases action : spec.action with
  | approve =>
      simp only [next, action] at h
      cases h
      exact .goesOn (Or.inl action)
  | complete =>
      simp only [next, action] at h
      cases h
      exact .goesOn (Or.inr action)
  | transfer =>
      simp only [next, action] at h
      cases h
      exact .handsOver action
  | reject =>
      simp only [next, action] at h
      cases h
      exact .closes (by rw [action]; decide) (by decide) (by decide)
  | cancel =>
      simp only [next, action] at h
      cases h
      exact .closes (by rw [action]; decide) (by decide) (by decide)
  | terminate =>
      simp only [next, action] at h
      cases h
      exact .closes (by rw [action]; decide) (by decide) (by decide)
  | start =>
      simp only [next, action] at h
      cases h
      exact .refuses action

/-- Closing the process ends it, and the step. -/
theorem ended_closed {status : ProcessStatus} {event : ProcessEvent}
    (terminal : event ∈ ProcessEvent.terminal) (r : Replay) (actions : List ActionSpec)
    (spec : ActionSpec) (taskId : Int) (word : String) :
    Replay.Ended status r (closed r actions spec taskId status event word).replay :=
  ended_settle (Replay.ended_close terminal r status) actions _ _

theorem move_following {spec : ActionSpec} {t : Task} {c : Context} {taskId : Int}
    (h : next ⟨r, .following spec t c taskId, actions⟩ = some m') :
    Move ⟨r, .following spec t c taskId, actions⟩ m' := by
  cases followed_of_next h with
  | goesOn =>
      obtain ⟨steps, same⟩ := approved_replay r actions spec t c taskId
      refine .works ?_
      rw [same]
      exact ⟨rfl, rfl, Engine.Worked.refl r.engine⟩
  | handsOver => exact .works (worked_settle (Replay.worked_transfer r t c _) actions _ _)
  | closes veto final terminal =>
      refine .ends final (ended_closed terminal r actions spec taskId _) ?_
      exact .settled (settled_settle ..)
  | refuses => exact .works (worked_settle (Replay.Worked.refl r) actions _ _)

/-- Every move is of one of the three kinds. -/
theorem next_cases (sound : m.replay.engine.tasks.Sound) (h : m.next = some m') : Move m m' := by
  match m, h with
  | ⟨r, .opening, actions⟩, h =>
      have worked : Replay.Worked TaskRow.NoVeto r (r.notifyProcess .create r.context).2 :=
        Replay.worked_notifyProcess (by decide) r r.context
      rcases told : r.notifyProcess .create r.context with ⟨err | ⟨⟩, r'⟩
      · simp only [next, told] at h
        cases h
        rw [told] at worked
        exact .works (worked_settle worked actions _ _)
      · simp only [next, told] at h
        cases h
        rw [told] at worked
        exact .works worked
  | ⟨r, .walking step before [] entered, actions⟩, h =>
      cases h
      exact .works (worked_settle (Replay.Worked.refl r) actions step _)
  | ⟨r, .walking step before (name :: rest) entered, actions⟩, h =>
      cases h
      obtain ⟨steps, same⟩ := visited_replay actions step before rest (entered ++ [name])
        (r.visit name)
      by_cases goesOn : name = ProcessDefinition.endName
      · have ended := Replay.ended_visit r
        rw [← goesOn] at ended
        have final : ProcessStatus.completed ≠ .processing := by decide
        refine .ends final ?_ (over_visited ..)
        rw [same]
        exact ⟨ended.definition, ended.id, ended.status, ended.tasks, ended.endings⟩
      · have worked := Replay.worked_visit sound goesOn
        refine .works ?_
        rw [same]
        exact ⟨worked.definition, worked.process, worked.engine⟩
  | ⟨r, .resting, []⟩, h => cases h
  | ⟨r, .resting, spec :: actions⟩, h =>
      rcases target : r.target spec with err | ⟨t, row⟩
      · simp only [next, target] at h
        cases h
        exact .works (worked_settle (Replay.Worked.refl r) actions _ _)
      · simp only [next, target] at h
        cases h
        cases kind : Processor.ofTask t with
        | user => exact .acts target kind
        | service =>
            have member := (Replay.targets_of_target target).member
            have copied : ∀ copy, (r.actionContext spec t row).acted .service = some copy →
                r.engine.tasks.Copied copy := by
              rintro copy ⟨⟩
              exact ⟨row, member, TaskRow.Precedes.refl row⟩
            have worked : Engine.Worked TaskRow.NoVeto r.engine
                (Processor.service.complete (r.actionContext spec t row) r.engine).engine :=
              Engine.worked_service sound copied
            obtain ⟨steps, same⟩ := applied_replay r actions spec t
              (Processor.service.complete (r.actionContext spec t row) r.engine)
            refine .works ?_
            rw [same]
            exact ⟨rfl, rfl, worked⟩
  | ⟨r, .following spec t c taskId, actions⟩, h =>
      exact move_following h
  | ⟨r, .broken failure, actions⟩, h => cases h

/-- What an action does to the engine of a user task: at most the planned row is new. -/
theorem worked_applied {spec : ActionSpec} {t : Task} {row : TaskRow}
    (sound : r.engine.tasks.Sound) (target : r.target spec = .ok (t, row))
    (actions : List ActionSpec) :
    Replay.Worked (fun new => ∃ event closed,
        UserTask.plan (r.actionContext spec t row) r.engine.now = .ok (event, closed) ∧
          new = TaskTable.bumped closed) r
      (applied r actions spec t
        (UserTask.complete (r.actionContext spec t row) r.engine)).replay := by
  have member := (Replay.targets_of_target target).member
  obtain ⟨steps, same⟩ := applied_replay r actions spec t
    (UserTask.complete (r.actionContext spec t row) r.engine)
  rw [same]
  exact ⟨rfl, rfl, UserTask.worked_complete sound rfl member⟩

/-- A move keeps the definition and the process's id, and moves the table. -/
theorem Move.keeps (move : Move m m') (sound : m.replay.engine.tasks.Sound) :
    m'.replay.definition = m.replay.definition ∧ m'.replay.process.id = m.replay.process.id ∧
      TaskTable.Moves m.replay.engine.tasks m'.replay.engine.tasks := by
  cases move with
  | works worked =>
      exact ⟨worked.definition, congrArg ProcessRow.id worked.process, worked.engine.moves⟩
  | @acts r spec actions t row target isUser =>
      have worked := worked_applied sound target actions
      exact ⟨worked.definition, congrArg ProcessRow.id worked.process, worked.engine.moves⟩
  | ends final ended past => exact ⟨ended.definition, ended.id, by rw [ended.tasks]⟩

end Moment

end ApprovalFlow
