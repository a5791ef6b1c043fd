import ApprovalFlow.Proofs.Replay.Moments
import ApprovalFlow.Proofs.Scenario.Calls

/-!
# Replays of two scenarios

Two replays of variants of a scenario go the same way: every call answers alike and does alike,
whatever is in the logs and in the pools. `Replay.match_play` says so of two replays from their
start to the end of their last actions.
-/

namespace ApprovalFlow

/-- The replay with another engine. -/
def Replay.withEngine (r : Replay) (e : Engine TaskTable EventLog) : Replay :=
  { r with engine := e }

/-- Two replays at the same point, with twins in every place. -/
structure Replay.Twin (roles : ListenerSpec → ListenerSpec → Prop) (r r' : Replay) : Prop where
  engine : r.engine.Twin roles r'.engine
  definition : r.definition.Twin roles r'.definition
  process : r.process.Alike r'.process
  form : r'.form = r.form
  steps : r'.steps = r.steps

namespace Replay

/-- Whatever is in the log, in the pools and in the trace, a call does these things, gives this
answer, and leaves this replay behind but for the engine. -/
structure Does (r : Replay) {α : Type} (fx : List Effect) (call : Replay → α × Replay) (answer : α)
    (q : Replay) : Prop where
  engine : q.engine = r.engine.performAll fx
  does : ∀ x, call (r.withEngine (r.engine.against x)) =
    (answer, q.withEngine ((r.engine.against x).performAll fx))

/-- Two calls answer alike, do alike, and leave the replays at the same point. -/
def Tally (roles : ListenerSpec → ListenerSpec → Prop) (r r' : Replay) {α : Type}
    (call call' : Replay → α × Replay) : Prop :=
  ∃ answer q q' fx fx', r.Does fx call answer q ∧ r'.Does fx' call' answer q' ∧
    List.Forall₂ (Effect.Twin roles) fx fx' ∧ q.Twin roles q'

variable {roles : ListenerSpec → ListenerSpec → Prop} {r r' q : Replay} {α β : Type}
  {c c' : Context} {t t' : Task}

theorem Does.after {fx gx : List Effect} {call : Replay → α × Replay} {next : Replay → β × Replay}
    {answer : α} {later : β} {p : Replay} (first : r.Does fx call answer q)
    (second : q.Does gx next later p) (x : Engine TaskTable EventLog) :
    next (q.withEngine ((r.engine.against x).performAll fx)) =
      (later, p.withEngine ((r.engine.against x).performAll (fx ++ gx))) := by
  rw [Engine.performAll_append, Engine.performAll_against, ← first.engine]
  exact second.does _

theorem Does.engine_append {fx gx : List Effect} {call : Replay → α × Replay}
    {next : Replay → β × Replay} {answer : α} {later : β} {p : Replay}
    (first : r.Does fx call answer q) (second : q.Does gx next later p) :
    p.engine = r.engine.performAll (fx ++ gx) := by
  rw [second.engine, first.engine, Engine.performAll_append]

/-- Only the engine has gone on. -/
theorem does_performAll (r : Replay) (fx : List Effect) :
    r.Does fx (fun s => ((), s.withEngine (s.engine.performAll fx))) ()
      (r.withEngine (r.engine.performAll fx)) :=
  ⟨rfl, fun _ => rfl⟩

theorem Twin.withEngine (twin : r.Twin roles r') {e e' : Engine TaskTable EventLog}
    (engine : e.Twin roles e') : (r.withEngine e).Twin roles (r'.withEngine e') :=
  { twin with engine := engine }

theorem Twin.context (twin : r.Twin roles r') : r.context.Twin roles r'.context :=
  ⟨twin.process.applicant_eq, twin.definition, twin.form, twin.process, .none, .none, .nil⟩

theorem Tally.pure (twin : r.Twin roles r') (answer : α) :
    Tally roles r r' (fun s => (answer, s)) (fun s => (answer, s)) :=
  ⟨answer, r, r', [], [], ⟨rfl, fun _ => rfl⟩, ⟨rfl, fun _ => rfl⟩, .nil, twin⟩

/-- A call that goes on as another when the engine has done something. -/
theorem Tally.start {call call' next next' : Replay → α × Replay} {fx fx' : List Effect}
    (twins : List.Forall₂ (Effect.Twin roles) fx fx')
    (later : Tally roles (r.withEngine (r.engine.performAll fx))
      (r'.withEngine (r'.engine.performAll fx')) next next')
    (left : ∀ x, call (r.withEngine (r.engine.against x)) =
      next (r.withEngine ((r.engine.against x).performAll fx)))
    (right : ∀ x, call' (r'.withEngine (r'.engine.against x)) =
      next' (r'.withEngine ((r'.engine.against x).performAll fx'))) :
    Tally roles r r' call call' := by
  obtain ⟨answer, q, q', gx, gx', does, does', both, twin⟩ := later
  refine ⟨answer, q, q', fx ++ gx, fx' ++ gx',
    ⟨(does_performAll r fx).engine_append does, fun x => ?_⟩,
    ⟨(does_performAll r' fx').engine_append does', fun x => ?_⟩, List.rel_append twins both, twin⟩
  · rw [left]
    exact (does_performAll r fx).after does x
  · rw [right]
    exact (does_performAll r' fx').after does' x

/-- A call is as good as another that comes to the same. -/
theorem Tally.congr {call call' same same' : Replay → α × Replay}
    (tally : Tally roles r r' same same')
    (left : ∀ x, call (r.withEngine (r.engine.against x)) =
      same (r.withEngine (r.engine.against x)))
    (right : ∀ x, call' (r'.withEngine (r'.engine.against x)) =
      same' (r'.withEngine (r'.engine.against x))) :
    Tally roles r r' call call' :=
  Tally.start .nil tally left right

/-- One call after another. -/
theorem Tally.bind {call call' : Replay → α × Replay} (first : Tally roles r r' call call')
    (next next' : α → Replay → β × Replay)
    (later : ∀ answer q q', q.Twin roles q' → Tally roles q q' (next answer) (next' answer)) :
    Tally roles r r' (fun s => next (call s).1 (call s).2)
      (fun s => next' (call' s).1 (call' s).2) := by
  obtain ⟨answer, q, q', fx, fx', does, does', twins, twin⟩ := first
  obtain ⟨last, p, p', gx, gx', more, more', both, ends⟩ := later answer q q' twin
  refine ⟨last, p, p', fx ++ gx, fx' ++ gx', ⟨does.engine_append more, fun x => ?_⟩,
    ⟨does'.engine_append more', fun x => ?_⟩, List.rel_append twins both, ends⟩
  · rw [does.does x]
    exact does.after more x
  · rw [does'.does x]
    exact does'.after more' x

/-- The same with the answer put in other words. -/
theorem Tally.map {call call' : Replay → α × Replay} (tally : Tally roles r r' call call')
    (word : α → β) :
    Tally roles r r' (fun s => (word (call s).1, (call s).2))
      (fun s => (word (call' s).1, (call' s).2)) :=
  tally.bind (fun answer s => (word answer, s)) (fun answer s => (word answer, s))
    fun answer _ _ twin => .pure twin (word answer)

/-- What only the engine does. -/
theorem tally_engine {call call' : Engine TaskTable EventLog → α × Engine TaskTable EventLog}
    (twin : r.Twin roles r') (both : ∃ answer fx fx', r.engine.Does fx call (answer, ·) ∧
      r'.engine.Does fx' call' (answer, ·) ∧ List.Forall₂ (Effect.Twin roles) fx fx') :
    Tally roles r r' (fun r => ((call r.engine).1, r.withEngine (call r.engine).2))
      (fun r => ((call' r.engine).1, r.withEngine (call' r.engine).2)) := by
  obtain ⟨answer, fx, fx', does, does', twins⟩ := both
  refine ⟨answer, r.withEngine (r.engine.performAll fx), r'.withEngine (r'.engine.performAll fx'),
    fx, fx', ⟨rfl, fun x => ?_⟩, ⟨rfl, fun x => ?_⟩, twins,
    twin.withEngine (twin.engine.performAll twins)⟩
  · change ((call (r.engine.against x)).1, r.withEngine (call (r.engine.against x)).2) = _
    rw [does x]
    rfl
  · change ((call' (r'.engine.against x)).1, r'.withEngine (call' (r'.engine.against x)).2) = _
    rw [does' x]
    rfl

theorem tally_notifyProcess (twin : r.Twin roles r') (context : c.Twin roles c')
    (event : ProcessEvent) :
    Tally roles r r' (·.notifyProcess event c) (·.notifyProcess event c') :=
  tally_engine twin (Engine.notify_twin twin.engine context event)

theorem tally_close (twin : r.Twin roles r') (status : ProcessStatus) (event : ProcessEvent) :
    Tally roles r r' (·.close status event) (·.close status event) := by
  let closed : Replay :=
    { r with process := { r.process with status := status, endTime := some r.engine.now } }
  let closed' : Replay :=
    { r' with process := { r'.process with status := status, endTime := some r'.engine.now } }
  have both : closed.Twin roles closed' :=
    { twin with process := twin.process.close status r.engine.now r'.engine.now }
  obtain ⟨answer, q, q', fx, fx', does, does', twins, later⟩ :=
    tally_notifyProcess both both.context event
  exact ⟨answer, q, q', fx, fx', ⟨does.engine, does.does⟩, ⟨does'.engine, does'.does⟩, twins, later⟩

/-! ## Walking on -/

section Entering

variable {p : Processor} {e e' : Engine TaskTable EventLog}

theorem enter_of_failure (way : Processor.ofTask t = p) {err : WorkflowError}
    (created : p.create t { r.context with current := some t } r.engine = ⟨.error err, c, e⟩) :
    r.enter t = (.error err, r.withEngine e) := by
  unfold enter
  rw [way]
  dsimp only
  rw [created]
  rfl

theorem enter_of_waits (way : Processor.ofTask t = p)
    (created : p.create t { r.context with current := some t } r.engine = ⟨.ok (), c, e⟩)
    (waits : p.waits = true) : r.enter t = (.ok [], r.withEngine e) := by
  unfold enter
  rw [way]
  dsimp only
  rw [created]
  dsimp only
  rw [if_pos waits]
  rfl

theorem enter_of_undone (way : Processor.ofTask t = p) {err : WorkflowError}
    {answer : Except WorkflowError Unit} {later : Replay}
    (created : p.create t { r.context with current := some t } r.engine = ⟨.ok (), c, e⟩)
    (goes : ¬ p.waits = true) (undone : p.complete c e = ⟨.error err, c', e'⟩)
    (told : (r.withEngine e').notifyProcess .fail c' = (answer, later)) :
    r.enter t = (.error err, later) := by
  unfold enter
  rw [way]
  dsimp only
  rw [created]
  dsimp only
  rw [if_neg goes, undone]
  dsimp only
  rw [show ({ r with engine := e' } : Replay) = r.withEngine e' from rfl, told]

theorem enter_of_done (way : Processor.ofTask t = p) {done : Bool}
    {names : Except WorkflowError (List String)} {e'' : Engine TaskTable EventLog}
    (created : p.create t { r.context with current := some t } r.engine = ⟨.ok (), c, e⟩)
    (goes : ¬ p.waits = true) (completed : p.complete c e = ⟨.ok done, c', e'⟩)
    (follows : p.next t c' e' = (names, e'')) : r.enter t = (names, r.withEngine e'') := by
  unfold enter
  rw [way]
  dsimp only
  rw [created]
  dsimp only
  rw [if_neg goes, completed]
  dsimp only
  rw [follows]
  rfl

/-- Entering two tasks. -/
theorem tally_enter (twin : r.Twin roles r') (task : t.Twin roles t') :
    Tally roles r r' (·.enter t) (·.enter t') := by
  obtain ⟨p, way⟩ : ∃ p, Processor.ofTask t = p := ⟨_, rfl⟩
  have way' : Processor.ofTask t' = p := (Processor.ofTask_eq task).trans way
  obtain ⟨answer, d, d', fx, fx', creates, creates', created, contexts⟩ :=
    p.create_twin twin.engine (twin.context.at_task task) task
  have later := twin.engine.performAll created
  cases answer with
  | error err =>
      exact Tally.start created (.pure (twin.withEngine later) _)
        (fun x => enter_of_failure way (creates x)) (fun x => enter_of_failure way' (creates' x))
  | ok =>
      by_cases waits : p.waits = true
      · exact Tally.start created (.pure (twin.withEngine later) _)
          (fun x => enter_of_waits way (creates x) waits)
          (fun x => enter_of_waits way' (creates' x) waits)
      · obtain ⟨answer, d₁, d₁', gx, gx', completes, completes', completed, after⟩ :=
          p.complete_twin later contexts
        have both : List.Forall₂ (Effect.Twin roles) (fx ++ gx) (fx' ++ gx') :=
          List.rel_append created completed
        have last := twin.engine.performAll both
        cases answer with
        | error err =>
            exact Tally.start both
              ((tally_notifyProcess (twin.withEngine last) after .fail).map fun _ => .error err)
              (fun x => enter_of_undone way (creates x) waits (completes.after fx x) rfl)
              (fun x => enter_of_undone way' (creates' x) waits (completes'.after fx' x) rfl)
        | ok done =>
            obtain ⟨names, follows, follows'⟩ := p.next_twin last after task
            refine Tally.start both (.pure (twin.withEngine last) names) (fun x => ?_) (fun x => ?_)
            · refine enter_of_done way (creates x) waits (completes.after fx x) ?_
              rw [Engine.performAll_against]
              exact follows _
            · refine enter_of_done way' (creates' x) waits (completes'.after fx' x) ?_
              rw [Engine.performAll_against]
              exact follows' _

end Entering

theorem task_rel (twin : r.Twin roles r') (name : String) :
    Except.Rel (Task.Twin roles) (r.task name) (r'.task name) := by
  have found := twin.definition.task? name
  have same : r'.definition.name = r.definition.name := by rw [twin.definition.same]
  unfold task
  rw [same]
  generalize r.definition.task? name = here at found
  generalize r'.definition.task? name = here' at found
  cases found with
  | none => exact .error _
  | some task => exact .ok task

theorem visit_of_unknown {name : String} (goesOn : name ≠ ProcessDefinition.endName)
    {err : WorkflowError} (unknown : r.task name = .error err) :
    r.visit name = (.error err, r) := by
  unfold visit
  rw [if_neg goesOn, unknown]

theorem visit_of_task {name : String} (goesOn : name ≠ ProcessDefinition.endName)
    (there : r.task name = .ok t) : r.visit name = r.enter t := by
  unfold visit
  rw [if_neg goesOn, there]

theorem tally_visit (twin : r.Twin roles r') (name : String) :
    Tally roles r r' (·.visit name) (·.visit name) := by
  by_cases ends : name = ProcessDefinition.endName
  · refine ((tally_close twin .completed .complete).map (·.map fun _ => [])).congr ?_ ?_
    all_goals
      intro x
      unfold visit
      rw [if_pos ends]
  · rcases (task_rel twin name).eq_or_eq with ⟨err, here, here'⟩ | ⟨t, t', here, here', task⟩
    · exact (Tally.pure twin (.error err)).congr
        (fun x => visit_of_unknown (r := r.withEngine (r.engine.against x)) ends here)
        (fun x => visit_of_unknown (r := r'.withEngine (r'.engine.against x)) ends here')
    · exact (tally_enter twin task).congr (fun x => visit_of_task ends here)
        (fun x => visit_of_task ends here')

/-- What a walk goes on with when it has taken a name. -/
def walkOn (fuel : Nat) (rest entered : List String) (answer : Except WorkflowError (List String))
    (s : Replay) : Except Halt (List String) × Replay :=
  match answer with
  | .error err => (.error (.failed err), s)
  | .ok names => walk fuel (rest ++ names) entered s

theorem walk_eq (fuel : Nat) (name : String) (rest entered : List String) (s : Replay) :
    walk (fuel + 1) (name :: rest) entered s =
      walkOn fuel rest (entered ++ [name]) (s.visit name).1 (s.visit name).2 := by
  rw [walk]
  rcases s.visit name with ⟨err | names, s'⟩ <;> rfl

theorem tally_walk (twin : r.Twin roles r') (fuel : Nat) (queue entered : List String) :
    Tally roles r r' (walk fuel queue entered) (walk fuel queue entered) := by
  induction fuel generalizing r r' queue entered with
  | zero =>
      cases queue with
      | nil => exact .pure twin _
      | cons => exact .pure twin _
  | succ fuel ih =>
      cases queue with
      | nil => exact .pure twin _
      | cons name rest =>
          refine ((tally_visit twin name).bind (walkOn fuel rest (entered ++ [name]))
            (walkOn fuel rest (entered ++ [name])) ?_).congr
              (fun x => walk_eq ..) (fun x => walk_eq ..)
          intro answer q q' later
          cases answer with
          | error err => exact .pure later _
          | ok names => exact ih later _ _

theorem budget_eq (twin : r.Twin roles r') (names : List String) :
    budget r'.definition names = budget r.definition names := by
  have tasks := twin.definition.tasks
  have breadths : breadth r'.definition = breadth r.definition := by
    unfold breadth
    generalize r.definition.tasks = ts at tasks
    generalize r'.definition.tasks = ts' at tasks
    generalize 0 = most
    induction tasks generalizing most with
    | nil => rfl
    | cons first _ ih => rw [List.foldl_cons, List.foldl_cons, first.next_eq, ih]
  unfold budget
  rw [breadths, tasks.length_eq]

/-- Going on to the successors of two tasks. -/
theorem tally_advance (twin : r.Twin roles r') (names : List String) :
    Tally roles r r' (·.advance names) (·.advance names) := by
  refine ((tally_walk twin (budget r.definition names) names []).map
    (·.map fun entered => "entered " ++ String.intercalate " -> " entered)).congr ?_ ?_
  · intro x
    have fuel : budget (r.withEngine (r.engine.against x)).definition names =
      budget r.definition names := rfl
    unfold advance
    rw [fuel]
    rcases walk (budget r.definition names) names [] _ with ⟨halt | entered, s⟩ <;> rfl
  · intro x
    have fuel : budget (r'.withEngine (r'.engine.against x)).definition names =
      budget r.definition names := budget_eq twin names
    unfold advance
    rw [fuel]
    rcases walk (budget r.definition names) names [] _ with ⟨halt | entered, s⟩ <;> rfl

/-! ## Steps -/

/-- What follows when the listeners have been told of the process. -/
def begin (answer : Except WorkflowError Unit) (s : Replay) : Except Halt String × Replay :=
  match answer with
  | .error err => (.error (.failed err), s)
  | .ok () => s.advance s.definition.start

theorem startProcess_eq (s : Replay) : startProcess s =
    begin (s.notifyProcess .create s.context).1 (s.notifyProcess .create s.context).2 := by
  unfold startProcess
  rcases s.notifyProcess .create s.context with ⟨err | ⟨⟩, s'⟩ <;> rfl

theorem tally_startProcess (twin : r.Twin roles r') :
    Tally roles r r' startProcess startProcess := by
  refine ((tally_notifyProcess twin twin.context .create).bind begin begin ?_).congr
    (fun x => startProcess_eq _) (fun x => startProcess_eq _)
  intro answer q q' later
  have start : q'.definition.start = q.definition.start := by rw [later.definition.same]
  cases answer with
  | error err => exact .pure later _
  | ok =>
      refine (tally_advance later q.definition.start).congr (fun e => rfl) (fun e => ?_)
      change (q'.withEngine _).advance q'.definition.start = _
      rw [start]

/-- The row that an action applies to. -/
theorem openRow_rel (twin : r.Twin roles r') (name operator : String) :
    Except.Rel TaskRow.Alike (r.openRow name operator) (r'.openRow name operator) := by
  have rows : List.Forall₂ TaskRow.Alike
      ((r.engine.tasks.ofProcess r.process.id).filter fun row =>
        row.name == name && !row.status.isTerminal)
      ((r'.engine.tasks.ofProcess r'.process.id).filter fun row =>
        row.name == name && !row.status.isTerminal) := by
    rw [twin.process.id_eq]
    refine List.rel_filter ?_ (twin.engine.tasks.ofProcess r.process.id)
    intro row row' same
    dsimp only
    rw [same.name_eq, same.status_eq]
  have own := forall₂_find? (p := fun row : TaskRow => row.isApprover operator)
    (q := fun row : TaskRow => row.isApprover operator)
    (fun _ _ same => TaskRow.Alike.isApprover_eq same operator) rows
  unfold openRow
  generalize (r.engine.tasks.ofProcess r.process.id).filter _ = listed at rows own
  generalize (r'.engine.tasks.ofProcess r'.process.id).filter _ = listed' at rows own
  dsimp only
  generalize listed.find? _ = row at own
  generalize listed'.find? _ = row' at own
  cases own with
  | some same => exact .ok same
  | none =>
      cases rows with
      | nil => exact .error _
      | cons first => exact .ok first

/-- The task and the row that an action applies to. -/
theorem target_rel (twin : r.Twin roles r') (spec : ActionSpec) :
    Except.Rel (fun found found' => found.1.Twin roles found'.1 ∧ found.2.Alike found'.2)
      (r.target spec) (r'.target spec) := by
  unfold target
  rw [twin.process.status_eq, twin.process.id_eq]
  dsimp only
  by_cases closed : r.process.status ≠ .processing
  · rw [if_pos closed, if_pos closed]
    exact .error _
  · rw [if_neg closed, if_neg closed]
    refine (task_rel twin spec.task).bind fun t t' task => ?_
    exact (openRow_rel twin spec.task spec.operator).bind fun row row' same => .ok ⟨task, same⟩

theorem transfer_of_nobody {users : List String} (nobody : users.isEmpty = true) :
    r.transfer t c users = (.error (.invalidAction "transfer needs at least one user"), r) := by
  unfold transfer
  rw [if_pos nobody]

theorem transfer_of_insert {users : List String} (somebody : ¬ users.isEmpty = true)
    {saved : TaskRow} {e₁ e₂ : Engine TaskTable EventLog} {answer : Except WorkflowError Unit}
    (stored : r.engine.insertTask (TaskRow.waiting Task.userType r.process t.name t.displayName
      (Text.joined TaskRow.approverMark users) r.engine.now) = (.ok saved, e₁))
    (told : e₁.notify TaskEvent.create { c with action := none, newTasks := [saved] } =
      (answer, e₂)) :
    r.transfer t c users = (answer.map fun _ => saved.id, r.withEngine e₂) := by
  unfold transfer
  rw [if_neg somebody]
  dsimp only
  rw [stored]
  dsimp only
  rw [told]
  rfl

theorem tally_transfer (twin : r.Twin roles r') (task : t.Twin roles t') (context : c.Twin roles c')
    (users : List String) :
    Tally roles r r' (·.transfer t c users) (·.transfer t' c' users) := by
  by_cases nobody : users.isEmpty = true
  · exact (Tally.pure twin _).congr (fun e => transfer_of_nobody nobody)
      (fun e => transfer_of_nobody nobody)
  · have row : (TaskRow.waiting Task.userType r.process t.name t.displayName
        (Text.joined TaskRow.approverMark users) r.engine.now).Alike
        (TaskRow.waiting Task.userType r'.process t'.name t'.displayName
          (Text.joined TaskRow.approverMark users) r'.engine.now) := by
      rw [task.same]
      exact .waiting twin.process ..
    have fresh := twin.engine.tasks.fresh row
    have stored := stored_twin roles (twin.engine.tasks.insert row)
    have handed : ({ c with action := none, newTasks := [r.engine.tasks.fresh _] } : Context).Twin
        roles { c' with action := none, newTasks := [r'.engine.tasks.fresh _] } :=
      { context with action := .none, newTasks := .cons fresh .nil }
    obtain ⟨answer, fx, fx', tells, tells', told⟩ :=
      Engine.notify_twin (twin.engine.performAll stored) handed TaskEvent.create
    have both := List.rel_append stored told
    refine ⟨_, r.withEngine (r.engine.performAll (_ ++ fx)),
      r'.withEngine (r'.engine.performAll (_ ++ fx')), _ ++ fx, _ ++ fx',
      ⟨rfl, fun x => transfer_of_insert nobody rfl (tells.after _ x)⟩, ⟨rfl, fun x => ?_⟩, both,
      twin.withEngine (twin.engine.performAll both)⟩
    rw [← fresh.id_eq]
    exact transfer_of_insert nobody rfl (tells'.after _ x)

theorem tally_closeAfter (twin : r.Twin roles r') (taskId : Int) (status : ProcessStatus)
    (event : ProcessEvent) (word : String) :
    Tally roles r r' (·.closeAfter taskId status event word)
      (·.closeAfter taskId status event word) :=
  (tally_close twin status event).map fun answer => lift (answer.map fun _ =>
    "task " ++ toString taskId ++ " " ++ word ++ ", process " ++ word)

/-- What follows when the tasks that come next are known. -/
def goOn (taskId : Int) (names : Except WorkflowError (List String)) (s : Replay) :
    Except Halt String × Replay :=
  let task := "task " ++ toString taskId
  match names with
  | .error err => (.error (.failed err), s)
  | .ok [] => (.ok (task ++ " approved, waiting on other approvers"), s)
  | .ok (name :: rest) =>
    ((s.advance (name :: rest)).1.map fun entered => task ++ " approved, " ++ entered,
      (s.advance (name :: rest)).2)

theorem followUp_of_approves {taskId : Int} {spec : ActionSpec}
    (approves : spec.action = .approve ∨ spec.action = .complete) (s : Replay) :
    s.followUp t c taskId spec = goOn taskId ((Processor.ofTask t).next t c s.engine).1
      (s.withEngine ((Processor.ofTask t).next t c s.engine).2) := by
  unfold followUp
  rcases approves with action | action
  all_goals
    rw [action]
    dsimp only
    rcases (Processor.ofTask t).next t c s.engine with ⟨err | ⟨_ | ⟨name, rest⟩⟩, e⟩ <;> rfl

/-- Going on after two approved tasks. -/
theorem tally_approved (twin : r.Twin roles r') (task : t.Twin roles t') (context : c.Twin roles c')
    (taskId : Int) {spec : ActionSpec}
    (approves : spec.action = .approve ∨ spec.action = .complete) :
    Tally roles r r' (·.followUp t c taskId spec) (·.followUp t' c' taskId spec) := by
  obtain ⟨names, follows, follows'⟩ := (Processor.ofTask t).next_twin twin.engine context task
  rw [← Processor.ofTask_eq task] at follows'
  refine ((tally_engine twin ⟨names, [], [], follows, follows', .nil⟩).bind
    (goOn taskId) (goOn taskId) ?_).congr (fun e => followUp_of_approves approves _)
      (fun e => followUp_of_approves approves _)
  intro answer q q' later
  match answer with
  | .error err => exact .pure later _
  | .ok [] => exact .pure later _
  | .ok (name :: rest) => exact (tally_advance later (name :: rest)).map _

/-- What follows from two actions. -/
theorem tally_followUp (twin : r.Twin roles r') (task : t.Twin roles t') (context : c.Twin roles c')
    (taskId : Int) (spec : ActionSpec) :
    Tally roles r r' (·.followUp t c taskId spec) (·.followUp t' c' taskId spec) := by
  cases action : spec.action with
  | approve => exact tally_approved twin task context taskId (Or.inl action)
  | complete => exact tally_approved twin task context taskId (Or.inr action)
  | transfer =>
      refine ((tally_transfer twin task context spec.transferTo).map fun answer =>
        lift (answer.map fun id => "task " ++ toString taskId ++ " transferred to row " ++
          toString id)).congr ?_ ?_
      all_goals
        intro e
        simp only [followUp, action]
  | reject =>
      simp only [followUp, action]
      exact tally_closeAfter twin taskId .rejected .reject "rejected"
  | cancel =>
      simp only [followUp, action]
      exact tally_closeAfter twin taskId .canceled .cancel "canceled"
  | terminate =>
      simp only [followUp, action]
      exact tally_closeAfter twin taskId .terminated .terminate "terminated"
  | start =>
      simp only [followUp, action]
      exact .pure twin _

/-- Two actions. -/
theorem tally_apply (twin : r.Twin roles r') (spec : ActionSpec) :
    Tally roles r r' (·.apply spec) (·.apply spec) := by
  rcases (target_rel twin spec).eq_or_eq with
    ⟨err, found, found'⟩ | ⟨⟨t, row⟩, ⟨t', row'⟩, found, found', task, same⟩
  · exact (Tally.pure twin (.error (.failed err))).congr
      (fun x => apply_of_untargeted (r := r.withEngine (r.engine.against x)) found)
      (fun x => apply_of_untargeted (r := r'.withEngine (r'.engine.against x)) found')
  · have acts : (r.actionContext spec t row).Twin roles (r'.actionContext spec t' row') :=
      { twin.context with current := .some task, action := .some ⟨rfl, same⟩ }
    obtain ⟨answer, d, d', fx, fx', completes, completes', completed, contexts⟩ :=
      (Processor.ofTask t).complete_twin twin.engine acts
    rw [← Processor.ofTask_eq task] at completes'
    have later := twin.withEngine (twin.engine.performAll completed)
    suffices dealt : Tally roles (r.withEngine (r.engine.performAll fx))
        (r'.withEngine (r'.engine.performAll fx')) (dealWith t spec (answer, d))
        (dealWith t' spec (answer, d')) from
      Tally.start completed dealt
        (fun x => apply_of_target (r := r.withEngine (r.engine.against x)) found (completes x))
        (fun x => apply_of_target (r := r'.withEngine (r'.engine.against x)) found' (completes' x))
    cases answer with
    | error err => exact .pure later _
    | ok done =>
        rcases contexts.request_rel.eq_or_eq with ⟨err, acts, acts'⟩ | ⟨a, a', acts, acts', row⟩
        · refine (Tally.pure later (.error (.failed err))).congr (fun x => ?_) (fun x => ?_)
          · simp only [dealWith, acts]
          · simp only [dealWith, acts']
        · refine (tally_followUp later task contexts a.row.id spec).congr (fun x => ?_)
            (fun x => ?_)
          · simp only [dealWith, acts]
          · simp only [dealWith, acts', row.row.id_eq]

/-! ## Whole replays -/

/-- A replay without its report. -/
def play (r : Replay) (actions : List ActionSpec) : Except ReplayFailure Replay := do
  let r ← r.start
  actions.foldlM act r

theorem run_eq (r : Replay) (actions : List ActionSpec) :
    r.run actions = (r.play actions).map report := by
  unfold run play
  cases r.start with
  | error failure => rfl
  | ok begun => cases actions.foldlM act begun <;> rfl

/-- Whatever is in the log, in the pools and in the trace, this much of a replay does these things
and comes to this one but for the engine. -/
structure Reaches (r : Replay) (fx : List Effect) (call : Replay → Except ReplayFailure Replay)
    (q : Replay) : Prop where
  engine : q.engine = r.engine.performAll fx
  reaches : ∀ x, call (r.withEngine (r.engine.against x)) =
    .ok (q.withEngine ((r.engine.against x).performAll fx))

/-- Whatever is in the log, in the pools and in the trace, this much of a replay fails. -/
def Fails (r : Replay) (call : Replay → Except ReplayFailure Replay) (failure : ReplayFailure) :
    Prop :=
  ∀ x, call (r.withEngine (r.engine.against x)) = .error failure

/-- As much of one replay as of the other: both fail alike, or they do alike and come to the same
point. -/
inductive Match (roles : ListenerSpec → ListenerSpec → Prop) (r r' : Replay)
    (call call' : Replay → Except ReplayFailure Replay) : Prop
  | fails {failure : ReplayFailure} : r.Fails call failure → r'.Fails call' failure →
    Match roles r r' call call'
  | reaches {q q' : Replay} {fx fx' : List Effect} : r.Reaches fx call q → r'.Reaches fx' call' q' →
    List.Forall₂ (Effect.Twin roles) fx fx' → q.Twin roles q' → Match roles r r' call call'

theorem Reaches.bind {fx gx : List Effect} {call next : Replay → Except ReplayFailure Replay}
    {p : Replay} (first : r.Reaches fx call q) (second : q.Reaches gx next p) :
    r.Reaches (fx ++ gx) (fun s => call s >>= next) p := by
  refine ⟨?_, fun x => ?_⟩
  · rw [second.engine, first.engine, Engine.performAll_append]
  · rw [first.reaches, Engine.performAll_append, Engine.performAll_against, ← first.engine]
    exact second.reaches _

theorem Reaches.fails {fx : List Effect} {call next : Replay → Except ReplayFailure Replay}
    {failure : ReplayFailure} (first : r.Reaches fx call q) (second : q.Fails next failure) :
    r.Fails (fun s => call s >>= next) failure := by
  intro x
  dsimp only
  rw [first.reaches, Engine.performAll_against, ← first.engine]
  exact second _

theorem Fails.bind {call : Replay → Except ReplayFailure Replay} {failure : ReplayFailure}
    (first : r.Fails call failure) (next : Replay → Except ReplayFailure Replay) :
    r.Fails (fun s => call s >>= next) failure := by
  intro x
  dsimp only
  rw [first x]
  rfl

theorem Match.bind {call call' : Replay → Except ReplayFailure Replay}
    (first : Match roles r r' call call') {next next' : Replay → Except ReplayFailure Replay}
    (later : ∀ q q', q.Twin roles q' → Match roles q q' next next') :
    Match roles r r' (fun s => call s >>= next) (fun s => call' s >>= next') := by
  cases first with
  | fails failed failed' => exact .fails (failed.bind next) (failed'.bind next')
  | @reaches q q' fx fx' reached reached' twins twin =>
      cases later q q' twin with
      | fails failed failed' => exact .fails (reached.fails failed) (reached'.fails failed')
      | reaches more more' both ends =>
          exact .reaches (reached.bind more) (reached'.bind more') (List.rel_append twins both) ends

theorem record_withEngine (r : Replay) (e : Engine TaskTable EventLog) (step : String)
    (result : Except Halt String) :
    (r.withEngine e).record step result = (r.record step result).map (·.withEngine e) := by
  rcases result with (err | _) | outcome
  · unfold record
    dsimp only
    split <;> rfl
  · rfl
  · rfl

theorem engine_record {step : String} {result : Except Halt String}
    (recorded : r.record step result = .ok q) : q.engine = r.engine := by
  unfold record at recorded
  split at recorded
  · cases recorded
    rfl
  · cases recorded
  · split at recorded
    · cases recorded
    · cases recorded
      rfl

/-- Recording the same of two replays. -/
theorem record_rel (twin : r.Twin roles r') (step : String) (result : Except Halt String) :
    Except.Rel (Twin roles) (r.record step result) (r'.record step result) := by
  have noted : ∀ record : StepRecord, ({ r with steps := r.steps ++ [record] } : Replay).Twin roles
      { r' with steps := r'.steps ++ [record] } := by
    intro record
    refine { twin with steps := ?_ }
    dsimp only
    rw [twin.steps]
  unfold record
  rcases result with (err | _) | outcome
  · dsimp only
    split
    · exact .error _
    · exact .ok (noted _)
  · exact .error _
  · exact .ok (noted _)

/-- Recording what two calls have come to, as steps named after the processes. -/
theorem Tally.record {call call' : Replay → Except Halt String × Replay}
    (tally : Tally roles r r' call call') (step : String → String) :
    Match roles r r' (fun s => (call s).2.record (step (call s).2.definition.name) (call s).1)
      (fun s => (call' s).2.record (step (call' s).2.definition.name) (call' s).1) := by
  obtain ⟨answer, q, q', fx, fx', does, does', twins, twin⟩ := tally
  have name : q'.definition.name = q.definition.name := by rw [twin.definition.same]
  have left : ∀ x, (call (r.withEngine (r.engine.against x))).2.record
      (step (call (r.withEngine (r.engine.against x))).2.definition.name)
      (call (r.withEngine (r.engine.against x))).1 =
      (q.record (step q.definition.name) answer).map
        (·.withEngine ((r.engine.against x).performAll fx)) := by
    intro x
    rw [does.does x]
    exact record_withEngine ..
  have right : ∀ x, (call' (r'.withEngine (r'.engine.against x))).2.record
      (step (call' (r'.withEngine (r'.engine.against x))).2.definition.name)
      (call' (r'.withEngine (r'.engine.against x))).1 =
      (q'.record (step q.definition.name) answer).map
        (·.withEngine ((r'.engine.against x).performAll fx')) := by
    intro x
    rw [does'.does x, ← name]
    exact record_withEngine ..
  rcases (record_rel twin (step q.definition.name) answer).eq_or_eq with
    ⟨failure, failed, failed'⟩ | ⟨p, p', recorded, recorded', ends⟩
  · rw [failed] at left
    rw [failed'] at right
    exact .fails left right
  · rw [recorded] at left
    rw [recorded'] at right
    exact .reaches ⟨(engine_record recorded).trans does.engine, left⟩
      ⟨(engine_record recorded').trans does'.engine, right⟩ twins ends

theorem match_act (twin : r.Twin roles r') (spec : ActionSpec) :
    Match roles r r' (·.act spec) (·.act spec) :=
  (tally_apply twin spec).record fun _ => stepName spec

theorem match_acts (twin : r.Twin roles r') (actions : List ActionSpec) :
    Match roles r r' (actions.foldlM act) (actions.foldlM act) := by
  induction actions generalizing r r' with
  | nil => exact .reaches ⟨rfl, fun _ => rfl⟩ ⟨rfl, fun _ => rfl⟩ .nil twin
  | cons spec rest ih => exact (match_act twin spec).bind fun _ _ later => ih later

/-- Two replays go the same way from their start to the end of their last actions. -/
theorem match_play (twin : r.Twin roles r') (actions : List ActionSpec) :
    Match roles r r' (·.play actions) (·.play actions) :=
  ((tally_startProcess twin).record ("start " ++ ·)).bind fun _ _ later => match_acts later actions

end Replay

end ApprovalFlow
