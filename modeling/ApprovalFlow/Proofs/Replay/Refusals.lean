import ApprovalFlow.Proofs.Replay.Hindrances

/-!
# Steps that are refused

A step that fails without a listener's doing and without ending the replay should leave no trace.
The engine keeps to that: it checks an action before it stores anything, and walking on from a task
fails only by listeners or by the fault of the definition. What the replay itself checks comes too
late, after the row has been closed and its event dispatched: that a transfer names somebody, and
that the action is one that something follows from.

* `Scenario.refused_step_iff`: a refused step leaves everything as it was exactly when it is not one
  of these.
-/

namespace ApprovalFlow

/-- An error that neither ends the replay nor comes from a listener. -/
def WorkflowError.Ordinary (err : WorkflowError) : Prop :=
  err.isFatal = false ∧ ∀ listener message, err ≠ .listenerFailed listener message

theorem WorkflowError.not_ordinary_of_fatal {err : WorkflowError} (fatal : err.isFatal = true) :
    ¬ err.Ordinary := by
  intro ordinary
  rw [ordinary.1] at fatal
  cases fatal

variable {roles : ListenerSpec → ListenerSpec → Prop}

theorem WorkflowError.Hindrance.not_ordinary {err : WorkflowError} (hinders : err.Hindrance) :
    ¬ err.Ordinary := by
  cases hinders with
  | listener name message => exact fun ordinary => ordinary.2 _ _ rfl
  | nobody task => exact WorkflowError.not_ordinary_of_fatal rfl

/-- A notification in a scenario fails only by a listener or by the fault of the definition. -/
theorem Engine.not_ordinary_of_notify {τ σ ε : Type} [EventStore σ] [EventScope ε] [SharedScope ε]
    (event : ε) {e : Engine τ σ} {c : Context} {err : WorkflowError} (scripted : e.Scripted roles)
    (context : c.Twin roles c) (failed : (e.notify event c).1 = .error err) : ¬ err.Ordinary := by
  cases here : EventScope.element ε c with
  | ok element => exact (hindrance_of_notify event scripted context here failed).not_ordinary
  | error err' =>
      rcases error_of_notify failed with nowhere | ⟨element, there, -⟩
      · exact WorkflowError.not_ordinary_of_fatal (SharedScope.fatal nowhere)
      · rw [here] at there
        cases there

/-! ## Completing a task -/

section Failing

variable {σ : Type} [EventStore σ] {e : Engine TaskTable σ} {c : Context} {t : Task}
  {err : WorkflowError}

theorem ServiceTask.ready_of_action {ready : Context} {a : ActionRequest} {operator : String}
    (action : c.action = some a) (prepared : prepare c operator = (.ok (), ready)) : ready = c := by
  obtain ⟨t, row, poised, rfl⟩ := poised_of_prepare prepared
  cases poised.copy with
  | supplied own =>
      rw [onRow, own]
      exact congrArg (fun action => { c with action := action }) own.symm
  | created none => cases none.symm.trans action

/-- Completing a task is refused before anything has happened, or closes the row. Then it fails only
by listeners. -/
theorem Processor.complete_cases (p : Processor) (sound : e.tasks.Sound)
    (scripted : e.Scripted roles) (twin : c.Twin roles c) {a : ActionRequest}
    (action : c.action = some a) (here : a.row ∈ e.tasks.rows) :
    (∃ err, (p.complete c e).result = .error err ∧ (p.complete c e).engine = e) ∨
      ∃ closed, e.tasks.ClosedBy (p.complete c e).engine.tasks a.row closed ∧
        (p.complete c e).context = c.withRow closed ∧
        ∀ err, (p.complete c e).result = .error err → ¬ err.Ordinary := by
  have current : ∀ t, c.current = some t → t.Twin roles t := by
    intro t there
    have related := twin.current
    rw [there] at related
    cases related with
    | some own => exact own
  cases p with
  | user =>
      cases planned : UserTask.plan c e.now with
      | error err =>
          refine Or.inl ⟨err, ?_, ?_⟩ <;> simp only [complete, UserTask.complete, planned]
      | ok answer =>
          obtain ⟨event, closed⟩ := answer
          obtain ⟨e', by_, -, -, same⟩ := UserTask.complete_of_plan sound action here planned
          have kept := (Engine.heard_notify e' event (c.withRow (TaskTable.bumped closed))).tasks
          have steady := Processor.steady_complete .user c e
          rw [complete, same] at steady
          rw [complete, same]
          refine Or.inr ⟨TaskTable.bumped closed, ?_, rfl, ?_⟩
          · dsimp only
            rw [kept]
            exact by_
          · intro err failed
            have back := (Engine.heard_notify e' event
              (c.withRow (TaskTable.bumped closed))).steady
            have scripted' : e'.Scripted roles :=
              ⟨back.settings ▸ (scripted.of_steady steady).settings,
                back.catalogue ▸ (scripted.of_steady steady).catalogue⟩
            refine Engine.not_ordinary_of_notify event scripted'
              (Context.twin_self (c := c.withRow (TaskTable.bumped closed)) twin.definition current)
              ?_
            rcases answer : e'.notify event (c.withRow (TaskTable.bumped closed)) with
              ⟨err' | ⟨⟩, _⟩
            · rw [answer] at failed
              cases failed
              rfl
            · rw [answer] at failed
              cases failed
  | service =>
      rcases prepared : ServiceTask.prepare c e.settings.systemOperator with ⟨err | ⟨⟩, ready⟩
      · refine Or.inl ⟨err, ?_, ?_⟩ <;> simp only [complete, ServiceTask.complete, prepared]
      · obtain ⟨t, b, checked⟩ := ServiceTask.prepared_of_prepare prepared
        have same := ServiceTask.ready_of_action action prepared
        rw [same] at prepared
        have row : a.row = b.row := by
          have acted := checked.acted
          unfold Context.acted at acted
          rw [action] at acted
          exact Option.some.inj acted
        obtain ⟨closed, result, context, by_⟩ :=
          ServiceTask.complete_of_prepared sound prepared action here (row ▸ checked.pending)
        refine Or.inr ⟨closed, by_, context, ?_⟩
        intro err failed
        refine Engine.not_ordinary_of_notify TaskEvent.complete scripted twin ?_
        rw [complete, result] at failed
        rcases answer : e.notify TaskEvent.complete c with ⟨err' | ⟨⟩, _⟩
        · rw [answer] at failed
          cases failed
          rfl
        · rw [answer] at failed
          cases failed

end Failing

/-! ## Walking on -/

/-- A walk goes on from a task to what follows it, or not at all. -/
theorem Processor.next_cases {σ : Type} (t : Task) (c : Context) (e : Engine TaskTable σ) :
    ((ofTask t).next t c e).1 = .ok t.next ∨ ((ofTask t).next t c e).1 = .ok [] := by
  unfold ofTask
  cases kind : t.kind with
  | service => exact Or.inl rfl
  | user p =>
      have isUser : UserTask.part t = .ok p := UserTask.part_of_kind kind
      simp only [next, UserTask.next, isUser]
      split
      · by_cases waits : e.tasks.count c.process.id t.name .pending > 0
        · exact Or.inr (congrArg Except.ok (if_pos waits))
        · exact Or.inl (congrArg Except.ok (if_neg waits))
      · exact Or.inl rfl

namespace Replay

variable {r r' : Replay} {err : WorkflowError}

/-- Going on to the successors of a task fails only by a listener or by the fault of the
definition. -/
theorem not_ordinary_of_advance {names : List String} (scripted : r.Scripted roles)
    (sound : r.engine.tasks.Sound) (failed : (r.advance names).1 = .error (.failed err)) :
    ¬ err.Ordinary := by
  have step : ∀ (r : Replay) (name : String) (rest next : List String),
      r.Scripted roles ∧ r.engine.tasks.Sound → (r.visit name).1 = .ok next →
        (r.visit name).2.Scripted roles ∧ (r.visit name).2.engine.tasks.Sound :=
    fun r name _ _ first _ => ⟨first.1.of_kin (kin_visit r name), sound_visit first.2 name⟩
  obtain ⟨r', name, -, ⟨scripted', sound'⟩, fails⟩ := exists_visit_of_advance
    (P := fun r _ => r.Scripted roles ∧ r.engine.tasks.Sound) step ⟨scripted, sound⟩ failed
  rcases hindrance_of_visit scripted' sound' fails with hinders | ⟨-, -, message, rfl⟩
  · exact hinders.not_ordinary
  · exact WorkflowError.not_ordinary_of_fatal rfl

/-- Handing a task to somebody fails only by a listener. -/
theorem not_ordinary_of_transfer {t : Task} {c : Context} {users : List String}
    (scripted : r.Scripted roles) (twin : c.Twin roles c) (somebody : users ≠ [])
    (failed : (r.transfer t c users).1 = .error err) : ¬ err.Ordinary := by
  unfold transfer at failed
  rw [if_neg (by simpa using somebody)] at failed
  simp only [Engine.insertTask_eq] at failed
  generalize stored : ({ r.engine with tasks := r.engine.tasks.insert _ } :
    Engine TaskTable EventLog) = e at failed
  have steady : r.engine.Steady e := stored ▸ ⟨rfl, rfl, rfl⟩
  generalize handed : ({ c with action := none, newTasks := [r.engine.tasks.fresh _] } :
    Context) = c' at failed
  have definition : c'.definition = c.definition := handed ▸ rfl
  have current : c'.current = c.current := handed ▸ rfl
  refine Engine.not_ordinary_of_notify TaskEvent.create (c := c')
    (scripted.engine.of_steady steady) (Context.twin_self (definition ▸ twin.definition) ?_) ?_
  · intro t' there
    have related := twin.current
    rw [← current, there] at related
    cases related with
    | some own => exact own
  · rcases answer : e.notify TaskEvent.create c' with ⟨err' | ⟨⟩, _⟩
    · rw [answer] at failed
      cases failed
      rfl
    · rw [answer] at failed
      cases failed

/-- An action that nothing follows from, although its row has been closed. -/
def Barred (spec : ActionSpec) : Prop :=
  spec.action = .start ∨ spec.action = .transfer ∧ spec.transferTo = []

/-- Going on after an approved task fails only by a listener or by the fault of the definition. -/
theorem not_ordinary_of_approved {t : Task} {c : Context} {taskId : Int} {spec : ActionSpec}
    (scripted : r.Scripted roles) (sound : r.engine.tasks.Sound)
    (approves : spec.action = .approve ∨ spec.action = .complete)
    (failed : r.followUp t c taskId spec = (.error (.failed err), r')) : ¬ err.Ordinary := by
  have known := Processor.next_cases t c r.engine
  have same := engine_next (Processor.ofTask t) t c r.engine
  unfold followUp at failed
  rcases approves with action | action
  all_goals
    rw [action] at failed
    dsimp only at failed
    rcases answer : (Processor.ofTask t).next t c r.engine with ⟨err' | ⟨_ | ⟨name, rest⟩⟩, e⟩
    · rw [answer] at known
      rcases known with on | waits
      · cases on
      · cases waits
    · rw [answer] at failed
      cases failed
    · rw [answer] at failed same
      dsimp only at failed same
      rw [show ({ r with engine := e } : Replay) = r by rw [same]] at failed
      rcases went : r.advance (name :: rest) with ⟨halt | entered, r''⟩
      · rw [went] at failed
        cases failed
        exact not_ordinary_of_advance scripted sound (congrArg Prod.fst went)
      · rw [went] at failed
        cases failed

/-- Closing the process after an action fails only by a listener. -/
theorem not_ordinary_of_closeAfter {taskId : Int} {status : ProcessStatus} {event : ProcessEvent}
    {word : String} (scripted : r.Scripted roles)
    (failed : r.closeAfter taskId status event word = (.error (.failed err), r')) :
    ¬ err.Ordinary := by
  unfold closeAfter at failed
  rcases closed : r.close status event with ⟨err' | ⟨⟩, r''⟩
  · rw [closed] at failed
    cases failed
    exact (hindrance_of_close status event scripted (congrArg Prod.fst closed)).not_ordinary
  · rw [closed] at failed
    cases failed

/-- What follows from an action is refused only if nothing can. -/
theorem followUp_of_ordinary {t : Task} {c : Context} {taskId : Int} {spec : ActionSpec}
    (scripted : r.Scripted roles) (sound : r.engine.tasks.Sound) (twin : c.Twin roles c)
    (failed : r.followUp t c taskId spec = (.error (.failed err), r')) (ordinary : err.Ordinary) :
    Barred spec ∧ r' = r := by
  have closes : ∀ status event word,
      r.closeAfter taskId status event word ≠ (.error (.failed err), r') :=
    fun _ _ _ answer => not_ordinary_of_closeAfter scripted answer ordinary
  cases action : spec.action with
  | approve =>
      exact (not_ordinary_of_approved scripted sound (Or.inl action) failed ordinary).elim
  | complete =>
      exact (not_ordinary_of_approved scripted sound (Or.inr action) failed ordinary).elim
  | reject =>
      simp only [followUp, action] at failed
      exact (closes _ _ _ failed).elim
  | cancel =>
      simp only [followUp, action] at failed
      exact (closes _ _ _ failed).elim
  | terminate =>
      simp only [followUp, action] at failed
      exact (closes _ _ _ failed).elim
  | start =>
      simp only [followUp, action] at failed
      cases failed
      exact ⟨Or.inl action, rfl⟩
  | transfer =>
      simp only [followUp, action] at failed
      by_cases nobody : spec.transferTo = []
      · rw [nobody] at failed
        cases failed
        exact ⟨Or.inr ⟨action, nobody⟩, rfl⟩
      · rcases handed : r.transfer t c spec.transferTo with ⟨err' | id, r''⟩
        · rw [handed] at failed
          cases failed
          exact (not_ordinary_of_transfer scripted twin nobody (congrArg Prod.fst handed)
            ordinary).elim
        · rw [handed] at failed
          cases failed

/-- The rows, the process, and what has been observed and submitted are as they were. -/
structure Unchanged (r r' : Replay) : Prop where
  tasks : r'.engine.tasks = r.engine.tasks
  process : r'.process = r.process
  trace : r'.engine.trace = r.engine.trace
  pool : r'.engine.pool = r.engine.pool

/-- An action closes its row before it turns out that nothing follows from it. -/
def ActsFirst (r : Replay) (spec : ActionSpec) : Prop :=
  Barred spec ∧ ∃ t row done, r.target spec = .ok (t, row) ∧
    ((Processor.ofTask t).complete (r.actionContext spec t row) r.engine).result = .ok done

/-- A step that is refused after its row has been closed is one that nothing follows from. -/
theorem barred_of_completed {spec : ActionSpec} {t : Task} {row : TaskRow} {yes : Bool}
    {c : Context} {e : Engine TaskTable EventLog} (scripted : r.Scripted roles)
    (sound : r.engine.tasks.Sound) (target : r.target spec = .ok (t, row))
    (done : (Processor.ofTask t).complete (r.actionContext spec t row) r.engine = ⟨.ok yes, c, e⟩)
    (failed : r.apply spec = (.error (.failed err), r')) (ordinary : err.Ordinary) :
    Barred spec ∧ r' = { r with engine := e } ∧
      ∃ closed, r.engine.tasks.ClosedBy e.tasks row closed ∧
        c = (r.actionContext spec t row).withRow closed := by
  have targets := targets_of_target target
  have twin := scripted.actionContext targets.task spec row
  have cases' := (Processor.ofTask t).complete_cases sound scripted.engine twin rfl targets.member
  have steady := (Processor.ofTask t).steady_complete (r.actionContext spec t row) r.engine
  rw [done] at cases' steady
  rcases cases' with ⟨_, no, -⟩ | ⟨closed, by_, context, -⟩
  · cases no
  · have context : c = (r.actionContext spec t row).withRow closed := context
    have kept : ({ r with engine := e } : Replay).Scripted roles :=
      ⟨scripted.engine.of_steady steady, scripted.definition⟩
    have later : e.tasks.Sound :=
      (TaskTable.Moves.grows (Relation.ReflTransGen.single by_.move) sound).1
    have twin' := scripted.actionContext targets.task spec closed
    rw [apply_of_target target done, context] at failed
    obtain ⟨barred, same⟩ := followUp_of_ordinary kept later twin' failed ordinary
    exact ⟨barred, same, closed, by_, context⟩

/-- A refused step has changed something exactly when its action has acted first. -/
theorem unchanged_iff_of_refused {spec : ActionSpec} (scripted : r.Scripted roles)
    (sound : r.engine.tasks.Sound) (failed : r.apply spec = (.error (.failed err), r'))
    (ordinary : err.Ordinary) : r.Unchanged r' ↔ ¬ r.ActsFirst spec := by
  cases target : r.target spec with
  | error err' =>
      rw [apply_of_untargeted target] at failed
      cases failed
      refine iff_of_true ⟨rfl, rfl, rfl, rfl⟩ ?_
      rintro ⟨-, t, row, done, found, -⟩
      rw [target] at found
      cases found
  | ok found =>
      obtain ⟨t, row⟩ := found
      have targets := targets_of_target target
      have twin := scripted.actionContext targets.task spec row
      have cases' :=
        (Processor.ofTask t).complete_cases sound scripted.engine twin rfl targets.member
      rcases done : (Processor.ofTask t).complete (r.actionContext spec t row) r.engine with
        ⟨err' | yes, c, e⟩
      · rw [apply_of_target target done] at failed
        rw [done] at cases'
        cases failed
        rcases cases' with ⟨_, -, same⟩ | ⟨closed, -, -, spoken⟩
        · refine iff_of_true ?_ ?_
          · rw [show e = r.engine from same]
            exact ⟨rfl, rfl, rfl, rfl⟩
          · rintro ⟨-, t', row', ok, found, accepted⟩
            rw [target] at found
            cases found
            rw [done] at accepted
            cases accepted
        · exact (spoken _ rfl ordinary).elim
      · obtain ⟨barred, rfl, closed, by_, -⟩ :=
          barred_of_completed scripted sound target done failed ordinary
        refine iff_of_false ?_ ?_
        · intro unchanged
          have tasks : e.tasks = r.engine.tasks := unchanged.tasks
          have added := by_.added
          rw [tasks, TaskTable.added_self] at added
          cases added
        · intro never
          exact never ⟨barred, t, row, yes, target, by rw [done]⟩

end Replay

/-! ## Accepted scenarios -/

/-- In a replay of an accepted scenario, whatever has been done before, a step that is refused
leaves the rows and the process as they were and dispatches nothing, exactly when its action has not
acted before it was refused. -/
theorem Scenario.refused_step_iff {s : Scenario} {now : Instant} {b : BuiltScenario}
    (built : s.build now = .ok b) (config : WorkflowConfig) (time : Instant)
    (actions : List ActionSpec) {r r' : Replay} {rest : List ActionSpec}
    (leads : Moment.Leads (.begun (b.replay config time) actions) ⟨r, .resting, rest⟩)
    {spec : ActionSpec} {err : WorkflowError}
    (failed : r.apply spec = (.error (.failed err), r')) (ordinary : err.Ordinary) :
    r.Unchanged r' ↔ ¬ r.ActsFirst spec := by
  obtain ⟨orderly, -⟩ := Moment.orderly_begun built config time actions
  have scripted := Moment.Leads.scripted leads orderly (scripted_of_build built config time)
  exact Replay.unchanged_iff_of_refused scripted (Moment.Leads.orderly leads orderly).sound failed
    ordinary

/-! ## A step that is refused in time, and one that is refused too late -/

/-- What an action is refused with when nothing is under way. -/
def Moment.refusal? (m : Moment) (spec : ActionSpec) : Option WorkflowError :=
  match m.phase, (m.replay.apply spec).1 with
  | .resting, .error (.failed err) => some err
  | _, _ => none

theorem Moment.apply_of_refusal? {m : Moment} {spec : ActionSpec} {err : WorkflowError}
    (refused : m.refusal? spec = some err) :
    m = ⟨m.replay, .resting, m.actions⟩ ∧
      m.replay.apply spec = (.error (.failed err), (m.replay.apply spec).2) := by
  obtain ⟨r, phase, actions⟩ := m
  unfold refusal? at refused
  dsimp only at refused ⊢
  split at refused
  · rename_i failed
    cases refused
    exact ⟨rfl, Prod.ext failed rfl⟩
  · cases refused

namespace Scenario

/-- A stranger approves. -/
def byStranger : ActionSpec :=
  ⟨"review", "mallory", .approve, none, none, []⟩

/-- The approver hands the task on without saying to whom. -/
def toNobody : ActionSpec :=
  ⟨"review", "alice", .transfer, none, none, []⟩

/-- The stranger is refused, and nothing has changed. -/
theorem straight_refuses_stranger : ∃ b r r' rest, straight.build default = .ok b ∧
    Moment.Leads (.begun (b.replay .standard default) b.actions) ⟨r, .resting, rest⟩ ∧
    r.apply byStranger = (.error (.failed (.unauthorized "mallory" "alice")), r') ∧
    r.Unchanged r' := by
  have refused : straight.moment?.bind (fun m => (m.after 3).refusal? byStranger) =
      some (.unauthorized "mallory" "alice") := by
    decide +kernel
  obtain ⟨m, there, refused⟩ := Option.bind_eq_some_iff.1 refused
  obtain ⟨b, built, rfl⟩ := build_of_moment? there
  obtain ⟨resting, failed⟩ := Moment.apply_of_refusal? refused
  have leads := Moment.leads_after 3 (.begun (b.replay .standard default) b.actions)
  rw [resting] at leads
  refine ⟨b, _, _, _, built, leads, failed,
    (refused_step_iff built _ _ _ leads failed ⟨rfl, by rintro _ _ ⟨⟩⟩).2 ?_⟩
  rintro ⟨start | ⟨transfer, -⟩, -⟩
  · cases start
  · cases transfer

/-- The transfer to nobody is refused by the replay itself, and the row has been handed on. -/
theorem straight_transfers_to_nobody : ∃ b r r' rest err, straight.build default = .ok b ∧
    Moment.Leads (.begun (b.replay .standard default) b.actions) ⟨r, .resting, rest⟩ ∧
    r.apply toNobody = (.error (.failed err), r') ∧ err.Ordinary ∧ ¬ r.Unchanged r' := by
  have refused : straight.moment?.bind (fun m => ((m.after 3).refusal? toNobody).map fun err =>
      (err, (m.after 3).replay.engine.tasks.rows.map (·.status),
        ((m.after 3).replay.apply toNobody).2.engine.tasks.rows.map (·.status))) =
      some (.invalidAction "transfer needs at least one user", [.pending], [.transferred]) := by
    decide +kernel
  obtain ⟨m, there, refused⟩ := Option.bind_eq_some_iff.1 refused
  obtain ⟨err, refused, moved⟩ := Option.map_eq_some_iff.1 refused
  simp only [Prod.mk.injEq] at moved
  obtain ⟨rfl, pending, transferred⟩ := moved
  obtain ⟨b, built, rfl⟩ := build_of_moment? there
  obtain ⟨resting, failed⟩ := Moment.apply_of_refusal? refused
  have leads := Moment.leads_after 3 (.begun (b.replay .standard default) b.actions)
  rw [resting] at leads
  refine ⟨b, _, _, _, _, built, leads, failed, ⟨rfl, by rintro _ _ ⟨⟩⟩, ?_⟩
  intro unchanged
  rw [unchanged.tasks, pending] at transferred
  cases transferred

end Scenario

end ApprovalFlow
