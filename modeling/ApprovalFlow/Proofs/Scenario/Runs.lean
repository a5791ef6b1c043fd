import ApprovalFlow.Proofs.Floor
import ApprovalFlow.Proofs.Replay.Ending
import ApprovalFlow.Proofs.Replay.Variants

/-!
# Asynchronous listeners and the outcome of a replay

What a replay reports does not depend on how many workers there are, on the room in their queues, on
the order in which jobs are run, or on what asynchronous listeners answer, but for the rows of those
listeners in the event log.

* `Replay.Yields`: what a replay may come to when its caller and the workers go on in any order.
* `Replay.Yields.report_of_reaches`: of all that only the order of the event log and its times are
  open.
* `Scenario.runs_agree`: two runs of two variants of a scenario report alike.
-/

namespace ApprovalFlow

/-! ## What a replay may come to -/

/-- What a replay may come to. The caller does what the replay does, one thing after the other,
while workers take what it leaves to the pools; when all is done, the report is drawn up. That what
the caller does can be listed beforehand is part of `Reaches`: it is the same whatever the workers
have done to the log and to the pools by then. -/
inductive Replay.Yields (r : Replay) (actions : List ActionSpec) :
    Except ReplayFailure ReplayReport → Prop
  | fails {failure : ReplayFailure} : r.Fails (·.play actions) failure →
    Yields r actions (.error failure)
  | reports {fx : List Effect} {q : Replay} {f : Floor} : r.Reaches fx (·.play actions) q →
    Floor.Steps ⟨r.engine, fx, []⟩ f → f.Done →
    Yields r actions (.ok (q.withEngine f.engine).report)

/-- The task rows are the caller's, and the event log has one row for each run, but for its number
and its times. -/
structure ReplayReport.Settles (q : Replay) (fx : List Effect) (p : ReplayReport) : Prop where
  process : p.process = q.definition.name
  processId : p.processId = q.process.id
  status : p.status = q.process.status
  steps : p.steps = q.steps
  tasks : p.tasks = q.engine.tasks.ofProcess q.process.id
  events : (p.events.map EventRow.erased).Perm
    (((fx.filterMap Effect.run?).map Invocation.record).filter (·.processId == q.process.id))

namespace Replay

variable {r p q : Replay} {actions : List ActionSpec} {fx gx : List Effect} {f : Floor}
  {result : Except ReplayFailure ReplayReport} {failure : ReplayFailure}
  {call : Replay → Except ReplayFailure Replay}

/-- When all is done there is nothing to wait for. -/
theorem drain_of_done {e : Engine TaskTable EventLog} (opening : Floor.Opening e)
    (steps : Floor.Steps ⟨e, fx, []⟩ f) (done : f.Done) : f.engine.drain = f.engine := by
  have sound := (opening.sound fx).steps steps
  have idle : ∀ family, f.engine.drainPool family = f.engine := by
    intro family
    unfold Engine.drainPool
    rw [((sound.tidy family).eq_nil_of_isIdle (done.idle family)).1]
    rfl
  unfold Engine.drain
  rw [idle, idle]

/-- In a call's own view the task rows are those that it leaves in the end. -/
theorem tasks_performAll {e : Engine TaskTable EventLog} (opening : Floor.Opening e)
    (fx : List Effect) : (e.performAll fx).tasks = fx.foldl Effect.table e.tasks := by
  obtain ⟨steps, done⟩ := opening.steps_sequential fx
  rw [← (opening.of_done steps done).1]
  exact (Engine.heard_drain (e.performAll fx)).tasks.symm

/-- The report on what has come of a replay in whatever order. -/
theorem settles_of_done (opening : Floor.Opening r.engine)
    (engine : q.engine = r.engine.performAll fx) (steps : Floor.Steps ⟨r.engine, fx, []⟩ f)
    (done : f.Done) : (q.withEngine f.engine).report.Settles q fx := by
  have idle := drain_of_done opening steps done
  obtain ⟨rows, log⟩ := opening.of_done steps done
  refine ⟨rfl, rfl, rfl, rfl, ?_, ?_⟩
  · change f.engine.drain.tasks.ofProcess q.process.id = _
    rw [idle, rows, engine, tasks_performAll opening]
  · change ((f.engine.drain.events.ofProcess q.process.id).map EventRow.erased).Perm _
    rw [idle]
    have own := log.filter (·.processId == q.process.id)
    rw [List.filter_map] at own
    exact own

theorem Reaches.not_fails (reached : r.Reaches fx call q) : ¬ r.Fails call failure := by
  intro failed
  have both := (reached.reaches r.engine).symm.trans (failed r.engine)
  cases both

theorem Fails.eq {other : ReplayFailure} (failed : r.Fails call failure)
    (failed' : r.Fails call other) : other = failure := by
  have both := (failed r.engine).symm.trans (failed' r.engine)
  cases both
  rfl

/-- What a replay comes to is settled, and what it does is so far as it leaves traces. -/
theorem Reaches.unique (reached : r.Reaches fx call q) (reached' : r.Reaches gx call p) :
    p = q ∧ r.engine.performAll gx = r.engine.performAll fx := by
  -- Any engine would do to compare the two; the replay's own is at hand.
  have both := Except.ok.inj ((reached.reaches r.engine).symm.trans (reached'.reaches r.engine))
  have engine : r.engine.performAll gx = r.engine.performAll fx :=
    (congrArg Replay.engine both).symm
  refine ⟨?_, engine⟩
  have own : p.engine = q.engine := by rw [reached.engine, reached'.engine, engine]
  have rest : q = p.withEngine q.engine := congrArg (·.withEngine q.engine) both
  rw [← own] at rest
  exact rest.symm

/-- Two lists of things to do that come to the same make the same runs, in some order. -/
theorem perm_records {e : Engine TaskTable EventLog} (opening : Floor.Opening e)
    (same : e.performAll gx = e.performAll fx) :
    ((gx.filterMap Effect.run?).map Invocation.record).Perm
      ((fx.filterMap Effect.run?).map Invocation.record) := by
  -- One engine is left, so one log when it has been drained, and that log settles either account.
  obtain ⟨steps, done⟩ := opening.steps_sequential fx
  obtain ⟨steps', done'⟩ := opening.steps_sequential gx
  have one := (opening.of_done steps done).2
  have other := (opening.of_done steps' done').2
  rw [same] at other
  exact other.symm.trans one

theorem Yields.of_fails (failed : r.Fails (·.play actions) failure)
    (yields : r.Yields actions result) : result = .error failure := by
  cases yields with
  | fails failed' => rw [failed.eq failed']
  | reports reached => exact (reached.not_fails failed).elim

/-- Of the report on a replay nothing is open but the order of the event log and its times. -/
theorem Yields.report_of_reaches (opening : Floor.Opening r.engine)
    (reached : r.Reaches fx (·.play actions) q) (yields : r.Yields actions result) :
    ∃ report, result = .ok report ∧ report.Settles q fx := by
  cases yields with
  | fails failed => exact (reached.not_fails failed).elim
  | @reports gx p f reached' steps done =>
      obtain ⟨rfl, same⟩ := reached.unique reached'
      have settles := settles_of_done opening reached'.engine steps done
      refine ⟨_, rfl, { settles with events := ?_ }⟩
      exact settles.events.trans ((perm_records opening same).filter _)

/-- A caller that waits for its workers at the end is one case. -/
theorem yields_run (opening : Floor.Opening r.engine)
    (goes : (∃ failure, r.Fails (·.play actions) failure) ∨
      ∃ fx q, r.Reaches fx (·.play actions) q) : r.Yields actions (r.run actions) := by
  rw [run_eq]
  rcases goes with ⟨failure, failed⟩ | ⟨fx, q, reached⟩
  · have own : r.play actions = .error failure := failed r.engine
    rw [own]
    exact .fails failed
  · have own : r.play actions = .ok (q.withEngine (r.engine.performAll fx)) :=
      reached.reaches r.engine
    obtain ⟨steps, done⟩ := opening.steps_sequential fx
    have yields := Yields.reports reached steps done
    have same : (q.withEngine (r.engine.performAll fx).drain).report =
        (q.withEngine (r.engine.performAll fx)).report := by
      unfold report
      dsimp only [withEngine]
      rw [drain_of_done opening steps done]
    rw [same] at yields
    rw [own]
    exact yields

end Replay

/-! ## Rows of the event log in two runs -/

/-- A row of the event log that records what a listener of a scenario has answered. -/
structure EventRow.Records (l : ListenerSpec) (row : EventRow) : Prop where
  listener : row.listener = l.name
  event : row.event = Text.toUpper l.event
  isAsync : row.isAsync = l.isAsync
  status : row.status = if l.fail.isNone then .success else .failed
  remark : row.remark = l.fail

/-- Two rows that record runs of listeners in one place of two scenarios. But for their numbers and
their times they are the same, except for the state and the remark if the listener is asynchronous
and answers otherwise. -/
structure EventRow.Counterpart (s s' : Scenario) (row row' : EventRow) : Prop where
  same : row'.erased = { row.erased with status := row'.status, remark := row'.remark }
  listeners : ∃ l l', (l, l') ∈ s.listeners.zip s'.listeners ∧ row.Records l ∧ row'.Records l' ∧
    (row'.erased = row.erased ∨ l.isAsync = true ∧ l'.fail ≠ l.fail)

/-- Two reports that say the same, but for times, the order of the event log, and the rows of
asynchronous listeners that answer otherwise. -/
structure ReplayReport.Agrees (s s' : Scenario) (p p' : ReplayReport) : Prop where
  process : p'.process = p.process
  processId : p'.processId = p.processId
  status : p'.status = p.status
  steps : p'.steps = p.steps
  tasks : List.Forall₂ TaskRow.Alike p.tasks p'.tasks
  events : ∃ rows, rows.Perm p'.events ∧ List.Forall₂ (EventRow.Counterpart s s') p.events rows

section Rows

variable {s s' : Scenario} {row row' : EventRow} {l : ListenerSpec}

theorem EventRow.Records.of_erased (records : row.erased.Records l) : row.Records l :=
  ⟨records.listener, records.event, records.isAsync, records.status, records.remark⟩

theorem EventRow.erased_erased (row : EventRow) : row.erased.erased = row.erased := by
  unfold erased
  rw [Option.map_map]
  rfl

theorem EventRow.Counterpart.of_erased (both : row.erased.Counterpart s s' row'.erased) :
    row.Counterpart s s' row' := by
  obtain ⟨same, l, l', role, records, records', differ⟩ := both
  rw [erased_erased, erased_erased] at same differ
  exact ⟨same, l, l', role, records.of_erased, records'.of_erased, differ⟩

theorem Invocation.erased_record (i : Invocation) : i.record.erased = i.record := by
  unfold record
  cases i.outcome <;> rfl

/-- The row of a run of a listener of a scenario. -/
theorem Invocation.Of.record_eq {i : Invocation} (own : i.Of l) :
    i.record = { i.opening default with
      status := if l.fail.isNone then .success else .failed
      endTime := some default
      remark := l.fail } := by
  unfold record
  rw [own.outcome]
  unfold ListenerSpec.outcome
  cases l.fail <;> rfl

theorem Invocation.Of.records {i : Invocation} (own : i.Of l) : i.record.Records l := by
  rw [own.record_eq]
  exact ⟨own.listener, own.event, own.isAsync, rfl, rfl⟩

/-- The rows of two runs of listeners in one place. -/
theorem Invocation.Twin.counterpart {i i' : Invocation}
    (twin : i.Twin (fun l l' => (l, l') ∈ s.listeners.zip s'.listeners) i') :
    i.record.Counterpart s s' i'.record := by
  obtain ⟨l, l', role, variant, own, own'⟩ := twin.role
  have opening : i'.opening default = i.opening default := twin.opening default default
  refine ⟨?_, l, l', role, own.records, own'.records, ?_⟩
  · rw [erased_record, erased_record, own.record_eq, own'.record_eq, opening]
  · rw [erased_record, erased_record, own.record_eq, own'.record_eq, opening]
    by_cases same : l'.fail = l.fail
    · rw [same]
      exact Or.inl rfl
    · refine Or.inr ⟨?_, same⟩
      by_contra inLine
      exact same (variant.inLine (by simpa using inLine))

/-- Two lists with corresponding members may be put in other orders. -/
theorem forall₂_of_perm {α β γ δ : Type} {R : γ → δ → Prop} {f : α → γ} {g : β → δ} {xs : List α}
    {ys : List β} {left : List γ} {right : List δ} (order : (xs.map f).Perm left)
    (both : List.Forall₂ R left right) (order' : (ys.map g).Perm right) :
    ∃ zs, zs.Perm ys ∧ List.Forall₂ (fun x y => R (f x) (g y)) xs zs := by
  obtain ⟨front, related, moved⟩ := List.perm_comp_forall₂ order both
  have images : List.Forall₂ (fun d y => d = g y) (ys.map g) ys :=
    List.forall₂_map_left_iff.2 (List.forall₂_same.2 fun _ _ => rfl)
  obtain ⟨zs, same, order⟩ := List.perm_comp_forall₂ (moved.trans order'.symm) images
  have names : front = zs.map g := by
    rw [← List.forall₂_eq_eq_eq, List.forall₂_map_right_iff]
    exact same
  rw [names, List.forall₂_map_left_iff, List.forall₂_map_right_iff] at related
  exact ⟨zs, order, related⟩

theorem runs_twin {roles : ListenerSpec → ListenerSpec → Prop} {fx fx' : List Effect}
    (twins : List.Forall₂ (Effect.Twin roles) fx fx') :
    List.Forall₂ (Invocation.Twin roles) (fx.filterMap Effect.run?)
      (fx'.filterMap Effect.run?) := by
  induction twins with
  | nil => exact .nil
  | cons first _ ih =>
      cases first with
      | noted => exact ih
      | stored => exact ih
      | ran twin => exact .cons twin ih
      | submitted twin => exact .cons twin ih

end Rows

/-! ## Two runs -/

/-- Two replays that do alike report alike. -/
theorem ReplayReport.Settles.agrees {s s' : Scenario} {q q' : Replay} {fx fx' : List Effect}
    {p p' : ReplayReport} (settles : p.Settles q fx) (settles' : p'.Settles q' fx')
    (twins : List.Forall₂
      (Effect.Twin fun l l' => (l, l') ∈ s.listeners.zip s'.listeners) fx fx')
    (twin : q.Twin (fun l l' => (l, l') ∈ s.listeners.zip s'.listeners) q') :
    p.Agrees s s' p' := by
  have name : q'.definition.name = q.definition.name := by rw [twin.definition.same]
  have id := twin.process.id_eq
  have records : List.Forall₂ (EventRow.Counterpart s s')
      ((fx.filterMap Effect.run?).map Invocation.record)
      ((fx'.filterMap Effect.run?).map Invocation.record) := by
    rw [List.forall₂_map_left_iff, List.forall₂_map_right_iff]
    exact (runs_twin twins).imp fun _ _ both => both.counterpart
  have own : List.Forall₂ (EventRow.Counterpart s s')
      (((fx.filterMap Effect.run?).map Invocation.record).filter
        (·.processId == q.process.id))
      (((fx'.filterMap Effect.run?).map Invocation.record).filter
        (·.processId == q'.process.id)) := by
    refine List.rel_filter ?_ records
    intro row row' both
    have fields := congrArg EventRow.processId both.same
    have place : row'.processId = row.processId := fields
    dsimp only
    rw [place, id]
  obtain ⟨rows, order, both⟩ := forall₂_of_perm settles.events own settles'.events
  refine ⟨?_, ?_, ?_, ?_, ?_, rows, order, both.imp fun _ _ => EventRow.Counterpart.of_erased⟩
  · rw [settles.process, settles'.process, name]
  · rw [settles.processId, settles'.processId, id]
  · rw [settles.status, settles'.status, twin.process.status_eq]
  · rw [settles.steps, settles'.steps, twin.steps]
  · rw [settles.tasks, settles'.tasks, id]
    exact twin.engine.tasks.ofProcess q.process.id

/-- A replay of a scenario begins with an empty log and pools that have not been used. -/
theorem BuiltScenario.opening_replay (b : BuiltScenario) (config : WorkflowConfig)
    (time : Instant) : Floor.Opening (b.replay config time).engine :=
  ⟨rfl, fun family => by cases family <;> exact ⟨_, rfl⟩⟩

theorem BuiltScenario.Twin.replay {roles : ListenerSpec → ListenerSpec → Prop}
    {b b' : BuiltScenario} (twin : b.Twin roles b') (process : b.process.Alike b'.process)
    {config config' : WorkflowConfig} (operator : config'.systemOperator = config.systemOperator)
    (time time' : Instant) : (b.replay config time).Twin roles (b'.replay config' time') :=
  ⟨⟨⟨twin.processManager, twin.taskManager, operator⟩, twin.catalogue, .nil⟩, twin.definition,
    process, twin.form, rfl⟩

theorem Scenario.alike_processRow (s : Scenario) (now now' : Instant) :
    (s.processRow now).Alike (s.processRow now') :=
  ⟨rfl, rfl⟩

/-- A replay whose caller waits for the workers at the end is one case. -/
theorem Scenario.yields_run {s : Scenario} {now : Instant} {b : BuiltScenario}
    (built : s.build now = .ok b) (config : WorkflowConfig) (time : Instant) :
    (b.replay config time).Yields b.actions ((b.replay config time).run b.actions) := by
  obtain ⟨b', built', twin, row, row'⟩ := twin_of_build (Variant.refl s) built now
  have same : b' = b := Except.ok.inj (built'.symm.trans built)
  rw [same] at twin row'
  have process : b.process.Alike b.process := by
    rw [row]
    exact s.alike_processRow now now
  refine Replay.yields_run (b.opening_replay config time) ?_
  cases Replay.match_play (twin.replay process rfl time time) b.actions with
  | fails failed => exact Or.inl ⟨_, failed⟩
  | reaches reached => exact Or.inr ⟨_, _, reached⟩

/-- The workers of a replay, the room in their queues, the order in which they run what is left to
them, and what asynchronous listeners answer make no difference to what a replay of an accepted
scenario reports, but for the rows that record those answers. -/
theorem Scenario.runs_agree {s s' : Scenario} (variant : s.Variant s') {now : Instant}
    {b : BuiltScenario} (built : s.build now = .ok b) (now' : Instant) :
    ∃ b', s'.build now' = .ok b' ∧
      ∀ config config' : WorkflowConfig, config'.systemOperator = config.systemOperator →
      ∀ (time time' : Instant) (result result' : Except ReplayFailure ReplayReport),
        (b.replay config time).Yields b.actions result →
        (b'.replay config' time').Yields b'.actions result' →
        Except.Rel (ReplayReport.Agrees s s') result result' := by
  obtain ⟨b', built', twin, row, row'⟩ := twin_of_build variant built now'
  refine ⟨b', built', ?_⟩
  intro config config' operator time time' result result' yields yields'
  have process : b.process.Alike b'.process := by
    rw [row, row']
    exact s.alike_processRow now now'
  rw [twin.actions] at yields'
  cases Replay.match_play (twin.replay process operator time time') b.actions with
  | fails failed failed' =>
      rw [yields.of_fails failed, yields'.of_fails failed']
      exact .error _
  | reaches reached reached' effects ends =>
      obtain ⟨p, rfl, settles⟩ := yields.report_of_reaches (b.opening_replay config time) reached
      obtain ⟨p', rfl, settles'⟩ :=
        yields'.report_of_reaches (b'.opening_replay config' time') reached'
      exact .ok (settles.agrees settles' effects ends)

/-! ## A bell that rings and one that does not -/

namespace Scenario

/-- What a replay of a scenario reports, if it is accepted and does not fail. -/
def report? (s : Scenario) (config : WorkflowConfig) : Option ReplayReport :=
  (s.build default).toOption.bind fun b =>
    ((b.replay config default).run b.actions).toOption

theorem run_of_report? {s : Scenario} {config : WorkflowConfig} {p : ReplayReport}
    (there : s.report? config = some p) : ∃ b, s.build default = .ok b ∧
      (b.replay config default).run b.actions = .ok p := by
  unfold report? at there
  cases built : s.build default with
  | error err =>
      rw [built] at there
      cases there
  | ok b =>
      rw [built] at there
      refine ⟨b, rfl, ?_⟩
      dsimp only [Except.toOption, Option.bind_some] at there
      cases ran : (b.replay config default).run b.actions with
      | error failure =>
          rw [ran] at there
          cases there
      | ok p' =>
          rw [ran] at there
          cases there
          rfl

/-- One task that one person approves. When the process begins a mail is sent and a bell rung, both
in the background. -/
def belled (bell : Option String) : Scenario :=
  { straight with listeners := [⟨"mail", .process, "CREATE", true, none⟩,
      ⟨"bell", .process, "CREATE", true, bell⟩, ⟨"archive", .process, "COMPLETE", false, none⟩] }

/-- The bell does not ring, and since the queue has room for one job only, it is the caller who
finds out. The reports agree nevertheless. -/
theorem belled_runs_agree : ∃ b b' p p', (belled none).build default = .ok b ∧
    (belled (some "out of order")).build default = .ok b' ∧
    (b.replay .standard default).run b.actions = .ok p ∧
    (b'.replay ⟨1, some 1, "admin"⟩ default).run b'.actions = .ok p' ∧
    p.events.map (·.listener) = ["archive", "mail", "bell"] ∧
    p'.events.map (·.listener) = ["bell", "archive", "mail"] ∧
    p.Agrees (belled none) (belled (some "out of order")) p' := by
  have variant : (belled none).Variant (belled (some "out of order")) := by
    refine ⟨rfl, ?_⟩
    exact .cons (.refl _) (.cons ⟨rfl, by rintro ⟨⟩⟩ (.cons (.refl _) .nil))
  have ran : ((belled none).report? .standard).map (·.events.map (·.listener)) =
      some ["archive", "mail", "bell"] := by
    decide +kernel
  have ran' : ((belled (some "out of order")).report? ⟨1, some 1, "admin"⟩).map
      (·.events.map (·.listener)) = some ["bell", "archive", "mail"] := by
    decide +kernel
  obtain ⟨p, there, order⟩ := Option.map_eq_some_iff.1 ran
  obtain ⟨p', there', order'⟩ := Option.map_eq_some_iff.1 ran'
  obtain ⟨b, built, run⟩ := run_of_report? there
  obtain ⟨b', built', run'⟩ := run_of_report? there'
  obtain ⟨other, built'', agree⟩ := runs_agree variant built default
  have same : other = b' := Except.ok.inj (built''.symm.trans built')
  rw [same] at agree
  have both := agree .standard ⟨1, some 1, "admin"⟩ rfl default default _ _
    (yields_run built .standard default) (yields_run built' ⟨1, some 1, "admin"⟩ default)
  rw [run, run'] at both
  cases both with
  | ok agrees => exact ⟨b, b', p, p', built, built', run, run', order, order', agrees⟩

end Scenario

end ApprovalFlow
