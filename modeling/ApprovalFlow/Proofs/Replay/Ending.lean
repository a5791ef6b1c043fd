import ApprovalFlow.Proofs.Replay.Moves
import ApprovalFlow.Scenario.Basic

/-!
# How a process ends

A process that has left the state it works in never changes its state again
(`Moment.Leads.status_eq`). That it ends once takes more: a walk does not stop at the end, it goes
on with the names that are left in its queue. `Moment.EndsOnce` says that an end is dispatched once
at most and that no row is touched from then on, and `Moment.Orderly.endsOnce_iff` that this holds
exactly when nothing that a closed process could still enter is ever next in the queue. A report
shows the last moment (`Moment.exists_of_run`).
-/

namespace ApprovalFlow

namespace Replay

/-- A name that taking it off the queue does nothing with: it is not the end, and entering its task,
if there is one, is refused because nobody can act on it. -/
def Barren (r : Replay) (name : String) : Prop :=
  name ≠ ProcessDefinition.endName ∧ ∀ t, r.definition.task? name = some t →
    ∃ p, UserTask.part t = .ok p ∧
      UserTask.usableNames (p.assign ({ r.context with current := some t } : Context).snapshot) = []

theorem visit_of_barren {r : Replay} {name : String} (barren : r.Barren name) :
    ∃ err, r.visit name = (.error err, r) := by
  obtain ⟨goesOn, nobody⟩ := barren
  unfold visit
  rw [if_neg goesOn]
  unfold task
  cases found : r.definition.task? name with
  | none => exact ⟨_, rfl⟩
  | some t =>
      obtain ⟨p, isUser, none⟩ := nobody t found
      have kind : Processor.ofTask t = .user := by
        unfold UserTask.part Task.user? at isUser
        unfold Processor.ofTask
        cases kind : t.kind with
        | user => rfl
        | service =>
            rw [kind] at isUser
            cases isUser
      refine ⟨.emptyApprovers t.displayName, ?_⟩
      simp only [enter, kind, Processor.create, UserTask.create, isUser, none]
      rfl

/-- Taking any other name off the queue stores a row, unless it is the end. -/
theorem size_of_not_barren {r : Replay} (sound : r.engine.tasks.Sound) {name : String}
    (goesOn : name ≠ ProcessDefinition.endName) (fertile : ¬ r.Barren name) :
    r.engine.tasks.size < (r.visit name).2.engine.tasks.size := by
  have entered : ∀ t, (∀ p, UserTask.part t = .ok p → UserTask.usableNames
      (p.assign ({ r.context with current := some t } : Context).snapshot) ≠ []) →
      r.engine.tasks.size < (r.enter t).2.engine.tasks.size := by
    intro t somebody
    have later := (worked_entered sound t).engine.moves.size_le
    refine Nat.lt_of_lt_of_le ?_ later
    unfold Processor.ofTask
    cases kind : t.kind with
    | user p =>
        have isUser : UserTask.part t = .ok p := UserTask.part_of_kind kind
        exact UserTask.size_create (c := { r.context with current := some t }) isUser
          (somebody p isUser) r.engine
    | service part =>
        have isService : ServiceTask.check t = .ok () := ServiceTask.check_of_kind kind
        exact ServiceTask.size_create isService _ r.engine
  unfold visit
  rw [if_neg goesOn]
  unfold task
  cases found : r.definition.task? name with
  | none =>
      refine (fertile ⟨goesOn, ?_⟩).elim
      intro t there
      rw [found] at there
      cases there
  | some t =>
      refine entered t ?_
      intro p isUser none
      refine fertile ⟨goesOn, ?_⟩
      intro t' there
      rw [found] at there
      cases there
      exact ⟨p, isUser, none⟩

end Replay

namespace Moment

/-- The task table. -/
def table (m : Moment) : TaskTable :=
  m.replay.engine.tasks

/-- The state of the process. -/
def status (m : Moment) : ProcessStatus :=
  m.replay.process.status

/-- The ends that have been dispatched. -/
def ends (m : Moment) : List Dispatch :=
  endings m.replay.engine.trace

/-- What holds of every moment: no end has been dispatched as long as the process is open, and a
closed process has dispatched one and is at most walking on from it. -/
structure Orderly (m : Moment) : Prop where
  sound : m.table.Sound
  opened : m.status = .processing → m.ends = []
  closed : m.status ≠ .processing → m.ends ≠ [] ∧ m.phase.Over m.status

variable {m m' : Moment}

/-- A moment of a process that has not been closed. -/
theorem orderly_of_open (sound : m.table.Sound) (opened : m.status = .processing)
    (none : m.ends = []) : m.Orderly :=
  ⟨sound, fun _ => none, fun closed => (closed opened).elim⟩

/-- A move of an open process keeps it open and dispatches no end, or closes it, which dispatches
one and touches no row. -/
theorem Orderly.next_of_open (orderly : m.Orderly) (opened : m.status = .processing)
    (h : m.next = some m') :
    m'.Orderly ∧ (m'.status = .processing ∨ m'.table = m.table ∧ ∃ d, m'.ends = [d]) := by
  have none := orderly.opened opened
  have move := next_cases orderly.sound h
  have sound : m'.table.Sound := ((move.keeps orderly.sound).2.2.grows orderly.sound).1
  cases move with
  | works worked =>
      have status : m'.status = .processing :=
        (congrArg ProcessRow.status worked.process).trans opened
      exact ⟨orderly_of_open sound status (worked.engine.endings.trans none), Or.inl status⟩
  | @acts r spec actions t row target isUser =>
      have worked := worked_applied orderly.sound target actions
      refine ⟨orderly_of_open sound ?_ (worked.engine.endings.trans none), Or.inl ?_⟩
      · exact (congrArg ProcessRow.status worked.process).trans opened
      · exact (congrArg ProcessRow.status worked.process).trans opened
  | @ends m m' status final ended past =>
      obtain ⟨d, more⟩ := ended.endings
      have one : m'.ends = [d] := by
        rw [show m'.ends = m.ends ++ [d] from more, none, List.nil_append]
      have now : m'.status = status := ended.status
      refine ⟨⟨sound, ?_, ?_⟩, Or.inr ⟨ended.tasks, d, one⟩⟩
      · intro opened'
        exact (final (now.symm.trans opened')).elim
      · intro _
        rw [one, now]
        exact ⟨List.cons_ne_nil d [], past⟩

/-- The next name that a closed process would take off the queue. -/
def NextUp (m : Moment) (name : String) : Prop :=
  m.status ≠ .processing ∧ ∃ step before rest entered,
    m.phase = .walking step before (name :: rest) entered

/-- A walk that has come to the end and takes another name off the queue stays at the end. -/
theorem orderly_visited {r : Replay} (sound : r.engine.tasks.Sound)
    (completed : r.process.status = .completed) (ended : endings r.engine.trace ≠ [])
    (actions : List ActionSpec) (step before name : String) (rest entered : List String) :
    (visited actions step before rest entered (r.visit name)).Orderly ∧
      (visited actions step before rest entered (r.visit name)).status = .completed := by
  have past := over_visited actions step before rest entered (r.visit name)
  obtain ⟨steps, same⟩ := visited_replay actions step before rest entered (r.visit name)
  generalize visited actions step before rest entered (r.visit name) = m at past same ⊢
  have kept : (r.visit name).2.engine.tasks.Sound ∧ (r.visit name).2.process.status = .completed ∧
      endings (r.visit name).2.engine.trace ≠ [] := by
    by_cases goesOn : name = ProcessDefinition.endName
    · have again := Replay.ended_visit r
      rw [← goesOn] at again
      obtain ⟨d, more⟩ := again.endings
      refine ⟨again.tasks ▸ sound, again.status, ?_⟩
      rw [more]
      exact List.append_ne_nil_of_left_ne_nil ended [d]
    · have worked := Replay.worked_visit sound goesOn
      refine ⟨(worked.engine.moves.grows sound).1, ?_, ?_⟩
      · rw [worked.process, completed]
      · rw [worked.engine.endings]
        exact ended
  have status : m.status = .completed := by
    rw [Moment.status, same]
    exact kept.2.1
  refine ⟨⟨?_, ?_, ?_⟩, status⟩
  · rw [Moment.table, same]
    exact kept.1
  · intro opened
    rw [status] at opened
    cases opened
  · intro _
    rw [status]
    refine ⟨?_, past⟩
    rw [Moment.ends, same]
    exact kept.2.2

/-- A settled moment of a closed process stays as it is: every action is refused. -/
theorem next_of_settled (closed : m.status ≠ .processing) (settled : m.phase.Settled)
    (h : m.next = some m') :
    ∃ steps, m'.replay = { m.replay with steps := steps } ∧ m'.phase.Settled := by
  obtain ⟨r, phase, actions⟩ := m
  cases settled with
  | broken => cases h
  | resting =>
      cases actions with
      | nil => cases h
      | cons spec rest =>
          rcases target : r.target spec with err | ⟨t, row⟩
          · simp only [next, target] at h
            cases h
            obtain ⟨steps, phase, same, settled⟩ :=
              settle_eq r rest (Replay.stepName spec) (.error err)
            rw [same]
            exact ⟨steps, rfl, settled⟩
          · exact (closed (Replay.targets_of_target target).opened).elim

/-- A move of a closed process keeps its state. It keeps the table and dispatches no end, unless a
name is taken off the queue that something can be done with. -/
theorem Orderly.next_of_closed (orderly : m.Orderly) (closed : m.status ≠ .processing)
    (h : m.next = some m') :
    m'.Orderly ∧ m'.status = m.status ∧
      (m'.table = m.table ∧ m'.ends = m.ends ∨ ∃ name, m.NextUp name ∧ ¬ m.replay.Barren name) := by
  obtain ⟨some, past⟩ := orderly.closed closed
  -- A move that keeps everything but the steps.
  have idle : (∃ steps, m'.replay = { m.replay with steps := steps } ∧ m'.phase.Settled) →
      m'.Orderly ∧ m'.status = m.status ∧ m'.table = m.table ∧ m'.ends = m.ends := by
    rintro ⟨steps, same, settled⟩
    have status : m'.status = m.status := by rw [Moment.status, same]; rfl
    have table : m'.table = m.table := by rw [Moment.table, same]; rfl
    have ends : m'.ends = m.ends := by rw [Moment.ends, same]; rfl
    refine ⟨⟨table ▸ orderly.sound, ?_, ?_⟩, status, table, ends⟩
    · intro opened
      exact (closed (status.symm.trans opened)).elim
    · intro _
      exact ⟨ends ▸ some, .settled settled⟩
  rcases past.cases with settled | ⟨completed, step, before, queue, entered, walking⟩
  · obtain ⟨orderly', status, kept⟩ := idle (next_of_settled closed settled h)
    exact ⟨orderly', status, Or.inl kept⟩
  · obtain ⟨r, phase, actions⟩ := m
    cases walking
    cases queue with
    | nil =>
        cases h
        obtain ⟨steps, phase, same, settled⟩ := settle_eq r actions step
          (.ok (before ++ ("entered " ++ String.intercalate " -> " entered)))
        obtain ⟨orderly', status, kept⟩ := idle (by rw [same]; exact ⟨steps, rfl, settled⟩)
        exact ⟨orderly', status, Or.inl kept⟩
    | cons name rest =>
        cases h
        obtain ⟨orderly', status⟩ := orderly_visited orderly.sound completed some actions step
          before name rest (entered ++ [name])
        by_cases barren : r.Barren name
        · obtain ⟨err, refused⟩ := Replay.visit_of_barren barren
          obtain ⟨steps, phase, same, settled⟩ := settle_eq r actions step (.error err)
          obtain ⟨-, -, kept⟩ := idle (by rw [refused, visited, same]; exact ⟨steps, rfl, settled⟩)
          exact ⟨orderly', status.trans completed.symm, Or.inl kept⟩
        · exact ⟨orderly', status.trans completed.symm,
            Or.inr ⟨name, ⟨closed, step, before, rest, entered, rfl⟩, barren⟩⟩

/-- Every move keeps the order. -/
theorem Orderly.next (orderly : m.Orderly) (h : m.next = some m') : m'.Orderly := by
  by_cases opened : m.status = .processing
  · exact (orderly.next_of_open opened h).1
  · exact (orderly.next_of_closed opened h).1

theorem Leads.orderly (leads : Leads m m') (orderly : m.Orderly) : m'.Orderly := by
  induction leads with
  | refl => exact orderly
  | tail _ h ih => exact ih.next h

/-- The state of a closed process never changes again. -/
theorem Leads.status_eq (leads : Leads m m') (orderly : m.Orderly)
    (closed : m.status ≠ .processing) : m'.status = m.status := by
  induction leads with
  | refl => rfl
  | tail on h ih =>
      have closed' := ih ▸ closed
      exact ((Leads.orderly on orderly).next_of_closed closed' h).2.1.trans ih

/-! ## Ending once -/

/-- An end is dispatched once at most; and a move that leaves the process closed, be it the one that
closes it, touches no row and keeps the state of a process that was closed already. -/
structure EndsOnce (start : Moment) : Prop where
  once : ∀ m, Leads start m → m.ends.length ≤ 1
  table : ∀ m m', Leads start m → m.next = some m' → m'.status ≠ .processing → m'.table = m.table
  status : ∀ m m', Leads start m → m.next = some m' → m.status ≠ .processing → m'.status = m.status

/-- Nothing that could still be entered is ever next in the queue of a closed process. -/
def EndsClean (start : Moment) : Prop :=
  ∀ m name, Leads start m → m.NextUp name → m.replay.Barren name

/-- Taking something off the queue of a closed process that can be entered, or the end, breaks the
rule. -/
theorem Orderly.breaks {name : String} (orderly : m.Orderly) (next : m.NextUp name)
    (fertile : ¬ m.replay.Barren name) :
    ∃ m', m.next = some m' ∧ m'.status ≠ .processing ∧
      (1 < m'.ends.length ∨ m'.table ≠ m.table) := by
  obtain ⟨closed, step, before, rest, entered, walking⟩ := next
  obtain ⟨some, past⟩ := orderly.closed closed
  obtain ⟨r, phase, actions⟩ := m
  cases walking
  have completed : r.process.status = .completed := by
    rcases past.cases with settled | ⟨completed, -⟩
    · cases settled
    · exact completed
  obtain ⟨-, status⟩ := orderly_visited orderly.sound completed some actions step before name rest
    (entered ++ [name])
  obtain ⟨steps, same⟩ :=
    visited_replay actions step before rest (entered ++ [name]) (r.visit name)
  refine ⟨_, rfl, by rw [status]; decide, ?_⟩
  by_cases goesOn : name = ProcessDefinition.endName
  · have again := Replay.ended_visit r
    rw [← goesOn] at again
    obtain ⟨d, more⟩ := again.endings
    left
    rw [Moment.ends, same]
    dsimp only
    rw [more, List.length_append]
    have one : 0 < (endings r.engine.trace).length := List.length_pos_iff.2 some
    exact Nat.lt_add_of_pos_left one
  · have more := Replay.size_of_not_barren orderly.sound goesOn fertile
    right
    intro kept
    rw [Moment.table, same] at kept
    dsimp only at kept
    rw [kept] at more
    exact Nat.lt_irrefl _ more

/-- While an end leaves nothing to be entered, one end is dispatched at most. -/
theorem Leads.ends_le (leads : Leads m m') (orderly : m.Orderly) (opened : m.status = .processing)
    (endsClean : m.EndsClean) : m'.ends.length ≤ 1 := by
  induction leads with
  | refl => rw [orderly.opened opened]; exact Nat.zero_le 1
  | @tail middle last on h ih =>
      have now := Leads.orderly on orderly
      by_cases still : middle.status = .processing
      · obtain ⟨next, open' | ⟨-, d, one⟩⟩ := now.next_of_open still h
        · rw [next.opened open']
          exact Nat.zero_le 1
        · rw [one]
          exact Nat.le_refl 1
      · obtain ⟨-, -, ⟨-, same⟩ | ⟨name, next, fertile⟩⟩ := now.next_of_closed still h
        · rw [same]
          exact ih
        · exact (fertile (endsClean middle name on next)).elim

/-- A process ends once exactly when its end leaves nothing to be entered. -/
theorem Orderly.endsOnce_iff (orderly : m.Orderly) (opened : m.status = .processing) :
    m.EndsOnce ↔ m.EndsClean := by
  constructor
  · intro endsOnce now name leads next
    rcases Classical.em (now.replay.Barren name) with barren | fertile
    · exact barren
    · obtain ⟨m', h, closed, twice | touched⟩ := (Leads.orderly leads orderly).breaks next fertile
      · have one := endsOnce.once m' (leads.tail h)
        omega
      · exact (touched (endsOnce.table now m' leads h closed)).elim
  · intro endsClean
    refine ⟨fun now leads => leads.ends_le orderly opened endsClean, ?_, ?_⟩
    · intro now m' leads h closed
      have order := Leads.orderly leads orderly
      by_cases still : now.status = .processing
      · obtain ⟨-, open' | ⟨kept, -⟩⟩ := order.next_of_open still h
        · exact (closed open').elim
        · exact kept
      · obtain ⟨-, -, ⟨kept, -⟩ | ⟨name, next, fertile⟩⟩ := order.next_of_closed still h
        · exact kept
        · exact (fertile (endsClean now name leads next)).elim
    · intro now m' leads h closed
      exact ((Leads.orderly leads orderly).next_of_closed closed h).2.1

end Moment

/-! ## Accepted scenarios -/

/-- An accepted scenario starts from an open process. -/
theorem Scenario.status_of_build {s : Scenario} {now : Instant} {b : BuiltScenario}
    (built : s.build now = .ok b) : b.process.status = .processing := by
  have row : b.process = s.processRow now := by
    unfold build at built
    cases form : s.form with
    | none =>
        rw [form] at built
        obtain ⟨tasks, -, built⟩ := Except.bind_eq_ok.1 built
        obtain ⟨wiring, -, built⟩ := Except.bind_eq_ok.1 built
        obtain ⟨definition, -, built⟩ := Except.bind_eq_ok.1 built
        obtain ⟨_, -, built⟩ := Except.bind_eq_ok.1 built
        cases built
        rfl
    | some form' =>
        rw [form] at built
        obtain ⟨_, -, built⟩ := Except.bind_eq_ok.1 built
        obtain ⟨tasks, -, built⟩ := Except.bind_eq_ok.1 built
        obtain ⟨wiring, -, built⟩ := Except.bind_eq_ok.1 built
        obtain ⟨definition, -, built⟩ := Except.bind_eq_ok.1 built
        obtain ⟨_, -, built⟩ := Except.bind_eq_ok.1 built
        cases built
        rfl
  rw [row]
  rfl

/-- The replay of an accepted scenario before its first step. -/
theorem Moment.orderly_begun {s : Scenario} {now : Instant} {b : BuiltScenario}
    (built : s.build now = .ok b) (config : WorkflowConfig) (time : Instant)
    (actions : List ActionSpec) :
    (begun (b.replay config time) actions).Orderly ∧
      (begun (b.replay config time) actions).status = .processing := by
  have opened : (begun (b.replay config time) actions).status = .processing :=
    Scenario.status_of_build built
  exact ⟨orderly_of_open TaskTable.sound_empty opened rfl, opened⟩

/-- In the replay of an accepted scenario, whatever its listeners are and whatever is done, a closed
process keeps its state; and it ends once, with no row touched from its end on, exactly when its end
leaves nothing in the queue that could still be entered. -/
theorem Scenario.process_ends_once_iff {s : Scenario} {now : Instant} {b : BuiltScenario}
    (built : s.build now = .ok b) (config : WorkflowConfig) (time : Instant)
    (actions : List ActionSpec) :
    (∀ m m', Moment.Leads (.begun (b.replay config time) actions) m → Moment.Leads m m' →
      m.status ≠ .processing → m'.status = m.status) ∧
    ((Moment.begun (b.replay config time) actions).EndsOnce ↔
      (Moment.begun (b.replay config time) actions).EndsClean) := by
  obtain ⟨orderly, opened⟩ := Moment.orderly_begun built config time actions
  refine ⟨?_, orderly.endsOnce_iff opened⟩
  intro m m' leads on closed
  exact on.status_eq (Moment.Leads.orderly leads orderly) closed

/-! ## The report -/

/-- A report shows the last moment of its replay. -/
theorem Moment.exists_of_run {r : Replay} {actions : List ActionSpec} {report : ReplayReport}
    (ran : r.run actions = .ok report) :
    ∃ m, Leads (begun r actions) m ∧ m.next = none ∧ report.status = m.status ∧
      report.tasks = m.table.ofProcess m.replay.process.id := by
  have answers := answers_run r actions
  rw [ran] at answers
  obtain ⟨last, leads, rfl⟩ := answers
  refine ⟨⟨last, .resting, []⟩, leads, rfl, rfl, ?_⟩
  have kept : last.engine.drain.tasks = last.engine.tasks := (Engine.heard_drain last.engine).tasks
  exact congrArg (TaskTable.ofProcess · last.process.id) kept

/-- The report shows the state that the process was closed with, whenever that was. -/
theorem Scenario.report_status_eq {s : Scenario} {now : Instant} {b : BuiltScenario}
    (built : s.build now = .ok b) {config : WorkflowConfig} {time : Instant}
    {actions : List ActionSpec} {report : ReplayReport} {m : Moment}
    (ran : (b.replay config time).run actions = .ok report)
    (leads : Moment.Leads (.begun (b.replay config time) actions) m)
    (closed : m.status ≠ .processing) : report.status = m.status := by
  obtain ⟨orderly, -⟩ := Moment.orderly_begun built config time actions
  obtain ⟨last, toLast, ended, status, -⟩ := Moment.exists_of_run ran
  have on : Moment.Leads m last := Moment.Leads.to_end leads toLast ended
  rw [status]
  exact on.status_eq (Moment.Leads.orderly leads orderly) closed

/-! ## A process that ends once, and one that ends twice -/

namespace Moment

/-- Whether a closed process has something in its queue. -/
def isWalkingOn (m : Moment) : Bool :=
  m.status != .processing &&
    match m.phase with
    | .walking _ _ (_ :: _) _ => true
    | _ => false

theorem endsClean_of_passes {m : Moment} {n : Nat}
    (passed : m.passes (fun m => !m.isWalkingOn) n = true) : m.EndsClean := by
  rintro m' name leads ⟨closed, step, before, rest, entered, walking⟩
  have idle := leads.of_passes passed
  simp [isWalkingOn, walking, closed] at idle

end Moment

namespace Scenario

/-- The replay of a scenario before its first step, if the scenario is accepted. -/
def moment? (s : Scenario) : Option Moment :=
  match s.build default with
  | .ok b => some (.begun (b.replay .standard default) b.actions)
  | .error _ => none

theorem build_of_moment? {s : Scenario} {m : Moment} (h : s.moment? = some m) :
    ∃ b, s.build default = .ok b ∧ m = .begun (b.replay .standard default) b.actions := by
  unfold moment? at h
  cases built : s.build default with
  | error err =>
      rw [built] at h
      cases h
  | ok b =>
      rw [built] at h
      cases h
      exact ⟨b, rfl, rfl⟩

/-- One task that one person approves. -/
def straight : Scenario where
  process := ⟨1, "P", none, "carol", none, ["review"]⟩
  form := none
  tasks := [⟨"review", none, .user ["alice"] false none, ["end"]⟩]
  listeners := []
  actions := [⟨"review", "alice", .approve, none, none, []⟩]

/-- Two branches: one comes to the end while the other still has a task to enter. -/
def fork : Scenario where
  process := ⟨1, "P", none, "carol", none, ["left", "right"]⟩
  form := none
  tasks := [⟨"left", none, .service [], ["end"]⟩,
    ⟨"right", none, .service [], ["audit", "end"]⟩,
    ⟨"audit", none, .user ["dave"] false none, ["end"]⟩]
  listeners := [⟨"archive", .process, "COMPLETE", false, none⟩]
  actions := []

/-- The process of one task ends once. -/
theorem straight_ends_once : ∃ b, straight.build default = .ok b ∧
    (Moment.begun (b.replay .standard default) b.actions).EndsOnce := by
  have passed : straight.moment?.map (·.passes (fun m => !m.isWalkingOn) 8) = some true := by
    decide +kernel
  obtain ⟨m, there, clean⟩ := Option.map_eq_some_iff.1 passed
  obtain ⟨b, built, rfl⟩ := build_of_moment? there
  exact ⟨b, built, (process_ends_once_iff built _ _ _).2.2 (Moment.endsClean_of_passes clean)⟩

/-- The process with two branches dispatches its end twice, and stores a row in between. -/
theorem fork_ends_twice : ∃ b, fork.build default = .ok b ∧
    ¬ (Moment.begun (b.replay .standard default) b.actions).EndsOnce := by
  have ends : fork.moment?.map (fun m => (m.after 6).ends.length) = some 2 := by decide +kernel
  obtain ⟨m, there, twice⟩ := Option.map_eq_some_iff.1 ends
  obtain ⟨b, built, rfl⟩ := build_of_moment? there
  refine ⟨b, built, fun endsOnce => ?_⟩
  have one := endsOnce.once _ (Moment.leads_after 6 _)
  omega

end Scenario

end ApprovalFlow
