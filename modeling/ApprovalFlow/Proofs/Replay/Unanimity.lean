import ApprovalFlow.Proofs.Replay.Ending

/-!
# Unanimity

A task that all of its approvers have to approve goes on when the last of them does. A veto closes
the process, and then nobody can approve any more; but it closes the process only after the
listeners in line have been told, and when one of them fails, the veto is recorded and the process
stays open. `Moment.Unheard` is such a moment and `Moment.Unanimous` what should hold.

* `Moment.Leads.explains`: where a veto on record has come from.
* `Scenario.unanimous_replay_iff`: a replay is unanimous exactly when no task is released after a
  veto on it that went unheard.
-/

namespace ApprovalFlow

namespace Moment

variable {m m' : Moment} {t : Task}

/-- The next move goes to the successors of a task that all of its approvers have to approve, after
an approval. -/
def Releases (m : Moment) (t : Task) : Prop :=
  ∃ r spec c taskId actions m' step before queue entered p,
    m = ⟨r, .following spec t c taskId, actions⟩ ∧ spec.action = .approve ∧
      UserTask.part t = .ok p ∧ p.needAll = true ∧ m.next = some m' ∧
      m'.phase = .walking step before queue entered

/-- A veto on a task is on record. -/
def Vetoed (m : Moment) (t : Task) : Prop :=
  ∃ row ∈ m.table.rows, row.processId = m.replay.process.id ∧ row.name = t.name ∧
    row.status ∈ TaskStatus.vetoes

/-- A veto on a task is about to be recorded that passes all checks, and a listener that is to be
told of it in line fails. -/
def Unheard (m : Moment) (t : Task) : Prop :=
  ∃ r spec actions row event closed, m = ⟨r, .resting, spec :: actions⟩ ∧
    spec.action ∈ Action.vetoes ∧ r.target spec = .ok (t, row) ∧
    UserTask.plan (r.actionContext spec t row) r.engine.now = .ok (event, closed) ∧
    ∃ l ∈ t.inLine r.engine.settings event,
      l.respond ((r.actionContext spec t row).withRow (TaskTable.bumped closed)).snapshot ≠ .success

/-- No task is released over a veto on it. -/
def Unanimous (start : Moment) : Prop :=
  ∀ m t, Leads start m → m.Releases t → ¬ m.Vetoed t

/-- No task is released after a veto on it that went unheard. -/
def HeardOut (start : Moment) : Prop :=
  ∀ m m' t, Leads start m → m.Unheard t → Leads m m' → ¬ m'.Releases t

theorem Releases.follows (releases : m.Releases t) :
    ∃ spec c taskId, m.phase = .following spec t c taskId ∧ spec.action = .approve := by
  obtain ⟨r, spec, c, taskId, actions, m', step, before, queue, entered, p, rfl, approves, -⟩ :=
    releases
  exact ⟨spec, c, taskId, rfl, approves⟩

/-- A planned action on a user task's row. -/
theorem applied_of_plan {r : Replay} {spec : ActionSpec} {row closed : TaskRow} {event : TaskEvent}
    (sound : r.engine.tasks.Sound) (target : r.target spec = .ok (t, row))
    (planned : UserTask.plan (r.actionContext spec t row) r.engine.now = .ok (event, closed))
    (actions : List ActionSpec) :
    ∃ m', next ⟨r, .resting, spec :: actions⟩ = some m' ∧
      m'.table.Final (TaskTable.bumped closed) ∧ row.SameTask (TaskTable.bumped closed) ∧
      ((∃ c taskId, m'.phase = .following spec t c taskId) ∨
        ∃ l ∈ t.inLine r.engine.settings event,
          l.respond ((r.actionContext spec t row).withRow (TaskTable.bumped closed)).snapshot ≠
            .success) := by
  have found := Replay.targets_of_target target
  obtain ⟨t', a, checked⟩ := UserTask.planned_of_plan planned
  have current : some t = some t' := checked.current
  cases current
  have action : some _ = some a := checked.action
  cases action
  obtain ⟨e', by_, -, settings, same⟩ := UserTask.complete_of_plan sound rfl found.member planned
  have told := Engine.notify_user_eq_ok_iff e' event
    (c := (r.actionContext spec t row).withRow (TaskTable.bumped closed)) rfl checked.isUser
  have kept := (Engine.heard_notify e' event
    ((r.actionContext spec t row).withRow (TaskTable.bumped closed))).tasks
  refine ⟨applied r actions spec t (UserTask.complete (r.actionContext spec t row) r.engine),
    ?_, ?_, by_.same, ?_⟩
  · simp only [next, target, UserTask.ofTask_of_typeName checked.isUser]
    rfl
  · obtain ⟨steps, replay⟩ := applied_replay r actions spec t
      (UserTask.complete (r.actionContext spec t row) r.engine)
    rw [Moment.table, replay, same]
    dsimp only
    rw [kept]
    exact by_.final
  · rw [settings] at told
    rw [same]
    rcases answer : e'.notify event
      ((r.actionContext spec t row).withRow (TaskTable.bumped closed)) with ⟨err | ⟨⟩, e''⟩
    · rw [answer] at told
      simp only [reduceCtorEq, false_iff, not_forall] at told
      obtain ⟨l, member, fails⟩ := told
      exact Or.inr ⟨l, member, fails⟩
    · exact Or.inl ⟨_, _, rfl⟩

/-- Closing the process after a veto. -/
theorem closed_of_veto {r : Replay} {spec : ActionSpec} {c : Context} {taskId : Int}
    {actions : List ActionSpec} (veto : spec.action ∈ Action.vetoes)
    (h : next ⟨r, .following spec t c taskId, actions⟩ = some m') : m'.status ≠ .processing := by
  cases followed_of_next h with
  | goesOn approves =>
      rcases approves with action | action
      · exact absurd (action ▸ veto) (by decide)
      · exact absurd (action ▸ veto) (by decide)
  | handsOver action => exact absurd (action ▸ veto) (by decide)
  | @closes status event word _ final terminal =>
      have ended : Replay.Ended status r _ := ended_closed terminal r actions spec taskId word
      exact fun opened => final (ended.status.symm.trans opened)
  | refuses action => exact absurd (action ▸ veto) (by decide)

/-- Where a veto on record has come from: the process is closed or is about to be, or the veto went
unheard. -/
def Explains (start m : Moment) (row : TaskRow) : Prop :=
  m.status ≠ .processing ∨
    (∃ spec t c taskId, m.phase = .following spec t c taskId ∧ spec.action ∈ Action.vetoes) ∨
    ∃ earlier t, Leads start earlier ∧ earlier.Unheard t ∧ Leads earlier m ∧
      start.replay.definition.Has t ∧ row.name = t.name

/-- After what follows from an action a step has ended or is walking. -/
theorem phase_after_following {r : Replay} {spec : ActionSpec} {c : Context} {taskId : Int}
    {actions : List ActionSpec} (h : next ⟨r, .following spec t c taskId, actions⟩ = some m') :
    m'.phase.Settled ∨
      ∃ step before queue entered, m'.phase = .walking step before queue entered := by
  cases followed_of_next h with
  | goesOn =>
      rcases (Processor.ofTask t).next t c r.engine with ⟨err | ⟨_ | ⟨name, rest⟩⟩, e⟩
      · exact Or.inl (settled_settle ..)
      · exact Or.inl (settled_settle ..)
      · exact Or.inr ⟨_, _, _, _, rfl⟩
  | handsOver => exact Or.inl (settled_settle ..)
  | closes => exact Or.inl (settled_settle ..)
  | refuses => exact Or.inl (settled_settle ..)

/-- A replay comes to what follows from an action only from the action itself. -/
theorem target_of_following {spec : ActionSpec} {c : Context} {taskId : Int}
    (h : m.next = some m') (follows : m'.phase = .following spec t c taskId) :
    ∃ row, m.replay.Targets t row := by
  have settled : ¬ m'.phase.Settled := by
    intro settled
    rw [follows] at settled
    cases settled
  obtain ⟨r, phase, actions⟩ := m
  cases phase with
  | opening =>
      rcases told : r.notifyProcess .create r.context with ⟨err | ⟨⟩, r'⟩
      · simp only [next, told] at h
        cases h
        exact (settled (settled_settle ..)).elim
      · simp only [next, told] at h
        cases h
        cases follows
  | walking step before queue entered =>
      cases queue with
      | nil =>
          cases h
          exact (settled (settled_settle ..)).elim
      | cons name rest =>
          cases h
          have past := over_visited actions step before rest (entered ++ [name]) (r.visit name)
          rcases past.cases with past | ⟨-, _, _, _, _, walking⟩
          · exact (settled past).elim
          · rw [walking] at follows
            cases follows
  | resting =>
      cases actions with
      | nil => cases h
      | cons spec' rest =>
          rcases target : r.target spec' with err | ⟨t', row⟩
          · simp only [next, target] at h
            cases h
            exact (settled (settled_settle ..)).elim
          · simp only [next, target] at h
            cases h
            rcases answer : (Processor.ofTask t').complete (r.actionContext spec' t' row) r.engine
              with ⟨err | ok, c', e⟩
            · rw [answer] at settled
              exact (settled (settled_settle ..)).elim
            · rw [answer] at settled follows
              unfold applied at settled follows
              dsimp only at settled follows
              cases request : c'.request with
              | error err =>
                  rw [request] at settled
                  exact (settled (settled_settle ..)).elim
              | ok a =>
                  rw [request] at follows
                  cases follows
                  exact ⟨row, Replay.targets_of_target target⟩
  | following spec' t' c' taskId' =>
      rcases phase_after_following h with past | ⟨_, _, _, _, walking⟩
      · exact (settled past).elim
      · rw [walking] at follows
        cases follows
  | broken failure => cases h

/-- A veto that is new has come from an action that goes on to close the process, or went
unheard. -/
theorem explains_new {start : Moment} {row : TaskRow} (sound : m.table.Sound)
    (leads : Leads start m) (same : m.replay.definition = start.replay.definition)
    (h : m.next = some m') (new : row ∉ m.table.rows) (member : row ∈ m'.table.rows)
    (veto : row.status ∈ TaskStatus.vetoes) : Explains start m' row := by
  cases next_cases sound h with
  | works worked =>
      rcases worked.engine.made row member with old | noVeto
      · exact (new old).elim
      · exact (noVeto veto).elim
  | ends final ended past =>
      rw [Moment.table, ended.tasks] at member
      exact (new member).elim
  | @acts r spec actions t row' target isUser =>
      have worked := worked_applied sound target actions
      rcases worked.engine.made row member with old | ⟨event, closed, planned, rfl⟩
      · exact (new old).elim
      · have found := Replay.targets_of_target target
        obtain ⟨m'', h', final, kept, outcome⟩ := applied_of_plan sound target planned actions
        rw [h] at h'
        cases h'
        obtain ⟨t', a, checked⟩ := UserTask.planned_of_plan planned
        have action : some _ = some a := checked.action
        cases action
        have vetoes : spec.action ∈ Action.vetoes := (Action.mem_vetoes_iff checked.status).1 veto
        rcases outcome with ⟨c, taskId, follows⟩ | fails
        · exact Or.inr (Or.inl ⟨spec, t, c, taskId, follows, vetoes⟩)
        · refine Or.inr (Or.inr ⟨_, t, leads, ?_, Relation.ReflTransGen.single h, ?_, ?_⟩)
          · exact ⟨r, spec, actions, row', event, closed, rfl, vetoes, target, planned, fails⟩
          · exact same ▸ found.task
          · exact kept.name_eq.trans found.name

theorem Explains.next {start : Moment} {row : TaskRow} (explains : Explains start m row)
    (orderly : m.Orderly) (h : m.next = some m') : Explains start m' row := by
  rcases explains with closed | ⟨spec, t, c, taskId, follows, veto⟩ |
    ⟨earlier, t, toEarlier, unheard, on, has, name⟩
  · refine Or.inl ?_
    rw [(orderly.next_of_closed closed h).2.1]
    exact closed
  · obtain ⟨r, phase, actions⟩ := m
    cases follows
    exact Or.inl (closed_of_veto veto h)
  · exact Or.inr (Or.inr ⟨earlier, t, toEarlier, unheard, on.tail h, has, name⟩)

/-- What all moments of a replay share: the definition, the process's id, and the rows, which
stay. -/
theorem Leads.keeps (leads : Leads m m') (orderly : m.Orderly) :
    m'.replay.definition = m.replay.definition ∧ m'.replay.process.id = m.replay.process.id ∧
      m.table.Grows m'.table := by
  induction leads with
  | refl => exact ⟨rfl, rfl, TaskTable.Grows.refl _⟩
  | tail on h ih =>
      have sound := (Leads.orderly on orderly).sound
      obtain ⟨definition, id, moves⟩ := (next_cases sound h).keeps sound
      exact ⟨definition.trans ih.1, id.trans ih.2.1, ih.2.2.trans (moves.grows sound).2⟩

/-- A veto on record is explained, if the replay has started without any. -/
theorem Leads.explains {start : Moment} (leads : Leads start m) (orderly : start.Orderly)
    (none : ∀ row ∈ start.table.rows, row.NoVeto) {row : TaskRow} (member : row ∈ m.table.rows)
    (veto : row.status ∈ TaskStatus.vetoes) : Explains start m row := by
  induction leads with
  | refl => exact (none row member veto).elim
  | @tail middle last on h ih =>
      have now := Leads.orderly on orderly
      by_cases old : row ∈ middle.table.rows
      · exact (ih old).next now h
      · exact explains_new now.sound on (Leads.keeps on orderly).1 h old member veto

/-- The task of a row that an action has closed is one of the definition. -/
theorem Leads.has_of_following {start : Moment} {spec : ActionSpec} {c : Context} {taskId : Int}
    (leads : Leads start m) (orderly : start.Orderly) (opening : start.phase = .opening)
    (follows : m.phase = .following spec t c taskId) : start.replay.definition.Has t := by
  rcases Relation.ReflTransGen.cases_tail leads with rfl | ⟨before, on, h⟩
  · rw [opening] at follows
    cases follows
  · obtain ⟨row, found⟩ := target_of_following h follows
    exact (Leads.keeps on orderly).1 ▸ found.task

/-- Once a veto has gone unheard it is on record for good. -/
theorem Unheard.vetoed (unheard : m.Unheard t) (orderly : m.Orderly) (leads : Leads m m')
    (later : m' ≠ m) : m'.Vetoed t := by
  obtain ⟨r, spec, actions, row, event, closed, rfl, veto, target, planned, -⟩ := unheard
  have found := Replay.targets_of_target target
  obtain ⟨after, h, final, same, -⟩ := applied_of_plan orderly.sound target planned actions
  obtain ⟨t', a, checked⟩ := UserTask.planned_of_plan planned
  have action : some _ = some a := checked.action
  cases action
  rcases Relation.ReflTransGen.cases_head leads with stays | ⟨after', h', on⟩
  · exact (later stays.symm).elim
  · rw [h] at h'
    cases h'
    have stays := final.mono (Leads.keeps on (orderly.next h)).2.2
    have id := (Leads.keeps leads orderly).2.1
    refine ⟨TaskTable.bumped closed, stays.1, ?_, same.name_eq.trans found.name,
      (Action.mem_vetoes_iff checked.status).2 veto⟩
    rw [same.processId_eq, found.process, id]

/-- A replay is unanimous exactly when no task is released after a veto on it that went unheard. -/
theorem unanimous_iff {start : Moment} (orderly : start.Orderly) (opening : start.phase = .opening)
    (none : ∀ row ∈ start.table.rows, row.NoVeto) : start.Unanimous ↔ start.HeardOut := by
  constructor
  · intro unanimous m m' t leads unheard on releases
    refine unanimous m' t (leads.trans on) releases ?_
    refine unheard.vetoed (Leads.orderly leads orderly) on ?_
    -- An action that is to be applied is not yet followed up.
    rintro rfl
    obtain ⟨spec, c, taskId, follows, -⟩ := releases.follows
    obtain ⟨r, spec', actions, row, event, closed, rfl, -⟩ := unheard
    cases follows
  · rintro heardOut m t leads releases ⟨row, member, -, name, veto⟩
    have now := Leads.orderly leads orderly
    have explains := leads.explains orderly none member veto
    obtain ⟨spec, c, taskId, phase, approves⟩ := releases.follows
    rcases explains with closed | ⟨spec', t', c', taskId', phase', veto'⟩ |
      ⟨earlier, t', toEarlier, unheard, on, has, name'⟩
    · -- A closed process is past what follows from an action.
      obtain ⟨-, past⟩ := now.closed closed
      rw [phase] at past
      rcases past.cases with settled | ⟨-, _, _, _, _, walking⟩
      · cases settled
      · cases walking
    · rw [phase] at phase'
      cases phase'
      rw [approves] at veto'
      exact absurd veto' (by decide)
    · have has' := leads.has_of_following orderly opening phase
      cases has.eq_of_name_eq has' (name'.symm.trans name)
      exact heardOut earlier m t toEarlier unheard on releases

end Moment

/-- In the replay of an accepted scenario, whatever its listeners answer and whatever is done, no
task is released over a veto on it exactly when none is released after a veto on it that a listener
in line has failed on. -/
theorem Scenario.unanimous_replay_iff {s : Scenario} {now : Instant} {b : BuiltScenario}
    (built : s.build now = .ok b) (config : WorkflowConfig) (time : Instant)
    (actions : List ActionSpec) :
    (Moment.begun (b.replay config time) actions).Unanimous ↔
      (Moment.begun (b.replay config time) actions).HeardOut := by
  obtain ⟨orderly, -⟩ := Moment.orderly_begun built config time actions
  refine Moment.unanimous_iff orderly rfl ?_
  intro row member
  cases member

/-! ## A veto that is heard, and one that is not -/

namespace Moment

/-- Whether a veto is about to be recorded that a listener in line fails on. -/
def isUnheard : Moment → Bool
  | ⟨r, .resting, spec :: _⟩ =>
    Action.vetoes.contains spec.action &&
      match r.target spec with
      | .ok (t, row) =>
        match UserTask.plan (r.actionContext spec t row) r.engine.now with
        | .ok (event, closed) => (t.inLine r.engine.settings event).any fun l =>
            l.respond ((r.actionContext spec t row).withRow (TaskTable.bumped closed)).snapshot !=
              .success
        | .error _ => false
      | .error _ => false
  | _ => false

theorem Unheard.isUnheard {m : Moment} {t : Task} (unheard : m.Unheard t) : m.isUnheard = true := by
  obtain ⟨r, spec, actions, row, event, closed, rfl, veto, target, planned, l, member, fails⟩ :=
    unheard
  simp only [Moment.isUnheard, target, planned, Bool.and_eq_true, List.contains_iff_mem,
    List.any_eq_true]
  exact ⟨veto, l, member, bne_iff_ne.2 fails⟩

theorem heardOut_of_passes {m : Moment} {n : Nat}
    (passed : m.passes (fun m => !m.isUnheard) n = true) : m.HeardOut := by
  intro now m' t leads unheard
  have heard := leads.of_passes passed
  rw [unheard.isUnheard] at heard
  cases heard

/-- Whether a task is released over a veto on it. -/
def isOverruling (m : Moment) : Bool :=
  match m.phase with
  | .following spec t _ _ =>
    spec.action == .approve && ((UserTask.part t).toOption.any (·.needAll)) &&
      (m.next.any fun m' =>
        match m'.phase with
        | .walking .. => true
        | _ => false) &&
      m.table.rows.any fun row => row.processId == m.replay.process.id && row.name == t.name &&
        TaskStatus.vetoes.contains row.status
  | _ => false

theorem exists_of_isOverruling {m : Moment} (overruling : m.isOverruling = true) :
    ∃ t, m.Releases t ∧ m.Vetoed t := by
  obtain ⟨r, phase, actions⟩ := m
  cases phase with
  | following spec t c taskId =>
      simp only [isOverruling, Bool.and_eq_true, beq_iff_eq, List.any_eq_true, Option.any_eq_true,
        List.contains_iff_mem] at overruling
      obtain ⟨⟨⟨approves, p, part, needAll⟩, m', next, walks⟩, row, member, same, veto⟩ :=
        overruling
      have isUser : UserTask.part t = .ok p := by
        cases answer : UserTask.part t with
        | error err =>
            rw [answer] at part
            cases part
        | ok p' =>
            rw [answer] at part
            cases part
            rfl
      have walking :
          ∃ step before queue entered, m'.phase = .walking step before queue entered := by
        split at walks
        · exact ⟨_, _, _, _, ‹_›⟩
        · cases walks
      obtain ⟨step, before, queue, entered, walking⟩ := walking
      exact ⟨t, ⟨r, spec, c, taskId, actions, m', step, before, queue, entered, p, rfl, approves,
        isUser, needAll, next, walking⟩, row, member, same.1, same.2, veto⟩
  | _ => cases overruling

end Moment

namespace Scenario

/-- Two tasks that two people each have to approve, and a listener that is told of rejections. -/
def panel (outcome : Option String) (actions : List ActionSpec) : Scenario where
  process := ⟨1, "P", none, "carol", none, ["review"]⟩
  form := none
  tasks := [⟨"review", none, .user ["alice", "bob"] true none, ["sign"]⟩,
    ⟨"sign", none, .user ["dave", "erin"] true none, ["end"]⟩]
  listeners := [⟨"notify_rejection", .managerTask, "REJECT", false, outcome⟩]
  actions := actions

/-- A task is released that both have approved, and the veto on the next one is heard. -/
def heard : Scenario :=
  panel none [⟨"review", "alice", .approve, none, none, []⟩,
    ⟨"review", "bob", .approve, none, none, []⟩, ⟨"sign", "dave", .reject, none, none, []⟩,
    ⟨"sign", "erin", .approve, none, none, []⟩]

/-- The listener fails when one of two rejects, and the other one approves. -/
def unheard : Scenario :=
  panel (some "mail server down") [⟨"review", "alice", .reject, none, none, []⟩,
    ⟨"review", "bob", .approve, none, none, []⟩]

/-- The veto that is heard is not overridden. -/
theorem heard_unanimous : ∃ b, heard.build default = .ok b ∧
    (Moment.begun (b.replay .standard default) b.actions).Unanimous := by
  have passed : heard.moment?.map (·.passes (fun m => !m.isUnheard) 16) = some true := by
    decide +kernel
  obtain ⟨m, there, clean⟩ := Option.map_eq_some_iff.1 passed
  obtain ⟨b, built, rfl⟩ := build_of_moment? there
  exact ⟨b, built, (unanimous_replay_iff built _ _ _).2 (Moment.heardOut_of_passes clean)⟩

/-- The veto that is not heard is overridden. -/
theorem unheard_not_unanimous : ∃ b, unheard.build default = .ok b ∧
    ¬ (Moment.begun (b.replay .standard default) b.actions).Unanimous := by
  have overruled : unheard.moment?.map (fun m => (m.after 5).isOverruling) = some true := by
    decide +kernel
  obtain ⟨m, there, overruling⟩ := Option.map_eq_some_iff.1 overruled
  obtain ⟨b, built, rfl⟩ := build_of_moment? there
  refine ⟨b, built, fun unanimous => ?_⟩
  obtain ⟨t, releases, vetoed⟩ := Moment.exists_of_isOverruling overruling
  exact unanimous _ t (Moment.leads_after 5 _) releases vetoed

end Scenario

end ApprovalFlow
