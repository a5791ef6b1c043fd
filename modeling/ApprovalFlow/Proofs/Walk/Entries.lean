import ApprovalFlow.Proofs.Replay.Additions
import ApprovalFlow.Proofs.Replay.Duties
import ApprovalFlow.Proofs.Replay.Unanimity
import ApprovalFlow.Proofs.Walk.Passing

/-!
# What a walk enters

The definition of an accepted scenario has been checked, so a walk never comes to a name that it
knows nothing of. It enters the tasks that it is told to go to and those that follow the service
tasks among them, and each gets a row. But the walk takes the name `end` for the end of the process,
also where the scenario has a task of that name: that one is passed over.

* `Replay.Guided`: a walk that knows the names in its queue. It fails only by a hindrance.
* `Replay.Taken`: what a walk that has finished has taken and opened. `Replay.taken_of_walk`.
* `Moment.Charted`: the names in a queue are known, whatever has been done before.
* `Scenario.walked_as_defined_iff`: no walk goes astray, and a task that is to be entered gets a row
  exactly if it has another name than the end.
-/

namespace ApprovalFlow

variable {roles : ListenerSpec → ListenerSpec → Prop}

/-! ## Walks that know where they go -/

namespace Replay

variable {r r' r'' : Replay} {t : Task} {err : WorkflowError} {name : String}

/-- A replay of a scenario has been told to go to tasks that the definition has, or to the end. -/
structure Guided (roles : ListenerSpec → ListenerSpec → Prop) (r : Replay) (queue : List String) :
    Prop where
  scripted : r.Scripted roles
  sound : r.engine.tasks.Sound
  valid : r.definition.validate = .ok ()
  known : r.definition.Knows queue

theorem Guided.visit {rest next : List String} (guided : r.Guided roles (name :: rest))
    (visited : (r.visit name).1 = .ok next) : (r.visit name).2.Guided roles (rest ++ next) := by
  have kin := kin_visit r name
  have goesOn := visit_of_passes ⟨next, visited⟩ guided.scripted guided.sound
  obtain rfl : next = r.definition.onward name := Except.ok.inj (visited.symm.trans goesOn)
  refine ⟨guided.scripted.of_kin kin, sound_visit guided.sound name, ?_, ?_⟩
  · rw [kin.definition]
    exact guided.valid
  · rw [kin.definition]
    exact guided.known.tail.append (ProcessDefinition.knows_onward guided.valid name)

/-- Such a walk fails only by a hindrance. -/
theorem Guided.hindrance_of_advance {names : List String} (guided : r.Guided roles names)
    (failed : (r.advance names).1 = .error (.failed err)) : err.Hindrance := by
  obtain ⟨r', name, rest, still, fails⟩ := exists_visit_of_advance
    (fun _ _ _ _ (still : Guided roles _ _) visited => still.visit visited) guided failed
  rcases hindrance_of_visit still.scripted still.sound fails with hinders | ⟨inner, none, -⟩
  · exact hinders
  · have there := (still.known name (List.mem_cons_self ..)).resolve_left inner
    rw [ProcessDefinition.knows_eq_isSome, none] at there
    cases there

theorem hindrance_of_startProcess (scripted : r.Scripted roles) (sound : r.engine.tasks.Sound)
    (valid : r.definition.validate = .ok ()) (failed : r.startProcess.1 = .error (.failed err)) :
    err.Hindrance := by
  have guided : (r.notifyProcess .create r.context).2.Guided roles r.definition.start :=
    ⟨scripted.of_kin (kin_notifyProcess ..), (tasks_notifyProcess ..).symm ▸ sound, valid,
      ProcessDefinition.knows_start_of_validate valid⟩
  have same : (r.notifyProcess .create r.context).2.definition = r.definition := rfl
  unfold startProcess at failed
  rcases told : r.notifyProcess .create r.context with ⟨err' | ⟨⟩, r'⟩
  · rw [told] at failed
    cases failed
    exact hindrance_of_notifyProcess .create scripted (congrArg Prod.fst told)
  · rw [told] at failed guided same
    dsimp only at failed guided same
    rw [same] at failed
    exact guided.hindrance_of_advance failed

/-! ## What a walk opens -/

/-- A row has been stored for a task behind the rows that were there. -/
def Opens (r r' : Replay) (t : Task) : Prop :=
  ∃ more, r'.engine.tasks.rows = r.engine.tasks.rows ++ more ∧
    ∃ row ∈ more, row.name = t.name ∧ row.taskType = t.typeName ∧ row.processId = r.process.id

theorem not_opens_self (r : Replay) (t : Task) : ¬ r.Opens r t := by
  rintro ⟨more, rows, row, member, -⟩
  rw [List.self_eq_append_right.1 rows] at member
  cases member

/-- What has been stored in two stretches has been stored in one of them. -/
theorem opens_trans_iff (first : r.engine.tasks.Adds r'.engine.tasks)
    (later : r'.engine.tasks.Adds r''.engine.tasks) (id : r'.process.id = r.process.id) :
    r.Opens r'' t ↔ r.Opens r' t ∨ r'.Opens r'' t := by
  obtain ⟨more, rows, -⟩ := first
  obtain ⟨more', rows', -⟩ := later
  constructor
  · rintro ⟨all, rows'', row, member, own⟩
    rw [rows', rows, List.append_assoc] at rows''
    rw [← List.append_cancel_left rows''] at member
    rcases List.mem_append.1 member with here | there
    · exact Or.inl ⟨more, rows, row, here, own⟩
    · exact Or.inr ⟨more', rows', row, there, id ▸ own⟩
  · rintro (⟨all, rows'', row, member, own⟩ | ⟨all, rows'', row, member, own⟩)
    · exact ⟨all ++ more', by rw [rows', rows'', List.append_assoc], row,
        List.mem_append_left _ member, own⟩
    · exact ⟨more ++ all, by rw [rows'', rows, List.append_assoc], row,
        List.mem_append_right _ member, id ▸ own⟩

theorem processId_visit (sound : r.engine.tasks.Sound) (name : String) :
    (r.visit name).2.process.id = r.process.id := by
  by_cases ends : name = ProcessDefinition.endName
  · rw [ends]
    exact (ended_visit r).id
  · rw [(worked_visit sound ends).process]

/-- A task that is entered gives somebody something to do. -/
theorem dutiesOf_ne_nil {names : List String} (sound : r.engine.tasks.Sound)
    (twin : t.Twin roles t) (entered : (r.enter t).1 = .ok names) : r.dutiesOf t ≠ [] := by
  unfold dutiesOf Task.duties
  cases kind : t.kind with
  | service part => exact List.cons_ne_nil _ _
  | user part =>
      have somebody := (serves_of_enter sound twin entered).manned part
        (UserTask.part_of_kind kind) ({ r.context with current := some t } : Context).snapshot
      exact mt List.map_eq_nil_iff.1 (UserTask.crews_ne_nil part.needAll somebody)

/-- Taking a name off the queue opens the task of the name, unless it is the name of the end. -/
theorem opens_visit_iff (scripted : r.Scripted roles) (sound : r.engine.tasks.Sound)
    (has : r.definition.Has t) (passes : r.Passes name) :
    r.Opens (r.visit name).2 t ↔ t.name = name ∧ name ≠ ProcessDefinition.endName := by
  obtain ⟨more, rows, -⟩ := adds_visit sound name
  have assigned : more.map TaskRow.duty = r.dutiesAt name := by
    have duties := duties_visit sound name
    rw [TaskTable.duties, TaskTable.duties, rows, List.map_append] at duties
    exact List.append_cancel_left duties
  unfold dutiesAt at assigned
  constructor
  · rintro ⟨more', rows', row, member, named, -⟩
    obtain rfl := List.append_cancel_left (rows.symm.trans rows')
    have duty := List.mem_map_of_mem (f := TaskRow.duty) member
    rw [assigned] at duty
    split at duty
    · cases duty
    · rename_i inner
      refine ⟨?_, inner⟩
      cases found : r.definition.task? name with
      | none =>
          rw [found] at duty
          cases duty
      | some t' =>
          rw [found] at duty
          obtain ⟨-, same, -⟩ := Task.of_mem_duties duty
          exact named.symm.trans (same.trans (ProcessDefinition.has_of_task? found).2)
  · rintro ⟨rfl, inner⟩
    unfold ProcessDefinition.Has at has
    rw [if_neg inner, has] at assigned
    obtain ⟨names, visited⟩ := passes
    unfold visit task at visited
    rw [if_neg inner, has] at visited
    obtain ⟨duty, rest, first⟩ :=
      List.exists_cons_of_ne_nil (dutiesOf_ne_nil sound (scripted.task has) visited)
    have own : duty ∈ r.dutiesOf t := first ▸ List.mem_cons_self ..
    have listed : duty ∈ more.map TaskRow.duty := by
      rw [assigned]
      exact own
    obtain ⟨row, member, rfl⟩ := List.mem_map.1 listed
    obtain ⟨id, task, type⟩ := Task.of_mem_duties own
    exact ⟨more, rows, row, member, task, type, id⟩

/-- What a walk from some names has taken when it has finished: these, and all names that it goes on
to from those it has taken. It has opened the tasks of the names, but none for the end. -/
structure Taken (r r' : Replay) (names taken : List String) : Prop where
  names : names ⊆ taken
  onward : ∀ name ∈ taken, r.definition.onward name ⊆ taken
  opens_iff : ∀ t, r.definition.Has t →
    (r.Opens r' t ↔ t.name ∈ taken ∧ t.name ≠ ProcessDefinition.endName)

theorem taken_of_walk {fuel : Nat} {queue entered all : List String} (scripted : r.Scripted roles)
    (sound : r.engine.tasks.Sound) (walked : walk fuel queue entered r = (.ok all, r')) :
    ∃ taken, all = entered ++ taken ∧ r.Taken r' queue taken := by
  induction fuel generalizing queue entered r with
  | zero =>
      cases queue with
      | nil =>
          cases walked
          exact ⟨[], (List.append_nil _).symm, List.Subset.refl _, by simp,
            fun t _ => by simp [not_opens_self]⟩
      | cons name rest => cases walked
  | succ fuel ih =>
      cases queue with
      | nil =>
          cases walked
          exact ⟨[], (List.append_nil _).symm, List.Subset.refl _, by simp,
            fun t _ => by simp [not_opens_self]⟩
      | cons name rest =>
          have kin := kin_visit r name
          have sound' := sound_visit sound name
          have id := processId_visit sound name
          have adds := adds_visit sound name
          have opens : ∀ t, r.definition.Has t → r.Passes name →
              (r.Opens (r.visit name).2 t ↔ t.name = name ∧ name ≠ ProcessDefinition.endName) :=
            fun _ => opens_visit_iff scripted sound
          unfold walk at walked
          rcases visited : r.visit name with ⟨err | next, r₁⟩
          · rw [visited] at walked
            cases walked
          · have passes : r.Passes name := ⟨next, by rw [visited]⟩
            have goesOn := visit_of_passes passes scripted sound
            rw [visited] at walked kin sound' id adds opens goesOn
            obtain rfl := Except.ok.inj goesOn
            dsimp only at walked kin sound' id adds opens
            obtain ⟨taken, rfl, past⟩ := ih (scripted.of_kin kin) sound' walked
            have later :=
              adds_walk fuel (rest ++ r.definition.onward name) (entered ++ [name]) sound'
            rw [walked] at later
            obtain ⟨left, on⟩ := List.append_subset.1 past.names
            refine ⟨name :: taken, by rw [List.append_assoc, List.singleton_append], ?_, ?_, ?_⟩
            · exact List.cons_subset_cons name left
            · refine List.forall_mem_cons.2
                ⟨List.subset_cons_of_subset name on, fun far member => ?_⟩
              exact List.subset_cons_of_subset name (kin.definition ▸ past.onward far member)
            · intro t has
              rw [opens_trans_iff adds later id, opens t has passes,
                past.opens_iff t (kin.definition.symm ▸ has), List.mem_cons, or_and_right]
              exact or_congr_left (and_congr_right fun same => by rw [same])

theorem exists_taken_of_advance {names : List String} {outcome : String}
    (scripted : r.Scripted roles) (sound : r.engine.tasks.Sound)
    (advanced : r.advance names = (.ok outcome, r')) : ∃ taken, r.Taken r' names taken := by
  unfold advance at advanced
  rcases walked : walk (budget r.definition names) names [] r with ⟨halt | all, r''⟩
  · rw [walked] at advanced
    cases advanced
  · rw [walked] at advanced
    cases advanced
    obtain ⟨taken, -, past⟩ := taken_of_walk scripted sound walked
    exact ⟨taken, past⟩

/-- A task that an advance has to enter: it was told to, or the task follows a service task that it
has entered. -/
inductive Calls (r r' : Replay) (names : List String) (t : Task) : Prop
  | told : t.name ∈ names → Calls r r' names t
  | follows {u : Task} : r.definition.Has u → Processor.ofTask u = .service → r.Opens r' u →
    t.name ∈ u.next → Calls r r' names t

theorem Taken.mem_of_calls {names taken : List String} (past : r.Taken r' names taken)
    (calls : r.Calls r' names t) : t.name ∈ taken := by
  cases calls with
  | told listed => exact past.names listed
  | @follows u has service opens next =>
      obtain ⟨member, inner⟩ := (past.opens_iff u has).1 opens
      refine past.onward u.name member ?_
      unfold ProcessDefinition.Has at has
      unfold ProcessDefinition.onward
      rw [if_neg inner, has]
      dsimp only
      rw [service]
      exact next

end Replay

/-! ## Moments -/

namespace Moment

variable {m m' : Moment}

/-- A walk is about to begin. -/
def GoesTo (m : Moment) (names : List String) : Prop :=
  ∃ step before, m.phase = .walking step before names []

/-- The names that are left are known, and so is the task whose row has been closed. -/
def Charted (m : Moment) : Prop :=
  match m.phase with
  | .walking _ _ queue _ => m.replay.definition.Knows queue
  | .following _ t _ _ => t ∈ m.replay.definition.tasks
  | _ => True

theorem charted_settle (r : Replay) (actions : List ActionSpec) (step : String)
    (result : Except WorkflowError String) : (settle r actions step result).Charted := by
  obtain ⟨steps, phase, same, settled⟩ := settle_eq r actions step result
  rw [same]
  cases settled <;> trivial

/-- Who has approved a task goes on to what follows it, or waits. -/
theorem charted_approved {r : Replay} {t : Task} (valid : r.definition.validate = .ok ())
    (member : t ∈ r.definition.tasks) (actions : List ActionSpec) (spec : ActionSpec)
    (c : Context) (taskId : Int) :
    (approved r actions spec taskId ((Processor.ofTask t).next t c r.engine)).Charted := by
  rcases answer : (Processor.ofTask t).next t c r.engine with ⟨err | ⟨_ | ⟨name, rest⟩⟩, e⟩
  · exact charted_settle { r with engine := e } actions _ (.error err)
  · exact charted_settle { r with engine := e } actions _ (.ok _)
  · have known := ProcessDefinition.knows_next_of_validate valid member
    have on := Processor.next_cases t c r.engine
    rw [answer] at on
    rcases on with follows | waits
    · rw [← Except.ok.inj follows] at known
      exact known
    · cases waits

theorem Charted.next {roles : ListenerSpec → ListenerSpec → Prop} (charted : m.Charted)
    (scripted : m.replay.Scripted roles) (sound : m.table.Sound)
    (valid : m.replay.definition.validate = .ok ()) (h : m.next = some m') : m'.Charted := by
  match m, h with
  | ⟨r, .opening, actions⟩, h =>
      rcases told : r.notifyProcess .create r.context with ⟨err | ⟨⟩, r'⟩
      · simp only [Moment.next, told] at h
        cases h
        exact charted_settle ..
      · simp only [Moment.next, told] at h
        cases h
        have kept : r'.definition = r.definition := congrArg (·.2.definition) told.symm
        exact ProcessDefinition.knows_start_of_validate (kept.symm ▸ valid)
  | ⟨r, .walking step before [] entered, actions⟩, h =>
      cases h
      exact charted_settle ..
  | ⟨r, .walking step before (name :: rest) entered, actions⟩, h =>
      cases h
      have guided : r.Guided roles (name :: rest) := ⟨scripted, sound, valid, charted⟩
      rcases visited : r.visit name with ⟨err | next, r'⟩
      · exact charted_settle ..
      · have later := guided.visit (congrArg Prod.fst visited)
        rw [visited] at later
        exact later.known
  | ⟨r, .resting, []⟩, h => cases h
  | ⟨r, .resting, spec :: actions⟩, h =>
      rcases target : r.target spec with err | ⟨t, row⟩
      · simp only [Moment.next, target] at h
        cases h
        exact charted_settle ..
      · simp only [Moment.next, target] at h
        cases h
        have has := (Replay.targets_of_target target).task
        unfold applied
        split
        · exact charted_settle ..
        · split
          · exact charted_settle ..
          · exact List.mem_of_find?_eq_some has
  | ⟨r, .following spec t c taskId, actions⟩, h =>
      cases followed_of_next h with
      | goesOn approves => exact charted_approved valid charted ..
      | handsOver action => exact charted_settle ..
      | closes veto final terminal => exact charted_settle ..
      | refuses action => exact charted_settle ..
  | ⟨r, .broken failure, actions⟩, h => cases h

theorem Leads.charted {start : Moment} (leads : Leads start m) (orderly : start.Orderly)
    (scripted : start.replay.Scripted roles) (valid : start.replay.definition.validate = .ok ())
    (charted : start.Charted) : m.Charted := by
  induction leads with
  | refl => exact charted
  | tail on h ih =>
      have same := (Leads.keeps on orderly).1
      exact ih.next (Leads.scripted on orderly scripted) (Leads.orderly on orderly).sound
        (same.symm ▸ valid) h

end Moment

/-- In a replay of an accepted scenario, whatever is done, no start and no walk comes to a name that
the process has no task of. And whenever a walk finishes, each task of the definition that it was
told to go to, or that follows a service task that it has entered, has got a row by it, exactly if
the task does not have the name of the end. -/
theorem Scenario.walked_as_defined_iff {s : Scenario} {now : Instant} {b : BuiltScenario}
    (built : s.build now = .ok b) (config : WorkflowConfig) (time : Instant)
    (actions : List ActionSpec) :
    (∀ message, (b.replay config time).startProcess.1 ≠ .error (.failed (.configuration message))) ∧
    ∀ m names, Moment.Leads (.begun (b.replay config time) actions) m → m.GoesTo names →
      (∀ message, (m.replay.advance names).1 ≠ .error (.failed (.configuration message))) ∧
      ∀ outcome r', m.replay.advance names = (.ok outcome, r') →
        ∀ t, b.definition.Has t → m.replay.Calls r' names t →
          (m.replay.Opens r' t ↔ t.name ≠ ProcessDefinition.endName) := by
  obtain ⟨orderly, -⟩ := Moment.orderly_begun built config time actions
  obtain ⟨-, -, -, -, -, -, valid, -⟩ := parts_of_build built
  have scripted := scripted_of_build built config time
  refine ⟨?_, ?_⟩
  · intro message failed
    exact (Replay.hindrance_of_startProcess scripted orderly.sound valid failed).ne_configuration
      message rfl
  · rintro m names leads ⟨step, before, walking⟩
    have same : m.replay.definition = b.definition := (Moment.Leads.keeps leads orderly).1
    have guided : m.replay.Guided (fun l l' => (l, l') ∈ s.listeners.zip s.listeners) names := by
      have charted := Moment.Leads.charted leads orderly scripted valid trivial
      rw [Moment.Charted, walking] at charted
      exact ⟨Moment.Leads.scripted leads orderly scripted,
        (Moment.Leads.orderly leads orderly).sound, same.symm ▸ valid, charted⟩
    refine ⟨?_, ?_⟩
    · intro message failed
      exact (guided.hindrance_of_advance failed).ne_configuration message rfl
    · intro outcome r' advanced t has calls
      obtain ⟨taken, past⟩ :=
        Replay.exists_taken_of_advance guided.scripted guided.sound advanced
      rw [past.opens_iff t (same.symm ▸ has)]
      exact and_iff_right (past.mem_of_calls calls)

/-! ## A walk that enters its tasks, and one that passes one over -/

/-- Where a walk goes that is about to begin, and how it ends. -/
def Moment.walk? (m : Moment) : Option (List String × String) :=
  match m.phase with
  | .walking _ _ names [] => ((m.replay.advance names).1.toOption).map (names, ·)
  | _ => none

theorem Moment.goesTo_of_walk? {m : Moment} {names : List String} {outcome : String}
    (walks : m.walk? = some (names, outcome)) :
    m.GoesTo names ∧ m.replay.advance names = (.ok outcome, (m.replay.advance names).2) := by
  unfold walk? at walks
  split at walks
  · rename_i step before names' walking
    obtain ⟨outcome', there, same⟩ := Option.map_eq_some_iff.1 walks
    cases same
    refine ⟨⟨step, before, walking⟩, Prod.ext ?_ rfl⟩
    cases went : (m.replay.advance names).1 with
    | error halt =>
        rw [went] at there
        cases there
    | ok all =>
        rw [went] at there
        cases there
        rfl
  · cases walks

namespace Scenario

/-- A task that has the name of the end. -/
def misnamed : Scenario where
  process := ⟨1, "P", none, "carol", none, ["end"]⟩
  form := none
  tasks := [⟨"end", none, .user ["alice"] false none, ["end"]⟩]
  listeners := []
  actions := []

/-- The process with two branches enters the task that follows the second one, behind its end. -/
theorem fork_walked_as_defined : ∃ b m r' outcome t, fork.build default = .ok b ∧
    Moment.Leads (.begun (b.replay .standard default) b.actions) m ∧
    m.GoesTo ["left", "right"] ∧ m.replay.advance ["left", "right"] = (.ok outcome, r') ∧
    b.definition.Has t ∧ t.name = "audit" ∧ m.replay.Opens r' t := by
  have walked : fork.moment?.map (fun m => ((m.after 1).walk?,
      (m.replay.definition.task? "right").map fun t => (Processor.ofTask t, t.next),
      (m.replay.definition.task? "audit").isSome)) =
      some (some (["left", "right"], "entered left -> right -> end -> audit -> end"),
        some (.service, ["audit", "end"]), true) := by
    decide +kernel
  obtain ⟨m, there, walked⟩ := Option.map_eq_some_iff.1 walked
  obtain ⟨b, built, rfl⟩ := build_of_moment? there
  simp only [Prod.mk.injEq] at walked
  obtain ⟨walks, right, audit⟩ := walked
  obtain ⟨goes, advanced⟩ := Moment.goesTo_of_walk? walks
  obtain ⟨u, found, right⟩ := Option.map_eq_some_iff.1 right
  obtain ⟨hasRight, named⟩ := ProcessDefinition.has_of_task? found
  obtain ⟨service, next⟩ := Prod.mk.inj right
  obtain ⟨t, found'⟩ := Option.isSome_iff_exists.1 audit
  obtain ⟨hasAudit, named'⟩ := ProcessDefinition.has_of_task? found'
  have leads := Moment.leads_after 1 (.begun (b.replay .standard default) b.actions)
  have opens := ((walked_as_defined_iff built .standard default b.actions).2 _ _ leads goes).2 _ _
    advanced
  have opensRight := (opens u hasRight (.told (by rw [named]; decide))).2 (by rw [named]; decide)
  refine ⟨b, _, _, _, t, built, leads, goes, advanced, hasAudit, named', ?_⟩
  obtain ⟨orderly, -⟩ := Moment.orderly_begun built .standard default b.actions
  have kept := (Moment.Leads.keeps leads orderly).1
  refine (opens t hasAudit (.follows ?_ service opensRight ?_)).2 (by rw [named']; decide)
  · rw [kept]
    exact hasRight
  · rw [next, named']
    decide

/-- The task that has the name of the end gets no row, though the walk is told to go to it. -/
theorem misnamed_passed_over : ∃ b m r' outcome t, misnamed.build default = .ok b ∧
    Moment.Leads (.begun (b.replay .standard default) b.actions) m ∧
    m.GoesTo ["end"] ∧ m.replay.advance ["end"] = (.ok outcome, r') ∧
    b.definition.Has t ∧ t.name ∈ ["end"] ∧ ¬ m.replay.Opens r' t := by
  have walked : misnamed.moment?.map (fun m => ((m.after 1).walk?,
      (m.replay.definition.task? "end").isSome,
      ((m.after 1).replay.advance ["end"]).2.engine.tasks.rows.isEmpty)) =
      some (some (["end"], "entered end"), true, true) := by
    decide +kernel
  obtain ⟨m, there, walked⟩ := Option.map_eq_some_iff.1 walked
  obtain ⟨b, built, rfl⟩ := build_of_moment? there
  simp only [Prod.mk.injEq] at walked
  obtain ⟨walks, defined, bare⟩ := walked
  obtain ⟨goes, advanced⟩ := Moment.goesTo_of_walk? walks
  obtain ⟨t, found⟩ := Option.isSome_iff_exists.1 defined
  obtain ⟨has, named⟩ := ProcessDefinition.has_of_task? found
  have leads := Moment.leads_after 1 (.begun (b.replay .standard default) b.actions)
  refine ⟨b, _, _, _, t, built, leads, goes, advanced, has, ?_, ?_⟩
  · rw [named]
    exact List.mem_singleton_self _
  · rintro ⟨more, rows, row, member, -⟩
    rw [List.isEmpty_iff.1 bare] at rows
    rw [(List.append_eq_nil_iff.1 rows.symm).2] at member
    cases member

end Scenario

end ApprovalFlow
