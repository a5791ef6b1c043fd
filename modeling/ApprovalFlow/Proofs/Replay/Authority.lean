import ApprovalFlow.Proofs.Replay.Additions
import ApprovalFlow.Proofs.Replay.Shape
import ApprovalFlow.Proofs.Store.History
import ApprovalFlow.Proofs.Tasks.Decision
import ApprovalFlow.Proofs.Tasks.Entering

/-!
# Who may act, and on which row

A task can have several rows that wait, each for people of its own: one for everybody who has to
approve, and others for those whom it has been handed to. Somebody who is listed acts on the first
row that lists him, and only on that; somebody who is listed on none of them is told so.

* `Replay.exists_openRow`: the row that is looked for is the one with the lowest id.
* `Replay.Leaves.adds`: whatever follows, all other rows stay as they were.
* `Scenario.acts_on_own_row`: who is refused, and what is done for all others.
-/

namespace ApprovalFlow

/-- The action that is asked for, on a row. -/
def ActionSpec.on (spec : ActionSpec) (row : TaskRow) : ActionRequest :=
  ⟨spec.action, spec.operator, spec.remark, spec.form, spec.transferTo, row⟩

theorem WorkflowError.ordinary_unauthorized (user approvers : String) :
    (unauthorized user approvers).Ordinary :=
  ⟨rfl, by rintro _ _ ⟨⟩⟩

theorem Processor.ofTask_of_user {t : Task} {p : UserPart} (kind : t.kind = .user p) :
    ofTask t = .user := by
  rw [ofTask, kind]

/-- What only an approver may do closes rows. -/
theorem UserTask.supported_of_approverOnly {action : Action} (decides : action ∈ approverOnly) :
    action ∈ supported := by
  revert decides
  cases action <;> decide

theorem TaskForm.validate_error {form : TaskForm} {err : WorkflowError}
    (invalid : form.validate = .error err) : ∃ message, err = .formValidation message := by
  unfold validate at invalid
  split at invalid
  · exact ⟨_, (Except.error.inj invalid).symm⟩
  · split at invalid
    · exact ⟨_, (Except.error.inj invalid).symm⟩
    · cases invalid
  · exact ⟨_, (Except.error.inj invalid).symm⟩
  · split at invalid
    · exact ⟨_, (Except.error.inj invalid).symm⟩
    · cases invalid

/-- What is wrong with a form has nothing to do with who hands it in. -/
theorem UserTask.FormFault.ne_unauthorized {p : UserPart} {a : ActionRequest} {err : WorkflowError}
    (fault : FormFault p a err) (user approvers : String) : err ≠ .unauthorized user approvers := by
  rintro rfl
  cases fault with
  | invalid _ _ _ invalid =>
      obtain ⟨message, other⟩ := TaskForm.validate_error invalid
      cases other

namespace Replay

/-! ## The rows that wait -/

/-- A row of a task that waits for somebody. -/
structure Waits (r : Replay) (t : Task) (row : TaskRow) : Prop where
  there : row ∈ r.engine.tasks.rows
  named : row.name = t.name
  pending : row.status = .pending

/-- The first of the rows of a task that wait for a person. -/
structure WaitsFirst (r : Replay) (t : Task) (user : String) (row : TaskRow) : Prop where
  waits : r.Waits t row
  listed : user ∈ row.approverList
  lowest : ∀ other, r.Waits t other → user ∈ other.approverList → row.id ≤ other.id

/-- Every row of the table is one of the replay's process. -/
def Alone (r : Replay) : Prop :=
  ∀ row ∈ r.engine.tasks.rows, row.processId = r.process.id

/-- The rows among which the one for an action is looked for. -/
def openRows (r : Replay) (task : String) : List TaskRow :=
  (r.engine.tasks.ofProcess r.process.id).filter fun row =>
    row.name == task && !row.status.isTerminal

variable {r : Replay} {t : Task} {p : UserPart} {spec : ActionSpec} {row : TaskRow} {user : String}

theorem openRow_eq (r : Replay) (task user : String) : r.openRow task user =
    match ((r.openRows task).find? (·.isApprover user)).or (r.openRows task).head? with
    | some row => .ok row
    | none => .error (.invalidState ("task " ++ task ++ " has no pending row")) :=
  rfl

theorem mem_openRows_iff (alone : r.Alone) : row ∈ r.openRows t.name ↔ r.Waits t row := by
  unfold openRows TaskTable.ofProcess
  simp only [List.mem_filter, Bool.and_eq_true, beq_iff_eq, TaskStatus.isTerminal,
    Bool.not_eq_true', bne_eq_false_iff_eq]
  constructor
  · rintro ⟨⟨there, -⟩, named, pending⟩
    exact ⟨there, named, pending⟩
  · rintro ⟨there, named, pending⟩
    exact ⟨⟨there, alone row there⟩, named, pending⟩

/-- Somebody who is listed finds the first row that lists him. -/
theorem exists_openRow (numbered : r.engine.tasks.Numbered) (alone : r.Alone)
    (listed : ∃ row, r.Waits t row ∧ user ∈ row.approverList) :
    ∃ row, r.WaitsFirst t user row ∧ r.openRow t.name user = .ok row := by
  obtain ⟨row, waits, lists⟩ := listed
  have some : ((r.openRows t.name).find? (·.isApprover user)).isSome = true :=
    List.find?_isSome.2 ⟨row, (mem_openRows_iff alone).2 waits,
      UserTask.isApprover_iff_mem.2 lists⟩
  obtain ⟨first, found⟩ := Option.isSome_iff_exists.1 some
  obtain ⟨own, before, after, split, others⟩ := List.find?_eq_some_iff_append.1 found
  have ascending : (before ++ first :: after).Pairwise (·.id < ·.id) :=
    split ▸ (numbered.ascending.filter _).filter _
  refine ⟨first, ⟨(mem_openRows_iff alone).1 (List.mem_of_find?_eq_some found),
    UserTask.isApprover_iff_mem.1 own, ?_⟩, ?_⟩
  · intro other waits lists
    have member := (mem_openRows_iff alone).2 waits
    rw [split] at member
    rcases List.mem_append.1 member with earlier | later
    · have stranger := others other earlier
      rw [UserTask.isApprover_iff_mem.2 lists] at stranger
      cases stranger
    · rcases List.mem_cons.1 later with rfl | last
      · exact Int.le_refl _
      · have behind := (List.pairwise_cons.1 (List.pairwise_append.1 ascending).2.1).1
        exact Int.le_of_lt (behind other last)
  · rw [openRow_eq, found, Option.some_or]

/-- Somebody who is listed on no row finds the first row that waits. -/
theorem openRow_of_stranger (alone : r.Alone) (waits : r.Waits t row)
    (stranger : ∀ row, r.Waits t row → user ∉ row.approverList) :
    ∃ first, r.Waits t first ∧ r.openRow t.name user = .ok first := by
  have missing : (r.openRows t.name).find? (·.isApprover user) = none := by
    refine List.find?_eq_none.2 fun other member lists => ?_
    exact stranger other ((mem_openRows_iff alone).1 member) (UserTask.isApprover_iff_mem.1 lists)
  have member := (mem_openRows_iff alone).2 waits
  obtain ⟨first, rest, rows⟩ := List.exists_cons_of_ne_nil (List.ne_nil_of_mem member)
  refine ⟨first, (mem_openRows_iff alone).1 (rows ▸ List.mem_cons_self ..), ?_⟩
  rw [openRow_eq, missing, rows, Option.none_or, List.head?_cons]

theorem openRow_of_idle (alone : r.Alone) (idle : ∀ row, ¬ r.Waits t row) (user : String) :
    r.openRow t.name user =
      .error (.invalidState ("task " ++ t.name ++ " has no pending row")) := by
  have rows : r.openRows t.name = [] :=
    List.eq_nil_iff_forall_not_mem.2 fun row member => idle row ((mem_openRows_iff alone).1 member)
  rw [openRow_eq, rows, List.find?_nil, List.head?_nil, Option.or_none]

theorem target_eq (opened : r.process.status = .processing) (has : r.definition.Has t)
    (onTask : spec.task = t.name) :
    r.target spec = (r.openRow t.name spec.operator).map fun row => (t, row) := by
  have found : r.task spec.task = .ok t := by
    unfold task
    rw [onTask, show r.definition.task? t.name = some t from has]
  unfold target
  rw [if_neg (not_not_intro opened), found, onTask]
  change Except.bind (r.openRow t.name spec.operator) _ = _
  cases r.openRow t.name spec.operator <;> rfl

/-! ## Acting on a row -/

section Acting

variable (sound : r.engine.tasks.Sound) (kind : t.kind = .user p) (waits : r.Waits t row)
  (decides : spec.action ∈ UserTask.approverOnly)

include sound kind waits decides

/-- Of a row that waits there are three things only that an action may have to be refused for. -/
theorem Waits.holds {k : UserTask.Condition} (other : k ∉ [.approver, .form, .extParams]) :
    k.Holds (r.actionContext spec t row) r.engine.tasks := by
  cases k with
  | element => exact ⟨t, rfl⟩
  | people => exact ⟨t, p, rfl, kind⟩
  | action => exact ⟨_, rfl⟩
  | supported => exact ⟨_, rfl, UserTask.supported_of_approverOnly decides⟩
  | pending => exact ⟨_, rfl, waits.pending⟩
  | named => exact ⟨t, _, rfl, rfl, waits.named⟩
  | current =>
      exact ⟨_, rfl, row, sound.numbered.get?_eq_some_iff.2 ⟨waits.there, rfl⟩, rfl⟩
  | approver | form | extParams => exact (other (by decide)).elim

/-- Who is not listed on the row is told so. -/
theorem Waits.complete_of_stranger (stranger : spec.operator ∉ row.approverList) :
    UserTask.complete (r.actionContext spec t row) r.engine =
      ⟨.error (.unauthorized spec.operator row.approvers), r.actionContext spec t row,
        r.engine⟩ := by
  have first : UserTask.Condition.approver.IsFirstUnmet (r.actionContext spec t row)
      r.engine.tasks := by
    refine ⟨?_, fun j before => waits.holds sound kind decides ?_⟩
    · rintro ⟨a, action, lists⟩
      cases action
      exact stranger (lists decides)
    · revert before
      cases j <;> decide
  obtain ⟨err, tells, refused⟩ := UserTask.refused_of_isFirstUnmet first
  cases tells with
  | approver action =>
      cases action
      exact refused

variable (lists : spec.operator ∈ row.approverList)

include lists

/-- Who is listed is refused for a form that does not fit. -/
theorem Waits.complete_of_unfit (unfit : ¬ UserTask.FormFits p (spec.on row)) :
    ∃ err, UserTask.FormFault p (spec.on row) err ∧
      UserTask.complete (r.actionContext spec t row) r.engine =
        ⟨.error err, r.actionContext spec t row, r.engine⟩ := by
  have first : UserTask.Condition.form.IsFirstUnmet (r.actionContext spec t row)
      r.engine.tasks := by
    refine ⟨?_, fun j before => ?_⟩
    · rintro ⟨t', p', a, current, kind', action, fits⟩
      cases current
      cases action
      rw [kind, TaskKind.user.injEq] at kind'
      exact unfit (kind' ▸ fits)
    · by_cases own : j = .approver
      · rw [own]
        exact ⟨_, rfl, fun _ => lists⟩
      · refine waits.holds sound kind decides ?_
        revert before own
        cases j <;> decide
  obtain ⟨err, tells, refused⟩ := UserTask.refused_of_isFirstUnmet first
  cases tells with
  | form current kind' action fault =>
      cases current
      cases action
      rw [kind, TaskKind.user.injEq] at kind'
      exact ⟨err, kind' ▸ fault, refused⟩

/-- Otherwise the row is closed as the action says, and nothing else is stored. -/
theorem Waits.complete_of_fits (unnoted : row.Unnoted)
    (fits : UserTask.FormFits p (spec.on row)) :
    ∃ status params, spec.action.taskStatus = some status ∧
      ExtParams.merge (UserTask.targets (spec.on row)) row.extParams = some params ∧
      r.engine.tasks.ClosedBy
        (UserTask.complete (r.actionContext spec t row) r.engine).engine.tasks row
        (UserTask.storedRow p (spec.on row) status params r.engine.now) := by
  have able := UserTask.supported_of_approverOnly decides
  obtain ⟨event, follows⟩ := UserTask.taskEvent_of_supported (a := spec.on row) able
  have proposed : UserTask.Proposed (r.actionContext spec t row) t p (spec.on row) event :=
    ⟨rfl, kind, rfl, able, follows⟩
  have holds : ∀ k, k ≠ UserTask.Condition.current →
      k.Holds (r.actionContext spec t row) r.engine.tasks := by
    intro k _
    by_cases three : k ∈ [UserTask.Condition.approver, .form, .extParams]
    · simp only [List.mem_cons, List.not_mem_nil, or_false] at three
      rcases three with rfl | rfl | rfl
      · exact ⟨_, rfl, fun _ => lists⟩
      · exact ⟨t, p, _, rfl, kind, rfl, fits⟩
      · refine ⟨_, rfl, ?_⟩
        dsimp only
        rw [unnoted waits.pending]
        trivial
    · exact waits.holds sound kind decides three
  obtain ⟨status, params, closes, merged, planned⟩ := proposed.plan_eq_ok holds r.engine.now
  obtain ⟨e', by_, -, -, same⟩ := UserTask.complete_of_plan sound rfl waits.there planned
  refine ⟨status, params, closes, merged, ?_⟩
  rw [same, (Engine.heard_notify e' event _).tasks]
  exact by_

end Acting

/-! ## What a step leaves behind -/

/-- The tables that a step leaves behind: the one at its end, and those at its moments. There is no
end of them if it walks in a circle. -/
inductive Leaves (r : Replay) (spec : ActionSpec) : TaskTable → Prop
  | outcome : Leaves r spec (r.apply spec).2.engine.tasks
  | moment {later : List ActionSpec} {m : Moment} :
    Moment.Leads ⟨r, .resting, spec :: later⟩ m → m.actions = later → Leaves r spec m.table

/-- A step leaves what completing the task leaves, and rows that it has added. -/
theorem Leaves.adds {table : TaskTable} (leaves : r.Leaves spec table)
    (orderly : ∀ actions, (Moment.mk r .resting actions).Orderly)
    (target : r.target spec = .ok (t, row)) :
    ((Processor.ofTask t).complete (r.actionContext spec t row) r.engine).engine.tasks.Adds
      table := by
  have first : ∀ later, Moment.next ⟨r, .resting, spec :: later⟩ =
      some (.applied r later spec t
        ((Processor.ofTask t).complete (r.actionContext spec t row) r.engine)) := by
    intro later
    simp only [Moment.next, target]
  cases leaves with
  | outcome =>
      have sound := ((orderly _).next (first [])).sound
      rw [Moment.table_applied] at sound
      rcases done : (Processor.ofTask t).complete (r.actionContext spec t row) r.engine with
        ⟨answer, c, e⟩
      rw [done] at sound
      rw [apply_of_target target done]
      exact adds_dealWith (r := { r with engine := e }) sound t spec (answer, c)
  | @moment later m leads within =>
      rcases Relation.ReflTransGen.cases_head leads with rfl | ⟨second, h, on⟩
      · exact (List.cons_ne_self _ _ within).elim
      · rw [first, Option.some.injEq] at h
        rw [← Moment.table_applied r later spec t, h]
        refine Moment.Leads.adds_within on ((orderly _).next (h ▸ first later)) (within.trans ?_)
        rw [← h, Moment.actions_applied]

/-- A step that is refused at once leaves everything as it was. -/
theorem Leaves.eq_of_refused {table : TaskTable} {err : WorkflowError} {c : Context}
    (leaves : r.Leaves spec table) (target : r.target spec = .ok (t, row))
    (refused : (Processor.ofTask t).complete (r.actionContext spec t row) r.engine =
      ⟨.error err, c, r.engine⟩) : table = r.engine.tasks := by
  cases leaves with
  | outcome => rw [apply_of_target target refused, dealWith]
  | @moment later m leads within =>
      rcases Relation.ReflTransGen.cases_head leads with rfl | ⟨second, h, on⟩
      · exact (List.cons_ne_self _ _ within).elim
      · simp only [Moment.next, target, refused, Option.some.injEq] at h
        have left : second.actions = later := h ▸ Moment.actions_applied ..
        have same : second.table = r.engine.tasks := h ▸ Moment.table_applied ..
        have settled : second.phase.Settled := h ▸ Moment.settled_settle ..
        rcases Relation.ReflTransGen.cases_head on with rfl | ⟨third, h', on'⟩
        · exact same
        -- Nothing comes after a settled moment but the next action.
        · obtain ⟨r', phase, actions⟩ := second
          cases settled with
          | broken => cases h'
          | resting =>
              refine (Moment.ne_actions_of_resting h' ?_).elim
              refine (Moment.suffix_next h').eq_of_length_le ?_
              rw [show actions = later from left, ← within]
              exact (Moment.Leads.suffix on').length_le

/-! ## Being refused for not being listed -/

variable {roles : ListenerSpec → ListenerSpec → Prop}

/-- Once the row is found a step fails as unauthorized only by the check of the operator. -/
theorem complete_of_unauthorized {approvers : String} (sound : r.engine.tasks.Sound)
    (scripted : r.Scripted roles) (decides : spec.action ∈ UserTask.approverOnly)
    (target : r.target spec = .ok (t, row))
    (failed : (r.apply spec).1 = .error (.failed (.unauthorized user approvers))) :
    ((Processor.ofTask t).complete (r.actionContext spec t row) r.engine).result =
      .error (.unauthorized user approvers) := by
  have ordinary := WorkflowError.ordinary_unauthorized user approvers
  rcases done : (Processor.ofTask t).complete (r.actionContext spec t row) r.engine with
    ⟨err | yes, c, e⟩
  · rw [apply_of_target target done] at failed
    cases failed
    rfl
  · obtain ⟨start | ⟨transfer, nobody⟩, -, closed, -, context⟩ :=
      barred_of_completed scripted sound target done (Prod.ext failed rfl) ordinary
    · rw [start] at decides
      exact absurd decides (by decide)
    -- A transfer to nobody is refused as one.
    · have request : ((r.actionContext spec t row).withRow closed).request = .ok _ := rfl
      rw [apply_of_target target done, context] at failed
      simp only [dealWith, request, followUp, transfer, nobody, Replay.transfer] at failed
      cases failed

/-! ## Acting with authority -/

/-- A step acts on a row, and on no other one that was there. -/
structure ActsOn (r : Replay) (t : Task) (p : UserPart) (spec : ActionSpec) (row : TaskRow) :
    Prop where
  chosen : r.target spec = .ok (t, row)
  /-- If the form is the one that has to come, the row is closed as the action says. Whatever
  follows, and however the step ends, the closed row is in the place of the row then, and all others
  that were there are as they were. -/
  closes : UserTask.FormFits p (spec.on row) → ∃ status params,
    spec.action.taskStatus = some status ∧
    ExtParams.merge (UserTask.targets (spec.on row)) row.extParams = some params ∧
    ∀ table, r.Leaves spec table →
      (r.engine.tasks.replace
        (UserTask.storedRow p (spec.on row) status params r.engine.now)).rows <+: table.rows
  /-- Otherwise the step fails for the form, and everything stays as it was. -/
  refuses : ¬ UserTask.FormFits p (spec.on row) → ∃ err, UserTask.FormFault p (spec.on row) err ∧
    r.apply spec = (.error (.failed err), r) ∧ ∀ table, r.Leaves spec table →
      table = r.engine.tasks

/-- What becomes of a step by which somebody decides on a task that people approve. -/
structure Authority (r : Replay) (t : Task) (p : UserPart) (spec : ActionSpec) : Prop where
  /-- It fails as unauthorized if rows of the task wait and none lists the operator, and only
  then. -/
  unauthorized_iff : (∃ user approvers,
      (r.apply spec).1 = .error (.failed (.unauthorized user approvers))) ↔
    (∃ row, r.Waits t row) ∧ ∀ row, r.Waits t row → spec.operator ∉ row.approverList
  /-- If some row lists the operator, the first that does is acted on. -/
  acts : (∃ row, r.Waits t row ∧ spec.operator ∈ row.approverList) →
    ∃ row, r.WaitsFirst t spec.operator row ∧ r.ActsOn t p spec row

/-- What is known of a replay at rest. -/
structure Ready (roles : ListenerSpec → ListenerSpec → Prop) (r : Replay) : Prop where
  orderly : ∀ actions, (Moment.mk r .resting actions).Orderly
  scripted : r.Scripted roles
  alone : r.Alone
  unnoted : ∀ row ∈ r.engine.tasks.rows, row.Unnoted

theorem Ready.sound (ready : r.Ready roles) : r.engine.tasks.Sound :=
  (ready.orderly []).sound

/-- Who is listed on the row that is found is not told that he is not. -/
theorem Ready.not_unauthorized_of_listed {approvers : String} (ready : r.Ready roles)
    (kind : t.kind = .user p) (decides : spec.action ∈ UserTask.approverOnly)
    (chosen : r.target spec = .ok (t, row)) (first : r.WaitsFirst t spec.operator row) :
    (r.apply spec).1 ≠ .error (.failed (.unauthorized user approvers)) := by
  intro failed
  have isUser := Processor.ofTask_of_user kind
  have refused := complete_of_unauthorized ready.sound ready.scripted decides chosen failed
  rw [isUser] at refused
  by_cases fits : UserTask.FormFits p (spec.on row)
  · obtain ⟨status, params, -, -, by_⟩ := first.waits.complete_of_fits ready.sound kind decides
      first.listed (ready.unnoted row first.waits.there) fits
    have twin := ready.scripted.actionContext (targets_of_target chosen).task spec row
    rcases Processor.user.complete_cases ready.sound ready.scripted.engine twin rfl
      first.waits.there with ⟨_, -, kept⟩ | ⟨_, -, -, spoken⟩
    · have added := by_.added
      rw [show UserTask.complete _ r.engine = Processor.user.complete _ r.engine from rfl, kept,
        TaskTable.added_self] at added
      cases added
    · exact spoken _ refused (WorkflowError.ordinary_unauthorized user approvers)
  · obtain ⟨err, fault, unfit⟩ := first.waits.complete_of_unfit ready.sound kind decides
      first.listed fits
    rw [Processor.complete, unfit] at refused
    exact fault.ne_unauthorized user approvers (Except.error.inj refused)

section Deciding

variable (ready : r.Ready roles) (opened : r.process.status = .processing)
  (has : r.definition.Has t) (kind : t.kind = .user p) (onTask : spec.task = t.name)
  (decides : spec.action ∈ UserTask.approverOnly)

include ready opened has kind onTask decides

/-- Somebody who is listed acts on the first row that lists him. -/
theorem Ready.acts (listed : ∃ row, r.Waits t row ∧ spec.operator ∈ row.approverList) :
    ∃ row, r.WaitsFirst t spec.operator row ∧ r.ActsOn t p spec row := by
  have isUser := Processor.ofTask_of_user kind
  obtain ⟨row, first, found⟩ := exists_openRow ready.sound.numbered ready.alone listed
  have chosen : r.target spec = .ok (t, row) := by
    rw [target_eq opened has onTask, found]
    rfl
  refine ⟨row, first, chosen, ?_, ?_⟩
  · intro fits
    obtain ⟨status, params, closes, merged, by_⟩ := first.waits.complete_of_fits ready.sound
      kind decides first.listed (ready.unnoted row first.waits.there) fits
    refine ⟨status, params, closes, merged, fun table leaves => ?_⟩
    have adds := leaves.adds ready.orderly chosen
    rw [isUser, Processor.complete, by_.eq_replace ready.sound.numbered] at adds
    exact adds.isPrefix
  · intro unfit
    obtain ⟨err, fault, refused⟩ := first.waits.complete_of_unfit ready.sound kind decides
      first.listed unfit
    have refused' : (Processor.ofTask t).complete (r.actionContext spec t row) r.engine =
        ⟨.error err, r.actionContext spec t row, r.engine⟩ := by
      rw [isUser]
      exact refused
    refine ⟨err, fault, ?_, fun table leaves => leaves.eq_of_refused chosen refused'⟩
    rw [apply_of_target chosen refused']
    rfl

theorem Ready.unauthorized_iff : (∃ user approvers,
      (r.apply spec).1 = .error (.failed (.unauthorized user approvers))) ↔
    (∃ row, r.Waits t row) ∧ ∀ row, r.Waits t row → spec.operator ∉ row.approverList := by
  have isUser := Processor.ofTask_of_user kind
  constructor
  · rintro ⟨user, approvers, failed⟩
    constructor
    · by_contra idle
      have missing := target_eq opened has onTask
      rw [openRow_of_idle ready.alone (not_exists.1 idle)] at missing
      rw [apply_of_untargeted missing] at failed
      cases failed
    · intro row waits lists
      obtain ⟨first, own, acts⟩ := ready.acts opened has kind onTask decides ⟨row, waits, lists⟩
      exact ready.not_unauthorized_of_listed kind decides acts.chosen own failed
  · rintro ⟨⟨row, waits⟩, strangers⟩
    obtain ⟨first, waits', found⟩ := openRow_of_stranger ready.alone waits strangers
    have chosen : r.target spec = .ok (t, first) := by
      rw [target_eq opened has onTask, found]
      rfl
    have refused := waits'.complete_of_stranger ready.sound kind decides (strangers first waits')
    rw [← Processor.complete, ← isUser] at refused
    refine ⟨spec.operator, first.approvers, ?_⟩
    rw [apply_of_target chosen refused]
    rfl

end Deciding

end Replay

/-! ## Accepted scenarios -/

theorem Scenario.ready_of_leads {s : Scenario} {now : Instant} {b : BuiltScenario}
    (built : s.build now = .ok b) {config : WorkflowConfig} {time : Instant}
    {actions : List ActionSpec} {r : Replay} {rest : List ActionSpec}
    (leads : Moment.Leads (.begun (b.replay config time) actions) ⟨r, .resting, rest⟩) :
    r.Ready fun l l' => (l, l') ∈ s.listeners.zip s.listeners := by
  obtain ⟨orderly, -⟩ := Moment.orderly_begun built config time actions
  have scripted := scripted_of_build built config time
  have ordered := Moment.Leads.orderly leads orderly
  exact ⟨fun _ => ⟨ordered.sound, ordered.opened, ordered.closed⟩,
    Moment.Leads.scripted leads orderly scripted,
    fun row member => Moment.Leads.processId_eq leads orderly rfl member,
    Moment.Leads.unnoted leads orderly scripted rfl⟩

/-- In the replay of an accepted scenario, whenever a step may come while the process is open, and
whatever has been done before: somebody who approves or rejects a task that people approve, or hands
it over, is refused as unauthorized exactly if rows of the task wait and none of them lists him; and
otherwise acts on the first row that lists him, and on no other, however far the step goes on. -/
theorem Scenario.acts_on_own_row {s : Scenario} {now : Instant} {b : BuiltScenario}
    (built : s.build now = .ok b) (config : WorkflowConfig) (time : Instant)
    (actions : List ActionSpec) {r : Replay} {rest : List ActionSpec}
    (leads : Moment.Leads (.begun (b.replay config time) actions) ⟨r, .resting, rest⟩)
    (opened : r.process.status = .processing) {t : Task} {p : UserPart}
    (has : r.definition.Has t) (kind : t.kind = .user p) {spec : ActionSpec}
    (onTask : spec.task = t.name) (decides : spec.action ∈ [.approve, .reject, .transfer]) :
    r.Authority t p spec := by
  have ready := ready_of_leads built leads
  exact ⟨ready.unauthorized_iff opened has kind onTask decides,
    ready.acts opened has kind onTask decides⟩

/-! ## A task that waits twice -/

namespace Scenario

/-- A task that is entered twice, so that two rows wait for one person; an engine's own task and one
for somebody else come after it. -/
def twice : Scenario where
  process := ⟨1, "P", none, "carol", none, ["review", "review"]⟩
  form := none
  tasks := [⟨"review", none, .user ["alice"] false none, ["archive"]⟩,
    ⟨"archive", none, .service [], ["audit"]⟩,
    ⟨"audit", none, .user ["dave"] false none, ["end"]⟩]
  listeners := []
  actions := []

/-- The person for whom the rows wait approves. -/
def byAlice : ActionSpec :=
  ⟨"review", "alice", .approve, none, none, []⟩

/-- A stranger is refused. The person approves the first row, the process goes on to the other
tasks, and the second row still waits. -/
theorem twice_acts_once : ∃ b r rest t p, twice.build default = .ok b ∧
    Moment.Leads (.begun (b.replay .standard default) b.actions) ⟨r, .resting, rest⟩ ∧
    r.process.status = .processing ∧ r.definition.Has t ∧ t.kind = .user p ∧
    byStranger.task = t.name ∧ r.Authority t p byStranger ∧
    (r.apply byStranger).1 = .error (.failed (.unauthorized "mallory" "alice")) ∧
    byAlice.task = t.name ∧ r.Authority t p byAlice ∧
    r.engine.tasks.rows.map (fun row => (row.id, row.name, row.status)) =
      [(1, "review", .pending), (2, "review", .pending)] ∧
    (r.apply byAlice).2.engine.tasks.rows.map (fun row => (row.id, row.name, row.status)) =
      [(1, "review", .approved), (2, "review", .pending), (3, "archive", .completed),
        (4, "audit", .pending)] := by
  have shown : twice.moment?.bind (fun m => ((m.after 4).refusal? byStranger).map fun err =>
      (err, (m.after 4).status,
        ((m.after 4).replay.definition.task? "review").map (·.typeName))) =
      some (.unauthorized "mallory" "alice", .processing, some Task.userType) := by
    decide +kernel
  have rows : twice.moment?.map (fun m =>
      ((m.after 4).table.rows.map (fun row => (row.id, row.name, row.status)),
        ((m.after 4).replay.apply byAlice).2.engine.tasks.rows.map
          fun row => (row.id, row.name, row.status))) =
      some ([(1, "review", .pending), (2, "review", .pending)],
        [(1, "review", .approved), (2, "review", .pending), (3, "archive", .completed),
          (4, "audit", .pending)]) := by
    decide +kernel
  obtain ⟨m, there, shown⟩ := Option.bind_eq_some_iff.1 shown
  rw [there, Option.map_some, Option.some.injEq, Prod.mk.injEq] at rows
  obtain ⟨before, after⟩ := rows
  obtain ⟨err, refused, shown⟩ := Option.map_eq_some_iff.1 shown
  simp only [Prod.mk.injEq] at shown
  obtain ⟨rfl, opened, type⟩ := shown
  obtain ⟨t, found, isUser⟩ := Option.map_eq_some_iff.1 type
  obtain ⟨p, kind⟩ := Task.typeName_eq_userType_iff.1 isUser
  obtain ⟨has, name⟩ := ProcessDefinition.has_of_task? found
  obtain ⟨b, built, rfl⟩ := build_of_moment? there
  obtain ⟨resting, failed⟩ := Moment.apply_of_refusal? refused
  have leads := Moment.leads_after 4 (.begun (b.replay .standard default) b.actions)
  rw [resting] at leads
  exact ⟨b, _, _, t, p, built, leads, opened, has, kind, name.symm,
    acts_on_own_row built _ _ _ leads opened has kind name.symm (by decide),
    congrArg Prod.fst failed, name.symm,
    acts_on_own_row built _ _ _ leads opened has kind name.symm (by decide), before, after⟩

end Scenario

end ApprovalFlow
