import ApprovalFlow.Proofs.Calls.Invariant
import ApprovalFlow.Proofs.Tasks.Completion
import ApprovalFlow.Store.EventLog
import Mathlib.Tactic.ByContra

/-!
# Who goes on after a unanimous task

A task that all of its approvers have to approve has a row for each of them. Every approver closes a
row and then asks once which tasks follow. Asking only counts the rows that still wait; it takes
nothing away, so whoever asks after the last row has been closed is told to go on, and there may be
several who do.

`Round` is a world with the history of what the approvers of one task have stored and been told.

* `Round.released_iff`: who is told to go on, whatever comes between the steps of the requests.
-/

namespace ApprovalFlow

/-! ## The process of a call -/

theorem ServiceTask.process_prepare (c : Context) (operator : String) :
    (prepare c operator).2.process = c.process := by
  rcases prepare_cases c operator with ⟨t, row, -, answer⟩ |
    ⟨err, c', -, answer, rfl | ⟨row, rfl⟩⟩
  all_goals exact congrArg (·.2.process) answer

theorem ServiceTask.process_finish {τ σ : Type} [TaskStore τ] (status : TaskStatus)
    (remark : Option String) (c : Context) (e : Engine τ σ) :
    (finish status remark c e).context.process = c.process := by
  unfold finish
  split
  · rfl
  · split <;> rfl

namespace Stage

/-- The context of a call where it stands. -/
def context : Stage → Context
  | entering _ _ c => c
  | storing _ c => c
  | announcing c => c
  | completing _ c => c
  | closing _ _ c => c
  | telling _ c => c
  | working c => c
  | recording _ c => c
  | excusing _ c => c
  | done _ c => c

/-- No step of a call leads to another process. -/
theorem process_step {σ : Type} [EventStore σ] (s : Stage) (e : Engine TaskTable σ) :
    (s.step e).1.context.process = s.context.process := by
  cases s with
  | entering p t c =>
      cases p with
      | user =>
          simp only [step]
          split
          · rfl
          · split <;> rfl
      | service =>
          simp only [step]
          split <;> rfl
  | storing rows c => cases rows <;> rfl
  | announcing c => rfl
  | completing p c =>
      cases p with
      | user =>
          simp only [step]
          split <;> rfl
      | service =>
          have same := ServiceTask.process_prepare c e.settings.systemOperator
          simp only [step]
          rcases prepared : ServiceTask.prepare c e.settings.systemOperator with ⟨err | ⟨⟩, ready⟩
          · rw [prepared] at same
            exact same
          · rw [prepared] at same
            exact same
  | closing event row c =>
      simp only [step]
      split <;> rfl
  | telling event c => rfl
  | working c => rfl
  | recording outcome c =>
      cases outcome with
      | ok => exact ServiceTask.process_finish .completed none c e
      | error err => exact ServiceTask.process_finish .failed (some err.message) c e
  | excusing err c => rfl
  | done result c => rfl

end Stage

/-! ## What a step adds to the table -/

namespace TaskTable

variable {t t' : TaskTable}

/-- After a move there are the added rows and those that none of them has replaced. -/
theorem Move.mem_iff (move : Move t t') (sound : t.Sound) {row : TaskRow} :
    row ∈ t'.rows ↔ (row ∈ t.rows ∧ ∀ new ∈ t.added t', new.id ≠ row.id) ∨ row ∈ t.added t' := by
  cases move with
  | stay =>
      rw [added_self]
      simp
  | @insert new =>
      rw [sound.numbered.added_insert, mem_insert]
      simp only [List.mem_singleton, forall_eq]
      refine or_congr ⟨fun old => ⟨old, ?_⟩, And.left⟩ Iff.rfl
      exact (Int.ne_of_lt (sound.numbered.lt_nextId old)).symm
  | @close stored closed there closes =>
      have same := sameTask_bumped closes.same
      have opened := sound.isOpen_of_pending there closes.pending
      have different : bumped closed ≠ stored :=
        fun h => opened.not_isClosed (h ▸ isClosed_bumped opened closes)
      rw [sound.numbered.added_replace there same.id_eq different, mem_replace]
      simp only [List.mem_singleton, forall_eq]
      refine or_congr (and_congr_right fun _ => ne_comm) (and_iff_left ?_)
      exact ⟨stored, there, same.id_eq.symm⟩

/-- An added row with the id of another one is of the same task. -/
theorem Move.sameTask_of_added (move : Move t t') (sound : t.Sound) {row new : TaskRow}
    (member : row ∈ t.rows) (added : new ∈ t.added t') (same : new.id = row.id) :
    row.SameTask new := by
  obtain ⟨later, there, before⟩ := move.grows sound row member
  have here : new ∈ t'.rows := (move.mem_iff sound).2 (Or.inr added)
  have one := (move.sound sound).numbered.eq_of_id_eq here there
    (same.trans before.sameTask.id_eq.symm)
  exact one ▸ before.sameTask

end TaskTable

/-! ## The rows of a task -/

namespace TaskRow

/-- A row of a task in a process. -/
def Of (t : Task) (processId : Int) (row : TaskRow) : Prop :=
  row.processId = processId ∧ row.name = t.name

/-- A row of the task that waits for its approver. -/
def Waits (t : Task) (processId : Int) (row : TaskRow) : Prop :=
  row.Of t processId ∧ row.status = .pending

theorem SameTask.of {row later : TaskRow} (same : row.SameTask later) {t : Task} {processId : Int}
    (own : row.Of t processId) : later.Of t processId :=
  ⟨same.processId_eq.trans own.1, same.name_eq.trans own.2⟩

end TaskRow

/-- Nobody is waited for exactly when no row waits. -/
theorem TaskTable.count_eq_zero_iff {table : TaskTable} {t : Task} {processId : Int} :
    table.count processId t.name .pending = 0 ↔
      ∀ row ∈ table.rows, ¬ row.Waits t processId := by
  rw [TaskTable.count, List.countP_eq_zero]
  refine forall₂_congr fun row _ => ?_
  simp [TaskRow.Waits, TaskRow.Of, and_assoc]

/-- The answer to who asks what follows a unanimous task. -/
theorem UserTask.next_eq {σ : Type} {t : Task} {p : UserPart} (isUser : part t = .ok p)
    (needAll : p.needAll = true) (c : Context) (e : Engine TaskTable σ) :
    next t c e =
      (.ok (if e.tasks.count c.process.id t.name .pending > 0 then [] else t.next), e) := by
  unfold next
  rw [isUser]
  dsimp only
  rw [if_pos needAll]
  rfl

/-! ## Rounds -/

/-- An approver's request: to approve a row of the task in its process. -/
def Stage.IsApproval (t : Task) (processId : Int) (entry : Stage) : Prop :=
  ∃ c a, entry = .completing .user c ∧ c.current = some t ∧ c.process.id = processId ∧
    c.action = some a ∧ a.action = .approve ∧ a.row.Of t processId

/-- Something that happens in a round. -/
inductive Happening where
  /-- A request has stored a row. -/
  | stored (request : Nat) (row : TaskRow)
  /-- A request has been told which tasks follow. -/
  | answered (request : Nat) (answer : Except WorkflowError (List String))

/-- A world and what has happened to the rows of a task. -/
structure Round (σ : Type) where
  world : World σ
  log : List Happening

variable {σ : Type} [EventStore σ]

namespace Round

/-- A request goes on with its completion. -/
def approve (r : Round σ) (i : Nat) (call : Call σ) : Round σ :=
  ⟨r.world.proceed i call, r.log ++
    (r.world.engine.tasks.added (r.world.proceed i call).engine.tasks).map (.stored i)⟩

/-- A request asks what follows, in the context that its completion has left. -/
def ask (t : Task) (r : Round σ) (i : Nat) (c : Context) : Round σ :=
  ⟨{ r.world with engine := (UserTask.next t c r.world.engine).2 },
    r.log ++ [.answered i (UserTask.next t c r.world.engine).1]⟩

/-- One thing happens in a round. -/
inductive Step (known : Task → Prop) (t : Task) (processId : Int) : Round σ → Round σ → Prop
  /-- A request makes a step of its completion. -/
  | approves {r : Round σ} {i : Nat} {call : Call σ} : r.world.calls[i]? = some call →
    call.entry.IsApproval t processId → Step known t processId r (r.approve i call)
  /-- A request whose completion is done asks what follows, for the first time. -/
  | asks {r : Round σ} {i : Nat} {call : Call σ} {result : Except WorkflowError Unit}
    {c : Context} : r.world.calls[i]? = some call → call.entry.IsApproval t processId →
    call.stage = .done result c → (∀ answer, .answered i answer ∉ r.log) →
    Step known t processId r (ask t r i c)
  /-- Anything happens that adds no row of the task. -/
  | elsewhere {r : Round σ} {w : World σ} : World.Step known r.world w →
    (∀ row ∈ r.world.engine.tasks.added w.engine.tasks, ¬ row.Of t processId) →
    Step known t processId r { r with world := w }

/-- A round after another. -/
abbrev Later (known : Task → Prop) (t : Task) (processId : Int) : Round σ → Round σ → Prop :=
  Relation.ReflTransGen (Step known t processId)

/-- Every row of the task that waited at the start has been approved. -/
def Approved (t : Task) (processId : Int) (start : World σ) (log : List Happening) : Prop :=
  ∀ row ∈ start.rows, row.Waits t processId → ∃ i closed, .stored i closed ∈ log ∧
    closed.id = row.id ∧ closed.status = .approved

/-- No two requests are told of tasks that follow. -/
def ReleasesOnce (log : List Happening) : Prop :=
  ∀ (k l i j : Nat) (answer other : Except WorkflowError (List String)),
    log[k]? = some (.answered i answer) → log[l]? = some (.answered j other) →
    answer ≠ .ok [] → other ≠ .ok [] → k = l

/-- No two requests ask after all rows have been approved. -/
def AsksOnce (t : Task) (processId : Int) (start : World σ) (log : List Happening) : Prop :=
  ∀ (k l i j : Nat) (answer other : Except WorkflowError (List String)),
    log[k]? = some (.answered i answer) → log[l]? = some (.answered j other) →
    Approved t processId start (log.take k) → Approved t processId start (log.take l) → k = l

end Round

/-! ## Worlds and their calls -/

/-- What a step of an approval stores is an approved row of the task. -/
theorem Call.Lawful.approved_of_step {known : Task → Prop} {e e' : Engine TaskTable σ}
    {call : Call σ} (lawful : call.Lawful known e.tasks) (sound : e.tasks.Sound) {t : Task}
    {processId : Int} (approval : call.entry.IsApproval t processId) {stage : Stage}
    (h : call.stage.step e = (stage, e')) :
    ∀ row ∈ e.tasks.added e'.tasks, row.status = .approved ∧ row.Of t processId := by
  have none : e'.tasks = e.tasks → ∀ row ∈ e.tasks.added e'.tasks,
      row.status = .approved ∧ row.Of t processId := by
    intro same
    rw [same, TaskTable.added_self]
    rintro row ⟨⟩
  obtain ⟨c, a, entry, current, process, action, approve, own⟩ := approval
  cases lawful with
  | asked asked =>
      cases entry
      apply none
      simp only [begun, Stage.step] at h
      split at h
      · cases h
        rfl
      · cases h
        rfl
  | storing => cases entry
  | announcing => cases entry
  | entered => cases entry
  | refused why quiet =>
      cases h
      exact none rfl
  | @closing t' a' c₀ event row turns isKnown planned copied quiet =>
      cases entry
      have one : a' = a := Option.some.inj (planned.action.symm.trans action)
      subst one
      rcases updated : e.updateTask row with ⟨err | saved, e''⟩
      · simp only [Stage.step, updated] at h
        cases h
        obtain ⟨rfl, -⟩ := Engine.conflict_of_updateTask sound copied planned.closes updated
        exact none rfl
      · simp only [Stage.step, updated] at h
        cases h
        obtain ⟨rfl, by_, -⟩ := Engine.closedBy_of_updateTask sound copied planned.closes updated
        rw [by_.added]
        intro new member
        rw [List.mem_singleton.1 member]
        have status := planned.status
        rw [approve] at status
        exact ⟨(Option.some.inj status).symm, by_.same.of own⟩
  | telling isKnown planned copied final stored observed =>
      cases h
      exact none (Engine.heard_notify e _ _).tasks
  | told isKnown planned copied final stored passed =>
      cases h
      exact none rfl
  | serving isKnown prepared copied serves served => cases entry

namespace World

variable {known : Task → Prop} {w w' : World σ}

theorem Step.move (step : Step known w w') (sound : w.Sound known) :
    TaskTable.Move w.engine.tasks w'.engine.tasks := by
  cases step with
  | begin asked => exact .stay _
  | @proceed i call found =>
      rcases h : call.stage.step w.engine with ⟨stage, e⟩
      have lawful := sound.calls call (List.mem_of_getElem? found)
      have moved := (lawful.advance sound.table sound.named h).move
      simp only [World.proceed, h]
      exact moved
  | meanwhile same =>
      rw [same]
      exact .stay _

/-- A call at its place is there later, with the same request, of the same process, and done if it
is done. -/
theorem Step.call (step : Step known w w') {i : Nat} {call : Call σ}
    (found : w.calls[i]? = some call) : ∃ call', w'.calls[i]? = some call' ∧
      call'.entry = call.entry ∧ call'.stage.context.process = call.stage.context.process ∧
      ∀ result c, call.stage = .done result c → call'.stage = .done result c := by
  cases step with
  | begin asked =>
      have inside := (List.getElem?_eq_some_iff.1 found).1
      exact ⟨call, (List.getElem?_append_left inside).trans found, rfl, rfl, fun _ _ => id⟩
  | @proceed j other place =>
      rcases h : other.stage.step w.engine with ⟨stage, e⟩
      rw [getElem?_proceed place h]
      by_cases same : j = i
      · subst same
        rw [found] at place
        cases place
        have process := call.stage.process_step w.engine
        rw [h] at process
        refine ⟨_, if_pos rfl, rfl, process, ?_⟩
        intro result c done
        rw [done] at h
        cases h
        rfl
      · exact ⟨call, (if_neg same).trans found, rfl, rfl, fun _ _ => id⟩
  | meanwhile same => exact ⟨call, found, rfl, rfl, fun _ _ => id⟩

/-- Calls stay with their processes. -/
theorem Reachable.process_eq (reached : w.Reachable known) {i : Nat} {call : Call σ}
    (found : w.calls[i]? = some call) :
    call.stage.context.process = call.entry.context.process := by
  obtain ⟨e, -, later⟩ := reached
  induction later generalizing i call with
  | refl => cases found
  | @tail middle last _ step ih =>
      cases step with
      | begin asked =>
          rw [List.getElem?_append] at found
          split at found
          · exact ih found
          · rw [List.mem_singleton.1 (List.mem_of_getElem? found)]
            rfl
      | @proceed j other place =>
          rcases h : other.stage.step middle.engine with ⟨stage, e⟩
          rw [getElem?_proceed place h] at found
          split at found
          · cases found
            have process := other.stage.process_step middle.engine
            rw [h] at process
            exact process.trans (ih place)
          · exact ih found
      | meanwhile same => exact ih found

end World

/-! ## What holds in every round -/

/-- What is in a list with something put at its end. -/
theorem getElem?_append_cases {α : Type} {front more : List α} {k : Nat} {x : α}
    (there : (front ++ more)[k]? = some x) :
    front[k]? = some x ∧ (front ++ more).take k = front.take k ∨ front.length ≤ k ∧ x ∈ more := by
  rw [List.getElem?_append] at there
  split at there
  · rename_i inside
    exact Or.inl ⟨there, List.take_append_of_le_length (Nat.le_of_lt inside)⟩
  · rename_i outside
    exact Or.inr ⟨Nat.le_of_not_lt outside, List.mem_of_getElem? there⟩

namespace Round

variable {known : Task → Prop} {t : Task} {processId : Int} {start : World σ} {r r' : Round σ}

/-- The invariant. The rows that wait are those that waited at the start and have not been stored
since; a request is answered once it is done, and told to go on if no row waits any more. -/
structure Kept (known : Task → Prop) (t : Task) (processId : Int) (start : World σ)
    (r : Round σ) : Prop where
  reached : r.world.Reachable known
  waiting : ∀ row, row ∈ r.world.rows ∧ row.Waits t processId ↔
    (row ∈ start.rows ∧ row.Waits t processId) ∧
      ∀ i closed, Happening.stored i closed ∈ r.log → closed.id ≠ row.id
  approved : ∀ i closed, Happening.stored i closed ∈ r.log → closed.status = .approved
  done : ∀ i answer, Happening.answered i answer ∈ r.log →
    ∃ call result c, r.world.calls[i]? = some call ∧ call.stage = .done result c
  answered : ∀ (k i : Nat) answer, r.log[k]? = some (.answered i answer) →
    (Approved t processId start (r.log.take k) → answer = .ok t.next) ∧
      (¬ Approved t processId start (r.log.take k) → answer = .ok [])
  order : ∀ (k l i : Nat) row answer, r.log[k]? = some (.stored i row) →
    r.log[l]? = some (.answered i answer) → k < l

theorem kept_opening (reached : start.Reachable known) :
    Kept known t processId start ⟨start, []⟩ := by
  refine ⟨reached, ?_, ?_, ?_, ?_, ?_⟩
  · intro row
    refine ⟨fun waits => ⟨waits, ?_⟩, And.left⟩
    rintro i closed ⟨⟩
  · rintro i closed ⟨⟩
  · rintro i answer ⟨⟩
  · rintro k i answer ⟨⟩
  · rintro k l i row answer ⟨⟩

/-- No row waits exactly when all have been approved. -/
theorem Kept.approved_iff (kept : r.Kept known t processId start) :
    (∀ row ∈ r.world.rows, ¬ row.Waits t processId) ↔ Approved t processId start r.log := by
  constructor
  · intro none row member waits
    by_contra missing
    refine none row ((kept.waiting row).2 ⟨⟨member, waits⟩, ?_⟩).1 waits
    intro i closed stored same
    exact missing ⟨i, closed, stored, same, kept.approved i closed stored⟩
  · intro all row member waits
    obtain ⟨⟨old, -⟩, apart⟩ := (kept.waiting row).1 ⟨member, waits⟩
    obtain ⟨i, closed, stored, same, -⟩ := all row old waits
    exact apart i closed stored same

/-- Rows that have been approved wait no more, and the others wait as they did. -/
theorem Kept.waits_iff (kept : r.Kept known t processId start) {rows added : List TaskRow}
    (now : ∀ row, row ∈ rows ↔
      (row ∈ r.world.rows ∧ ∀ new ∈ added, new.id ≠ row.id) ∨ row ∈ added)
    (approved : ∀ new ∈ added, new.status = .approved) (i : Nat) (row : TaskRow) :
    row ∈ rows ∧ row.Waits t processId ↔ (row ∈ start.rows ∧ row.Waits t processId) ∧
      ∀ j closed, Happening.stored j closed ∈ r.log ++ added.map (.stored i) →
        closed.id ≠ row.id := by
  have old := kept.waiting row
  rw [now]
  simp only [List.mem_append, List.mem_map, Happening.stored.injEq]
  constructor
  · rintro ⟨⟨there, apart⟩ | new, waits⟩
    · obtain ⟨before, none⟩ := old.1 ⟨there, waits⟩
      refine ⟨before, ?_⟩
      rintro j closed (stored | ⟨closed', member, rfl, rfl⟩)
      · exact none j closed stored
      · exact apart closed' member
    · have closed := approved row new
      rw [waits.2] at closed
      cases closed
  · rintro ⟨before, none⟩
    obtain ⟨there, waits⟩ := old.2 ⟨before, fun j closed stored => none j closed (Or.inl stored)⟩
    exact ⟨Or.inl ⟨there, fun closed member =>
      none i closed (Or.inr ⟨closed, member, rfl, rfl⟩)⟩, waits⟩

/-- A step of an approval. -/
theorem Kept.approve (kept : r.Kept known t processId start) {i : Nat} {call : Call σ}
    (found : r.world.calls[i]? = some call) (approval : call.entry.IsApproval t processId) :
    (r.approve i call).Kept known t processId start := by
  have step : World.Step known r.world (r.world.proceed i call) := .proceed found
  have sound := kept.reached.sound
  have move := step.move sound
  rcases h : call.stage.step r.world.engine with ⟨stage, e⟩
  have engine : (r.world.proceed i call).engine = e := by simp only [World.proceed, h]
  have new := (sound.calls call (List.mem_of_getElem? found)).approved_of_step sound.table
    approval h
  rw [engine] at move
  unfold Round.approve
  rw [engine]
  refine ⟨kept.reached.later (Relation.ReflTransGen.single step), ?_, ?_, ?_, ?_, ?_⟩
  · refine kept.waits_iff (fun row => ?_) (fun row member => (new row member).1) i
    rw [World.rows, engine]
    exact move.mem_iff sound.table
  · intro j closed member
    rcases List.mem_append.1 member with old | added
    · exact kept.approved j closed old
    · obtain ⟨row, there, same⟩ := List.mem_map.1 added
      cases same
      exact (new closed there).1
  · intro j answer member
    rcases List.mem_append.1 member with old | added
    · obtain ⟨other, result, c, place, done⟩ := kept.done j answer old
      obtain ⟨other', place', -, -, still⟩ := step.call place
      exact ⟨other', result, c, place', still result c done⟩
    · obtain ⟨row, -, same⟩ := List.mem_map.1 added
      cases same
  · intro k j answer there
    rcases getElem?_append_cases there with ⟨old, same⟩ | ⟨-, added⟩
    · rw [same]
      exact kept.answered k j answer old
    · obtain ⟨row, -, same⟩ := List.mem_map.1 added
      cases same
  · intro k l j row answer stored answered
    rcases getElem?_append_cases answered with ⟨told, -⟩ | ⟨-, added⟩
    · rcases getElem?_append_cases stored with ⟨old, -⟩ | ⟨-, added⟩
      · exact kept.order k l j row answer old told
      · -- A request that has been answered stores nothing more.
        obtain ⟨row', member, same⟩ := List.mem_map.1 added
        cases same
        obtain ⟨other, result, c, place, done⟩ := kept.done i answer (List.mem_of_getElem? told)
        rw [found] at place
        cases place
        rw [done] at h
        cases h
        rw [TaskTable.added_self] at member
        cases member
    · obtain ⟨row', -, same⟩ := List.mem_map.1 added
      cases same

/-- A request asks what follows. -/
theorem Kept.ask {p : UserPart} (isUser : UserTask.part t = .ok p) (needAll : p.needAll = true)
    (kept : r.Kept known t processId start) {i : Nat} {call : Call σ}
    {result : Except WorkflowError Unit} {c : Context} (found : r.world.calls[i]? = some call)
    (approval : call.entry.IsApproval t processId) (done : call.stage = .done result c) :
    (Round.ask t r i c).Kept known t processId start := by
  obtain ⟨c₀, a, entry, -, own, -⟩ := approval
  have process : c.process.id = processId := by
    have same := kept.reached.process_eq found
    rw [done, entry] at same
    exact (congrArg ProcessRow.id same).trans own
  have counted : r.world.engine.tasks.count c.process.id t.name .pending = 0 ↔
      Approved t processId start r.log := by
    rw [process, TaskTable.count_eq_zero_iff]
    exact kept.approved_iff
  unfold Round.ask
  rw [UserTask.next_eq isUser needAll]
  generalize r.world.engine.tasks.count c.process.id t.name .pending = pending at counted
  refine ⟨kept.reached, ?_, ?_, ?_, ?_, ?_⟩
  · intro row
    simp only [List.mem_append, List.mem_singleton, reduceCtorEq, or_false]
    exact kept.waiting row
  · intro j closed member
    simp only [List.mem_append, List.mem_singleton, reduceCtorEq, or_false] at member
    exact kept.approved j closed member
  · intro j answer member
    rcases List.mem_append.1 member with old | new
    · exact kept.done j answer old
    · cases List.mem_singleton.1 new
      exact ⟨call, result, c, found, done⟩
  · intro k j answer there
    rcases getElem?_append_cases there with ⟨old, same⟩ | ⟨outside, new⟩
    · rw [same]
      exact kept.answered k j answer old
    · cases List.mem_singleton.1 new
      have last := (List.getElem?_eq_some_iff.1 there).1
      rw [List.length_append, List.length_singleton] at last
      have all : (r.log ++
          [Happening.answered i (.ok (if pending > 0 then [] else t.next))]).take k = r.log := by
        rw [show k = r.log.length by omega, List.take_left]
      rw [all, ← counted]
      refine ⟨?_, ?_⟩
      · intro none
        rw [none]
        rfl
      · intro some
        rw [if_pos (Nat.pos_of_ne_zero some)]
  · intro k l j row answer stored answered
    rcases getElem?_append_cases stored with ⟨old, -⟩ | ⟨-, new⟩
    · rcases getElem?_append_cases answered with ⟨told, -⟩ | ⟨outside, -⟩
      · exact kept.order k l j row answer old told
      · exact Nat.lt_of_lt_of_le (List.getElem?_eq_some_iff.1 old).1 outside
    · cases List.mem_singleton.1 new

/-- Something else happens. -/
theorem Kept.elsewhere (kept : r.Kept known t processId start) {w : World σ}
    (step : World.Step known r.world w)
    (apart : ∀ row ∈ r.world.engine.tasks.added w.engine.tasks, ¬ row.Of t processId) :
    ({ r with world := w } : Round σ).Kept known t processId start := by
  have sound := kept.reached.sound
  have move := step.move sound
  refine ⟨kept.reached.later (Relation.ReflTransGen.single step), ?_, kept.approved, ?_,
    kept.answered, kept.order⟩
  · intro row
    rw [← kept.waiting row, World.rows, move.mem_iff sound.table]
    constructor
    · rintro ⟨⟨there, -⟩ | added, waits⟩
      · exact ⟨there, waits⟩
      · exact (apart row added waits.1).elim
    · rintro ⟨there, waits⟩
      refine ⟨Or.inl ⟨there, ?_⟩, waits⟩
      intro new added same
      exact apart new added ((move.sameTask_of_added sound.table there added same).of waits.1)
  · intro j answer member
    obtain ⟨other, result, c, place, done⟩ := kept.done j answer member
    obtain ⟨other', place', -, -, still⟩ := step.call place
    exact ⟨other', result, c, place', still result c done⟩

/-- Every step keeps the invariant. -/
theorem Step.kept {p : UserPart} (isUser : UserTask.part t = .ok p) (needAll : p.needAll = true)
    (step : Step known t processId r r') (kept : r.Kept known t processId start) :
    r'.Kept known t processId start := by
  cases step with
  | approves found approval => exact kept.approve found approval
  | asks found approval done first => exact kept.ask isUser needAll found approval done
  | elsewhere step apart => exact kept.elsewhere step apart

theorem Later.kept {p : UserPart} (isUser : UserTask.part t = .ok p) (needAll : p.needAll = true)
    (reached : start.Reachable known) (later : Later known t processId ⟨start, []⟩ r) :
    r.Kept known t processId start := by
  induction later with
  | refl => exact kept_opening reached
  | tail _ step ih => exact step.kept isUser needAll ih

/-- Of the approvers of a unanimous task, whatever comes between the steps of their requests, those
are told to go on who ask after every row has been approved, and nobody else. The one who approves
the last row is always among them; that no other is means that no other asks after that. -/
theorem released_iff {p : UserPart} (isUser : UserTask.part t = .ok p)
    (needAll : p.needAll = true) (reached : start.Reachable known)
    (later : Later known t processId ⟨start, []⟩ r) :
    (∀ (k i : Nat) answer, r.log[k]? = some (.answered i answer) →
      (Approved t processId start (r.log.take k) → answer = .ok t.next) ∧
        (¬ Approved t processId start (r.log.take k) → answer = .ok [])) ∧
    (∀ (k l i : Nat) row answer, r.log[k]? = some (.stored i row) →
      r.log[l]? = some (.answered i answer) → Approved t processId start r.log →
      (∀ (m j : Nat) other, k < m → r.log[m]? ≠ some (.stored j other)) → answer = .ok t.next) ∧
    (t.next ≠ [] → (ReleasesOnce r.log ↔ AsksOnce t processId start r.log)) := by
  have kept := later.kept isUser needAll reached
  refine ⟨kept.answered, ?_, ?_⟩
  · intro k l i row answer stored answered all last
    refine (kept.answered l i answer answered).1 ?_
    intro old member waits
    obtain ⟨j, closed, there, same, approved⟩ := all old member waits
    obtain ⟨m, place⟩ := List.mem_iff_getElem?.1 there
    have before : m < l := by
      have notLater : ¬ k < m := fun past => last m j closed past place
      have order := kept.order k l i row answer stored answered
      omega
    refine ⟨j, closed, ?_, same, approved⟩
    rw [List.mem_iff_getElem?]
    exact ⟨m, by rw [List.getElem?_take, if_pos before, place]⟩
  · intro goesOn
    constructor
    · intro once k l i j answer other told told' all all'
      refine once k l i j answer other told told' ?_ ?_
      · rw [(kept.answered k i answer told).1 all]
        simpa using goesOn
      · rw [(kept.answered l j other told').1 all']
        simpa using goesOn
    · intro once k l i j answer other told told' some some'
      refine once k l i j answer other told told' ?_ ?_
      · by_contra early
        exact some ((kept.answered k i answer told).2 early)
      · by_contra early
        exact some' ((kept.answered l j other told').2 early)

/-! ## Rounds by a schedule -/

/-- What a request does next. -/
inductive Act where
  /-- It goes on with its completion. -/
  | approve (request : Nat)
  /-- It asks what follows. -/
  | ask (request : Nat)

/-- The request that acts. -/
def Act.request : Act → Nat
  | approve i => i
  | ask i => i

/-- Whether a request has been answered. -/
def hasAnswered (log : List Happening) (i : Nat) : Bool :=
  log.any fun
    | .answered j _ => j == i
    | .stored .. => false

/-- A request acts, if it can. -/
def act (t : Task) (r : Round σ) : Act → Round σ
  | .approve i =>
    match r.world.calls[i]? with
    | some call => r.approve i call
    | none => r
  | .ask i =>
    match r.world.calls[i]? with
    | some ⟨_, .done _ c, _⟩ => if hasAnswered r.log i then r else ask t r i c
    | _ => r

/-- Requests act in some order. -/
def schedule (t : Task) (r : Round σ) (acts : List Act) : Round σ :=
  acts.foldl (act t) r

theorem entry_act (r : Round σ) (a : Act) (i : Nat) :
    (act t r a).world.calls[i]?.map Call.entry = r.world.calls[i]?.map Call.entry := by
  cases a with
  | approve j =>
      cases found : r.world.calls[j]? with
      | none => simp only [act, found]
      | some call =>
          have same := World.entry_schedule r.world [j] i
          simp only [World.schedule, List.foldl_cons, List.foldl_nil, World.turn, found] at same
          simp only [act, found]
          exact same
  | ask j =>
      simp only [act]
      split
      · split <;> rfl
      · rfl

theorem later_act {r : Round σ} {a : Act} (approval : ∀ call,
    r.world.calls[a.request]? = some call → call.entry.IsApproval t processId) :
    Later known t processId r (act t r a) := by
  cases a with
  | approve j =>
      cases found : r.world.calls[j]? with
      | none =>
          simp only [act, found]
          exact Relation.ReflTransGen.refl
      | some call =>
          simp only [act, found]
          exact Relation.ReflTransGen.single (.approves found (approval call found))
  | ask j =>
      simp only [act]
      split
      · rename_i entry result c turns found
        split
        · exact Relation.ReflTransGen.refl
        · rename_i first
          refine Relation.ReflTransGen.single (.asks found (approval _ found) rfl ?_)
          intro answer member
          apply first
          rw [hasAnswered, List.any_eq_true]
          exact ⟨_, member, by simp⟩
      · exact Relation.ReflTransGen.refl

theorem later_schedule {r : Round σ} {acts : List Act} (approvals : ∀ a ∈ acts, ∀ entry,
    r.world.calls[a.request]?.map Call.entry = some entry → entry.IsApproval t processId) :
    Later known t processId r (schedule t r acts) := by
  unfold schedule
  induction acts generalizing r with
  | nil => exact Relation.ReflTransGen.refl
  | cons a rest ih =>
      refine Relation.ReflTransGen.trans (later_act ?_) (ih ?_)
      · intro call found
        exact approvals a (List.mem_cons_self ..) call.entry (by rw [found]; rfl)
      · intro b member entry there
        rw [entry_act] at there
        exact approvals b (List.mem_cons_of_mem _ member) entry there

end Round

/-! ## Two approvers, at once and one after the other -/

namespace Unanimous

/-- A task that two people have to approve, and which is followed by another one. -/
def review : Task where
  name := "review"
  displayName := "Review"
  kind := .user ⟨fun _ => ["alice", "bob"], true, none⟩
  listeners := .empty
  next := ["sign"]

/-- A context of the process that the task belongs to. -/
def context : Context :=
  .base { ProcessDefinition.named "P" "P" with tasks := [review], start := ["review"] }
    (.opened 1 "P" "carol" default) none

/-- The world before any step of the call that enters the task. -/
def opening : World EventLog where
  engine := .new ⟨.empty, .empty, "system"⟩ 1 none .empty .empty .empty default
  copies := []
  calls := [.begun (.entering .user review context)]

/-- The task is entered: there is a row for each of the two. -/
def entered : World EventLog :=
  opening.schedule [0, 0, 0, 0, 0]

/-- The copy of a row that somebody has. -/
def copy (id : Int) : TaskRow :=
  (entered.copies.find? (·.id == id)).getD default

/-- The approval of somebody who has a copy of a row. -/
def approval (who : String) (id : Int) : Stage :=
  .completing .user { context with
    current := some review
    action := some ⟨.approve, who, none, none, [], copy id⟩ }

/-- Both have asked, each with a copy of the own row. -/
def asked : World EventLog :=
  { entered with calls := entered.calls ++ [Call.begun (approval "alice" 1)] ++
    [Call.begun (approval "bob" 2)] }

/-- Both approve before either asks what follows. -/
def race : Round EventLog :=
  Round.schedule review ⟨asked, []⟩ [.approve 1, .approve 2, .approve 2, .approve 1, .approve 1,
    .approve 2, .ask 1, .ask 2]

/-- Alice is done before Bob begins. -/
def inTurn : Round EventLog :=
  Round.schedule review ⟨asked, []⟩ [.approve 1, .approve 1, .approve 1, .ask 1, .approve 2,
    .approve 2, .approve 2, .ask 2]

/-- The task itself. -/
def known (t : Task) : Prop := t = review

theorem copies_known : ∀ id ∈ [1, 2], copy id ∈ entered.copies ∧
    (copy id).processId = 1 ∧ (copy id).name = "review" := by
  decide +kernel

theorem asked_approval {who : String} {id : Int} (mine : id ∈ [1, 2]) :
    (approval who id).Asked known (· ∈ entered.copies) := by
  refine .complete ?_ ?_
  · rintro t ⟨⟩
    rfl
  · rintro row ⟨⟩
    exact (copies_known id mine).1

theorem asked_reachable : asked.Reachable known := by
  have start : opening.Reachable known :=
    ⟨opening.engine, rfl, Relation.ReflTransGen.single (.begin (.enter rfl))⟩
  have first := start.schedules [0, 0, 0, 0, 0]
  have second := first.begins (@asked_approval "alice" 1 (by simp))
  exact second.begins (@asked_approval "bob" 2 (by simp))

theorem isApproval {who : String} {id : Int} (mine : id ∈ [1, 2]) :
    (approval who id).IsApproval review 1 := by
  obtain ⟨-, process, name⟩ := copies_known id mine
  exact ⟨_, _, rfl, rfl, rfl, rfl, rfl, process, name⟩

theorem later_of_asked {acts : List Round.Act} (two : ∀ a ∈ acts, a.request ∈ [1, 2]) :
    Round.Later known review 1 ⟨asked, []⟩ (Round.schedule review ⟨asked, []⟩ acts) := by
  have one : entered.calls.length = 1 := by decide +kernel
  have alice : asked.calls[1]? = some (Call.begun (approval "alice" 1)) := by
    rw [asked, List.append_assoc, List.getElem?_append_right (by omega), one]
    rfl
  have bob : asked.calls[2]? = some (Call.begun (approval "bob" 2)) := by
    rw [asked, List.append_assoc, List.getElem?_append_right (by omega), one]
    rfl
  refine Round.later_schedule fun a member entry there => ?_
  have places := two a member
  simp only [List.mem_cons, List.not_mem_nil, or_false] at places
  rcases places with place | place
  · rw [place, alice] at there
    cases there
    exact isApproval (by simp)
  · rw [place, bob] at there
    cases there
    exact isApproval (by simp)

/-- The tasks that a request was told of at a place of a history. -/
def toldAt (log : List Happening) (k : Nat) : Option (Nat × List String) :=
  match log[k]? with
  | some (.answered i (.ok names)) => some (i, names)
  | _ => none

theorem answered_of_toldAt {log : List Happening} {k i : Nat} {names : List String}
    (there : toldAt log k = some (i, names)) : log[k]? = some (.answered i (.ok names)) := by
  unfold toldAt at there
  split at there
  · rename_i found
    cases there
    exact found
  · cases there

/-- Whether somebody was answered. -/
def isAnswer : Happening → Bool
  | .stored .. => false
  | .answered .. => true

/-- Both approvers of the race are told to sign. -/
theorem race_releases_twice :
    ¬ ∀ (start : World EventLog) (r : Round EventLog), start.Reachable known →
      Round.Later known review 1 ⟨start, []⟩ r → Round.ReleasesOnce r.log := by
  intro once
  have told : ∀ k ∈ [1, 2], toldAt race.log (k + 1) = some (k, ["sign"]) := by decide +kernel
  have alice := answered_of_toldAt (told 1 (by simp))
  have bob := answered_of_toldAt (told 2 (by simp))
  have same := once asked race asked_reachable (later_of_asked (by decide)) 2 3 1 2 _ _ alice bob
    (by simp) (by simp)
  cases same

/-- If Bob begins when Alice is done, then she is told to wait, and only he to sign. -/
theorem inTurn_releases_once :
    Round.Later known review 1 ⟨asked, []⟩ inTurn ∧ Round.ReleasesOnce inTurn.log := by
  have later : Round.Later known review 1 ⟨asked, []⟩ inTurn := later_of_asked (by decide)
  obtain ⟨answered, -, once⟩ := Round.released_iff (p := ⟨fun _ => ["alice", "bob"], true, none⟩)
    rfl rfl asked_reachable later
  refine ⟨later, (once (by simp [review])).2 ?_⟩
  have early : ¬ Round.Approved review 1 asked (inTurn.log.take 1) := by
    intro all
    have waits : toldAt inTurn.log 1 = some (1, []) := by decide +kernel
    have told := (answered 1 1 _ (answered_of_toldAt waits)).1 all
    simp [review] at told
  have kinds : inTurn.log.map isAnswer = [false, true, false, true] := by decide +kernel
  have last : ∀ (k i : Nat) answer, inTurn.log[k]? = some (.answered i answer) →
      Round.Approved review 1 asked (inTurn.log.take k) → k = 3 := by
    intro k i answer there all
    have kind : (inTurn.log.map isAnswer)[k]? = some true := by
      rw [List.getElem?_map, there]
      rfl
    rw [kinds] at kind
    match k with
    | 1 => exact (early all).elim
    | 3 => rfl
    | 0 | 2 | k + 4 => simp at kind
  intro k l i j answer other told told' all all'
  rw [last k i answer told all, last l j other told' all']

end Unanimous

end ApprovalFlow
