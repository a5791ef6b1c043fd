import ApprovalFlow.Engine.ServiceTask
import ApprovalFlow.Store.TaskTable
import Mathlib.Logic.Relation

/-!
# Calls in steps

Entering and completing a task are cut where others may come between: a step checks, or makes one
call of the store, or notifies. `Stage` is where a call stands and `Stage.step` its next step, made
of the engine's own operations.

* `Stage.steps_create`, `Stage.steps_complete`: a call that nobody comes between does what
  `Processor.create` and `Processor.complete` do.
-/

namespace ApprovalFlow

/-- Where a call stands. -/
inductive Stage where
  /-- About to enter a task. -/
  | entering (p : Processor) (t : Task) (c : Context)
  /-- The rows of the entered task that are still to be stored. -/
  | storing (rows : List TaskRow) (c : Context)
  /-- About to notify of the creation. -/
  | announcing (c : Context)
  /-- About to complete the task the context is at. -/
  | completing (p : Processor) (c : Context)
  /-- The action has passed its checks; the row is still to be written. -/
  | closing (event : TaskEvent) (row : TaskRow) (c : Context)
  /-- The row is written; about to notify of it. -/
  | telling (event : TaskEvent) (c : Context)
  /-- The engine's own task has passed its checks; about to notify of its completion. -/
  | working (c : Context)
  /-- The listeners have done the work, or failed; the row is still to be written. -/
  | recording (outcome : Except WorkflowError Unit) (c : Context)
  /-- About to notify of the failure. -/
  | excusing (err : WorkflowError) (c : Context)
  /-- Done. -/
  | done (result : Except WorkflowError Unit) (c : Context)

namespace Stage

variable {σ : Type} [EventStore σ]

/-- The next step of a call. -/
def step (e : Engine TaskTable σ) : Stage → Stage × Engine TaskTable σ
  | entering .user t c =>
    match UserTask.part t with
    | .error err => (done (.error err) c, e)
    | .ok p =>
      let c := { c with current := some t }
      let names := UserTask.usableNames (p.assign c.snapshot)
      if names.isEmpty then (done (.error (.emptyApprovers t.displayName)) c, e)
      else
        let rows := (UserTask.rowApprovers p.needAll names).map fun approvers =>
          TaskRow.waiting Task.userType c.process t.name t.displayName approvers e.now
        (storing rows c, e)
  | entering .service t c =>
    match ServiceTask.check t with
    | .error err => (done (.error err) c, e)
    | .ok () =>
      let c := { c with current := some t }
      let row := TaskRow.waiting Task.serviceType c.process t.name t.displayName
        e.settings.systemOperator e.now
      (storing [row] c, e)
  | storing [] c => (announcing c, e)
  | storing (row :: rest) c =>
    match e.insertTask row with
    | (.error err, e) => (done (.error err) c, e)
    | (.ok saved, e) => (storing rest (c.withNewTask saved), e)
  | announcing c =>
    let (result, e) := e.notify TaskEvent.create c
    (done result c, e)
  | completing .user c =>
    match UserTask.plan c e.now with
    | .error err => (done (.error err) c, e)
    | .ok (event, row) => (closing event row c, e)
  | closing event row c =>
    match e.updateTask row with
    | (.error err, e) => (done (.error err) c, e)
    | (.ok stored, e) => (telling event (c.withRow stored), e)
  | telling event c =>
    let (result, e) := e.notify event c
    (done result c, e)
  | completing .service c =>
    match ServiceTask.prepare c e.settings.systemOperator with
    | (.error err, c) => (done (.error err) c, e)
    | (.ok (), c) => (working c, e)
  | working c =>
    let (outcome, e) := e.notify TaskEvent.complete c
    (recording outcome c, e)
  | recording (.ok ()) c =>
    let closed := ServiceTask.finish .completed none c e
    (done (closed.result.map fun _ => ()) closed.context, closed.engine)
  | recording (.error err) c =>
    let closed := ServiceTask.finish .failed (some err.message) c e
    (excusing err closed.context, closed.engine)
  | excusing err c =>
    let (_, e) := e.notify TaskEvent.fail c
    (done (.error err) c, e)
  | done result c => (done result c, e)

/-- A call and the engine after some of the call's steps, with nothing in between. -/
abbrev Steps : Stage × Engine TaskTable σ → Stage × Engine TaskTable σ → Prop :=
  Relation.ReflTransGen fun now later => now.1.step now.2 = later

/-- A call that is done, with the answer of the whole. -/
def answered {α : Type} (r : Reply TaskTable σ α) : Stage × Engine TaskTable σ :=
  (done (r.result.map fun _ => ()) r.context, r.engine)

theorem steps_of_step {s : Stage} {e : Engine TaskTable σ} {later : Stage × Engine TaskTable σ}
    (h : s.step e = later) : Steps (s, e) later :=
  Relation.ReflTransGen.single h

/-- Storing rows one by one, then notifying. -/
theorem steps_storing (rows : List TaskRow) (c : Context) (e : Engine TaskTable σ) :
    Steps (storing rows c, e)
      (match UserTask.insertRows c e rows with
        | ⟨.error err, c, e⟩ => (done (.error err) c, e)
        | ⟨.ok (), c, e⟩ => (announcing c, e)) := by
  induction rows generalizing c e with
  | nil => exact steps_of_step rfl
  | cons row rest ih => exact Relation.ReflTransGen.head rfl (ih (c.withNewTask _) _)

theorem map_unit (result : Except WorkflowError Unit) : (result.map fun _ => ()) = result := by
  cases result <;> rfl

/-- Notifying of the creation is the last step of it. -/
theorem steps_announcing (c : Context) (e : Engine TaskTable σ) :
    Steps (announcing c, e)
      (answered ⟨(e.notify TaskEvent.create c).1, c, (e.notify TaskEvent.create c).2⟩) := by
  refine steps_of_step ?_
  rw [answered, map_unit]
  rfl

/-- A creation that nobody comes between is the whole creation. -/
theorem steps_create (p : Processor) (t : Task) (c : Context) (e : Engine TaskTable σ) :
    Steps (entering p t c, e) (answered (p.create t c e)) := by
  cases p with
  | user =>
      change Steps _ (answered (UserTask.create t c e))
      unfold UserTask.create
      cases isUser : UserTask.part t with
      | error err => exact steps_of_step (by simp only [step, isUser]; rfl)
      | ok p =>
          dsimp only
          split
          · rename_i nobody
            exact steps_of_step (by simp only [step, isUser, nobody, if_true]; rfl)
          · rename_i somebody
            refine Relation.ReflTransGen.head (by simp only [step, isUser, somebody]; rfl) ?_
            refine (steps_storing _ _ _).trans ?_
            rcases UserTask.insertRows _ e _ with ⟨err | ⟨⟩, c', e'⟩
            · exact Relation.ReflTransGen.refl
            · exact steps_announcing c' e'
  | service =>
      change Steps _ (answered (ServiceTask.create t c e))
      unfold ServiceTask.create
      cases isService : ServiceTask.check t with
      | error err => exact steps_of_step (by simp only [step, isService]; rfl)
      | ok =>
          refine Relation.ReflTransGen.head (by simp only [step, isService]; rfl) ?_
          refine (steps_storing _ _ _).trans ?_
          exact steps_announcing _ _

/-- A completion that nobody comes between is the whole completion. -/
theorem steps_complete (p : Processor) (c : Context) (e : Engine TaskTable σ) :
    Steps (completing p c, e) (answered (p.complete c e)) := by
  cases p with
  | user =>
      change Steps _ (answered (UserTask.complete c e))
      unfold UserTask.complete
      cases planned : UserTask.plan c e.now with
      | error err => exact steps_of_step (by simp only [step, planned]; rfl)
      | ok plan =>
          obtain ⟨event, row⟩ := plan
          refine Relation.ReflTransGen.head (by simp only [step, planned]; rfl) ?_
          dsimp only
          rcases updated : e.updateTask row with ⟨err | stored, e'⟩
          · exact steps_of_step (by simp only [step, updated]; rfl)
          · refine Relation.ReflTransGen.head (by simp only [step, updated]; rfl) ?_
            dsimp only
            rcases told : e'.notify event (c.withRow stored) with ⟨err | ⟨⟩, e''⟩
            · exact steps_of_step (by simp only [step, told]; rfl)
            · exact steps_of_step (by simp only [step, told]; rfl)
  | service =>
      change Steps _ (answered (ServiceTask.complete c e))
      unfold ServiceTask.complete
      rcases prepared : ServiceTask.prepare c e.settings.systemOperator with ⟨err | ⟨⟩, c'⟩
      · exact steps_of_step (by simp only [step, prepared]; rfl)
      · refine Relation.ReflTransGen.head (by simp only [step, prepared]; rfl) ?_
        dsimp only
        rcases worked : e.notify TaskEvent.complete c' with ⟨err | ⟨⟩, e'⟩
        · refine Relation.ReflTransGen.head (by simp only [step, worked]; rfl) ?_
          exact Relation.ReflTransGen.head rfl (steps_of_step rfl)
        · refine Relation.ReflTransGen.head (by simp only [step, worked]; rfl) ?_
          refine steps_of_step ?_
          simp only [step]
          rcases ServiceTask.finish .completed none c' e' with ⟨err | stored, c'', e''⟩
          · rfl
          · rfl

end Stage

end ApprovalFlow
