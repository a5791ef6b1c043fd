import ApprovalFlow.Proofs.Replay.Steady
import ApprovalFlow.Proofs.Tasks.Completion

/-!
# What a walk can fail by

In a scenario the listeners fail in one way only and the providers do not fail at all. So entering a
task fails because a listener objects or because nobody is there for it, and taking a name off the
queue fails by that, or because there is no task of the name.

* `Engine.error_of_notify`: what a notification fails by.
* `Replay.entry_enter`: what entering a task answers.
* `Replay.hindrance_of_visit`: what taking a name off the queue fails by.
* `Replay.exists_visit_of_advance`: a walk fails where one of its visits does.
-/

namespace ApprovalFlow

variable {roles : ListenerSpec → ListenerSpec → Prop}

/-- Somebody objects, or nobody is there. -/
inductive WorkflowError.Hindrance : WorkflowError → Prop
  | listener (name message : String) : Hindrance (.listenerFailed name message)
  | nobody (task : String) : Hindrance (.emptyApprovers task)

theorem WorkflowError.Hindrance.ne_configuration {err : WorkflowError} (hinders : err.Hindrance)
    (message : String) : err ≠ .configuration message := by
  rintro rfl
  cases hinders

/-! ## Notifications -/

namespace Engine

variable {τ σ : Type} [EventStore σ] {e : Engine τ σ}

/-- Listeners in line fail by one of them. -/
theorem error_of_runAll {is : List Invocation} {err : WorkflowError}
    (failed : (e.runAll is).1 = .error err) :
    ∃ i ∈ is, i.outcome.toResult i.listener = .error err := by
  induction is generalizing e with
  | nil => cases failed
  | cons i rest ih =>
      have answer : (e.runInLine i).1 = i.outcome.toResult i.listener :=
        congrArg (Outcome.toResult i.listener) (run_outcome e i)
      unfold runAll at failed
      rcases first : e.runInLine i with ⟨err' | ⟨⟩, e'⟩
      · rw [first] at failed answer
        exact ⟨i, List.mem_cons_self .., answer.symm.trans failed⟩
      · rw [first] at failed
        obtain ⟨j, member, fails⟩ := ih failed
        exact ⟨j, List.mem_cons_of_mem _ member, fails⟩

/-- What a notification can fail by: it is at no element, the providers fail, or a listener in line
does not succeed. -/
theorem error_of_notify {ε : Type} [EventScope ε] {event : ε} {c : Context} {err : WorkflowError}
    (failed : (e.notify event c).1 = .error err) :
    EventScope.element ε c = .error err ∨ ∃ element, EventScope.element ε c = .ok element ∧
      ((EventScope.groups e.catalogue c event).found = .error err ∨
        ∃ l : Listener ε, (l ∈ (EventScope.manager e.settings : Registry ε).sync event ∨
          ∃ groups, (EventScope.groups e.catalogue c event).found = .ok groups ∧ l ∈ groups.sync) ∧
        (l.respond c.snapshot).toResult l.name = .error err) := by
  unfold notify at failed
  cases there : EventScope.element ε c with
  | error err' =>
      rw [there] at failed
      cases failed
      exact Or.inl rfl
  | ok element =>
      rw [there] at failed
      dsimp only at failed
      refine Or.inr ⟨element, rfl, ?_⟩
      have kept : (e.note (.dispatched (EventFamily.family ε) (EventFamily.name event)
        c.snapshot)).catalogue = e.catalogue := rfl
      generalize e.note _ = e₁ at kept failed
      have heard : Heard (fun _ => True) [] e₁
          (e₁.runAll (((EventScope.manager e.settings : Registry ε).sync event).map
            (·.invocation element c.snapshot false))).2 :=
        heard_runAll (by simp) e₁
      have managed : ∀ err, (e₁.runAll
          (((EventScope.manager e.settings : Registry ε).sync event).map
            (·.invocation element c.snapshot false))).1 = .error err → _ :=
        fun _ => error_of_runAll
      rcases result : e₁.runAll _ with ⟨err' | ⟨⟩, e₂⟩
      · rw [result] at managed failed
        obtain ⟨i, member, fails⟩ := managed _ failed
        obtain ⟨l, here, rfl⟩ := List.mem_map.1 member
        exact Or.inr ⟨l, Or.inl here, fails⟩
      · rw [result] at heard failed
        dsimp only at failed
        rw [show e₂.catalogue = e.catalogue from heard.catalogue.trans kept] at failed
        generalize e₂.noteConsulted _ = e₃ at failed
        cases found : (EventScope.groups e.catalogue c event).found with
        | error err' =>
            rw [found] at failed
            cases failed
            exact Or.inl rfl
        | ok groups =>
            rw [found] at failed
            dsimp only at failed
            have served : ∀ err,
                (e₃.runAll (groups.sync.map (·.invocation element c.snapshot false))).1 =
                  .error err → _ :=
              fun _ => error_of_runAll
            rcases result : e₃.runAll _ with ⟨err' | ⟨⟩, e₄⟩
            · rw [result] at served failed
              obtain ⟨i, member, fails⟩ := served _ failed
              obtain ⟨l, here, rfl⟩ := List.mem_map.1 member
              exact Or.inr ⟨l, Or.inr ⟨groups, rfl, here⟩, fails⟩
            · rw [result] at failed
              cases failed

theorem exists_twin_of_mem {α : Type} {R : α → α → Prop} {xs ys : List α}
    (related : List.Forall₂ R xs ys) {x : α} (member : x ∈ xs) : ∃ y, R x y := by
  induction related with
  | nil => cases member
  | cons first _ ih =>
      rcases List.mem_cons.1 member with rfl | later
      · exact ⟨_, first⟩
      · exact ih later

theorem hindrance_of_listener {ε : Type} [EventFamily ε] {l l' : Listener ε}
    (twin : l.Twin roles l') {s : Snapshot} {err : WorkflowError}
    (fails : (l.respond s).toResult l.name = .error err) : err.Hindrance := by
  rcases twin.plain s with succeeds | ⟨message, refuses⟩
  · rw [succeeds] at fails
    cases fails
  · rw [refuses] at fails
    cases fails
    exact .listener _ _

/-- At an element a notification in a scenario fails only by a listener. -/
theorem hindrance_of_notify {ε : Type} [EventScope ε] [SharedScope ε] (event : ε)
    (scripted : e.Scripted roles) (context : c.Twin roles c) {element : Element}
    (here : EventScope.element ε c = .ok element) (failed : (e.notify event c).1 = .error err) :
    err.Hindrance := by
  rcases error_of_notify failed with nowhere | ⟨element, there, unsupplied | ⟨l, listed, fails⟩⟩
  · rw [here] at nowhere
    cases nowhere
  · obtain ⟨groups, -, found, -⟩ := SharedScope.groups event context scripted.catalogue there
    rw [found] at unsupplied
    cases unsupplied
  · rcases listed with managed | ⟨groups, found, own⟩
    · have twins := (SharedScope.manager (ε := ε) scripted.settings).sync event
      obtain ⟨l', twin⟩ := exists_twin_of_mem twins managed
      exact hindrance_of_listener twin fails
    · obtain ⟨groups', _, found', -, twins⟩ :=
        SharedScope.groups event context scripted.catalogue there
      obtain rfl : groups = groups' := Except.ok.inj (found.symm.trans found')
      obtain ⟨l', twin⟩ := exists_twin_of_mem twins.sync own
      exact hindrance_of_listener twin fails

theorem hindrance_of_notifyTask {t : Task} (event : TaskEvent) (scripted : e.Scripted roles)
    (definition : c.definition.Twin roles c.definition) (twin : t.Twin roles t)
    (current : c.current = some t) (failed : (e.notify event c).1 = .error err) :
    err.Hindrance := by
  refine hindrance_of_notify event scripted (Context.twin_self definition ?_)
    (Context.element_of_current current) failed
  intro t' there
  rw [current] at there
  cases there
  exact twin

end Engine

/-! ## Entering and completing a task -/

section Entering

variable {σ : Type} [EventStore σ] {e : Engine TaskTable σ} {c : Context} {t : Task}

omit [EventStore σ] in
theorem UserTask.insertRows_eq_ok (c : Context) (e : Engine TaskTable σ) (rows : List TaskRow) :
    ∃ c' e', insertRows c e rows = ⟨.ok (), c', e'⟩ ∧ c'.current = c.current ∧
      c'.definition = c.definition :=
  ⟨_, _, insertRows_eq c e rows, rfl, rfl⟩

omit [EventStore σ] in
theorem UserTask.form_insertRows (c : Context) (e : Engine TaskTable σ) (rows : List TaskRow) :
    (insertRows c e rows).context.form = c.form := by
  rw [insertRows_eq]

/-- A user task that somebody is there for is entered unless its listeners object. -/
theorem UserTask.result_create {p : UserPart} (isUser : part t = .ok p) (c : Context)
    (e : Engine TaskTable σ)
    (somebody : usableNames (p.assign { c with current := some t : Context }.snapshot) ≠ []) :
    ∃ c' e', e.Steady e' ∧ c'.current = some t ∧ c'.definition = c.definition ∧ c'.form = c.form ∧
      (create t c e).result = (e'.notify TaskEvent.create c').1 := by
  unfold create
  rw [isUser]
  dsimp only
  rw [if_neg (by simpa using somebody)]
  generalize List.map _ _ = rows
  obtain ⟨c', e', stored, current, kept⟩ := insertRows_eq_ok { c with current := some t } e rows
  have steady := steady_insertRows { c with current := some t } e rows
  have form := form_insertRows { c with current := some t } e rows
  rw [stored] at steady form ⊢
  exact ⟨c', e', steady, current, kept, form, rfl⟩

theorem ServiceTask.result_create (isService : check t = .ok ()) (c : Context)
    (e : Engine TaskTable σ) :
    ∃ c' e', e.Steady e' ∧ c'.current = some t ∧ c'.definition = c.definition ∧ c'.form = c.form ∧
      (create t c e).result = (e'.notify TaskEvent.create c').1 := by
  unfold create
  rw [isService]
  simp only [Engine.insertTask_eq]
  refine ⟨_, _, ?_, ?_, ?_, ?_, rfl⟩
  · exact ⟨rfl, rfl, rfl⟩
  · rfl
  · rfl
  · rfl

omit [EventStore σ] in
/-- With the stored row itself at hand a service task's row is closed. -/
theorem ServiceTask.finish_of_stored {a : ActionRequest} (status : TaskStatus)
    (remark : Option String) (sound : e.tasks.Sound) (action : c.action = some a)
    (here : a.row ∈ e.tasks.rows) (pending : a.row.status = .pending)
    (terminal : status.isTerminal = true) :
    ∃ closed e', finish status remark c e = ⟨.ok closed, c.withRow closed, e'⟩ ∧
      e.tasks.ClosedBy e'.tasks a.row closed ∧ e'.trace = e.trace := by
  have closes := closes_closedRow pending terminal e.settings.systemOperator remark e.now
  generalize written : closedRow a.row status e.settings.systemOperator remark e.now = row at closes
  have stored : e.tasks.update row =
      (.ok (TaskTable.bumped row), e.tasks.replace (TaskTable.bumped row)) :=
    sound.numbered.update_eq_ok_iff.2
      ⟨⟨a.row, here, closes.same.id_eq.symm, closes.version.symm⟩, rfl, rfl⟩
  have updated : e.updateTask row = (.ok (TaskTable.bumped row),
      { e with tasks := e.tasks.replace (TaskTable.bumped row) }) := by
    simp only [Engine.updateTask, TaskStore.update, stored]
    rfl
  obtain ⟨-, by_, trace⟩ := Engine.closedBy_of_updateTask sound
    ⟨a.row, here, TaskRow.Precedes.refl a.row⟩ closes updated
  refine ⟨_, _, ?_, by_, trace⟩
  unfold finish
  rw [Context.request_eq_ok_iff.2 action]
  simp only [written, updated]

/-- A task that has just been entered is ready to be done. -/
theorem ServiceTask.prepare_entered {row : TaskRow} (created : List TaskRow) (operator : String)
    (isService : check t = .ok ()) (current : c.current = some t) (action : c.action = none)
    (newTasks : c.newTasks = created ++ [row]) (name : row.name = t.name)
    (pending : row.status = .pending) :
    prepare c operator = (.ok (), { c with
      action := some ⟨.complete, operator, none, none, [], row⟩ }) := by
  have copy : Copy t c row := .created action newTasks name (by simp)
  have service := Task.typeName_eq_serviceType_iff.1 (typeName_of_check isService)
  rw [prepare_of_poised ⟨current, service, copy, pending, name⟩, onRow, action]
  rfl

/-- Once it is ready, a service task's row is closed, and what is left depends on the listeners. -/
theorem ServiceTask.complete_of_prepared {ready : Context} {a : ActionRequest}
    (sound : e.tasks.Sound)
    (prepared : prepare c e.settings.systemOperator = (.ok (), ready))
    (action : ready.action = some a) (here : a.row ∈ e.tasks.rows)
    (pending : a.row.status = .pending) :
    ∃ closed, (complete c e).result = (e.notify TaskEvent.complete ready).1.map (fun _ => true) ∧
      (complete c e).context = ready.withRow closed ∧
      e.tasks.ClosedBy (complete c e).engine.tasks a.row closed := by
  have tasks := (Engine.heard_notify e TaskEvent.complete ready).tasks
  unfold complete
  rw [prepared]
  dsimp only
  rcases told : e.notify TaskEvent.complete ready with ⟨err | ⟨⟩, e'⟩
  · rw [told] at tasks
    obtain ⟨closed, e'', finished, by_, -⟩ := finish_of_stored .failed
      (some err.message) (tasks ▸ sound) action (tasks ▸ here) pending rfl
    have kept := (Engine.heard_notify e'' TaskEvent.fail (ready.withRow closed)).tasks
    dsimp only at tasks ⊢
    rw [finished]
    refine ⟨closed, rfl, rfl, ?_⟩
    dsimp only
    rw [kept, ← tasks]
    exact by_
  · rw [told] at tasks
    obtain ⟨closed, e'', finished, by_, -⟩ := finish_of_stored .completed none
      (tasks ▸ sound) action (tasks ▸ here) pending rfl
    dsimp only at tasks ⊢
    rw [finished]
    refine ⟨closed, rfl, rfl, ?_⟩
    rw [← tasks]
    exact by_

/-- A task that has been entered is at hand in the context with the row that was stored for it. -/
theorem ServiceTask.entered_of_create {c' : Context} {e' : Engine TaskTable σ}
    (h : create t c e = ⟨.ok (), c', e'⟩) :
    check t = .ok () ∧ ∃ row, c' = ({ c with current := some t } : Context).withNewTask row ∧
      row.name = t.name ∧ row.status = .pending ∧ row ∈ e'.tasks.rows ∧
      e'.tasks.rows = e.tasks.rows ++ [row] ∧ row.id = e.tasks.nextId := by
  unfold create at h
  cases isService : check t with
  | error err =>
      rw [isService] at h
      cases h
  | ok =>
      rw [isService] at h
      simp only [Engine.insertTask_eq] at h
      injection h with result context engine
      subst engine
      refine ⟨rfl, _, context.symm, rfl, rfl, ?_⟩
      rw [(Engine.heard_notify _ TaskEvent.create _).tasks]
      exact ⟨TaskTable.mem_insert.2 (Or.inr rfl), rfl, rfl⟩

end Entering

/-! ## Walking -/

namespace Replay

theorem eq_error_of_map {ε α β : Type} {f : α → β} {x : Except ε α} {err : ε}
    (failed : x.map f = .error err) : x = .error err := by
  cases x with
  | error err' =>
      cases failed
      rfl
  | ok a => cases failed

theorem exists_of_map {ε α β : Type} {f : α → β} {x : Except ε α} {b : β}
    (succeeded : x.map f = .ok b) : ∃ a, x = .ok a ∧ f a = b := by
  cases x with
  | error err => cases succeeded
  | ok a =>
      cases succeeded
      exact ⟨a, rfl, rfl⟩

variable {r r' : Replay} {t : Task} {err : WorkflowError}

/-- A service task that has been entered is completed unless its listeners object. -/
theorem result_complete {c c' : Context} {e e' : Engine TaskTable EventLog}
    (sound : e.tasks.Sound) (action : c.action = none) (newTasks : c.newTasks = [])
    (created : ServiceTask.create t c e = ⟨.ok (), c', e'⟩) :
    ∃ ready : Context, e.Steady e' ∧ ready.current = some t ∧ ready.definition = c.definition ∧
      ready.form = c.form ∧ (ServiceTask.complete c' e').result =
        (e'.notify TaskEvent.complete ready).1.map fun _ => true := by
  have steady := ServiceTask.steady_create t c e
  have entered := Engine.worked_create .service t c e
  rw [Processor.create, created] at entered
  rw [created] at steady
  obtain ⟨isService, row, context, name, pending, here, -⟩ :=
    ServiceTask.entered_of_create created
  have ready := ServiceTask.prepare_entered (c := c') [] e'.settings.systemOperator isService
    (by rw [context]; rfl) (by rw [context]; exact action)
    (by rw [context]; simp [Context.withNewTask, newTasks]) name pending
  obtain ⟨closed, result, -, -⟩ := ServiceTask.complete_of_prepared
    (entered.moves.grows sound).1 ready rfl here pending
  refine ⟨_, steady, ?_, ?_, ?_, result⟩
  · rw [context]
    rfl
  · rw [context]
    rfl
  · rw [context]
    rfl

theorem hindrance_of_notifyProcess (event : ProcessEvent) {p : ProcessRow}
    (scripted : r.Scripted roles)
    (failed : (r.engine.notify event (.base r.definition p r.form)).1 = .error err) :
    err.Hindrance := by
  refine Engine.hindrance_of_notify event scripted.engine
    (Context.twin_self scripted.definition ?_) rfl failed
  rintro t ⟨⟩

/-- Closing the process fails only by a listener. -/
theorem hindrance_of_close (status : ProcessStatus) (event : ProcessEvent)
    (scripted : r.Scripted roles) (failed : (r.close status event).1 = .error err) :
    err.Hindrance :=
  hindrance_of_notifyProcess event
    (p := { r.process with status := status, endTime := some r.engine.now }) scripted failed

/-- An engine and a context in which a task is entered or completed, at some time of a replay. -/
structure Presents (r : Replay) (t : Task) (e : Engine TaskTable EventLog) (c : Context) :
    Prop where
  steady : r.engine.Steady e
  current : c.current = some t
  definition : c.definition = r.definition
  form : c.form = r.form

/-- What entering a task answers. It depends on who is there and on the notifications: of the
creation, and for a service task of the completion. -/
inductive Entry (r : Replay) (t : Task) : Except WorkflowError (List String) → Prop
  | nobody {p : UserPart} : t.kind = .user p →
    UserTask.usableNames (p.assign { r.context with current := some t : Context }.snapshot) = [] →
    Entry r t (.error (.emptyApprovers t.displayName))
  | user {p : UserPart} {e : Engine TaskTable EventLog} {c : Context} : t.kind = .user p →
    UserTask.usableNames (p.assign { r.context with current := some t : Context }.snapshot) ≠ [] →
    r.Presents t e c → Entry r t ((e.notify TaskEvent.create c).1.map fun _ => [])
  | service {part : ServicePart} {e e' : Engine TaskTable EventLog} {c c' : Context} :
    t.kind = .service part → r.Presents t e c → r.Presents t e' c' →
    Entry r t ((e.notify TaskEvent.create c).1.bind fun _ =>
      (e'.notify TaskEvent.complete c').1.map fun _ => t.next)

theorem entry_enter (sound : r.engine.tasks.Sound) (t : Task) : r.Entry t (r.enter t).1 := by
  unfold enter
  dsimp only
  cases kind : t.kind with
  | user part =>
      have isUser : UserTask.part t = .ok part := UserTask.part_of_kind kind
      rw [show Processor.ofTask t = .user by rw [Processor.ofTask, kind]]
      by_cases none : UserTask.usableNames
          (part.assign { r.context with current := some t : Context }.snapshot) = []
      · have entry := Entry.nobody kind none
        have refused :
            (Processor.user.create t { r.context with current := some t } r.engine).result =
              .error (.emptyApprovers t.displayName) := by
          simp only [Processor.create, UserTask.create, isUser, none]
          rfl
        rcases answer : Processor.user.create t _ r.engine with ⟨err | ⟨⟩, c, e⟩
        · rw [answer] at refused
          cases refused
          exact entry
        · rw [answer] at refused
          cases refused
      · obtain ⟨c', e', steady, current, definition, form, result⟩ :=
          UserTask.result_create isUser { r.context with current := some t } r.engine none
        have entry := Entry.user kind none ⟨steady, current, definition, form⟩
        rw [← result] at entry
        rcases answer : Processor.user.create t _ r.engine with ⟨err | ⟨⟩, c, e⟩
        · rw [← Processor.create, answer] at entry
          exact entry
        · rw [← Processor.create, answer] at entry
          exact entry
  | service part =>
      have isService : ServiceTask.check t = .ok () := ServiceTask.check_of_kind kind
      rw [show Processor.ofTask t = .service by rw [Processor.ofTask, kind]]
      obtain ⟨c', e', steady, current, definition, form, result⟩ :=
        ServiceTask.result_create isService { r.context with current := some t } r.engine
      have created : r.Presents t e' c' := ⟨steady, current, definition, form⟩
      rcases answer : Processor.service.create t _ r.engine with ⟨err | ⟨⟩, c, e⟩
      · have entry := Entry.service kind created created
        rw [← result, ← Processor.create, answer] at entry
        exact entry
      · obtain ⟨ready, steady, current, definition, form, completed⟩ :=
          result_complete sound rfl rfl answer
        have entry := Entry.service kind created ⟨steady, current, definition, form⟩
        rw [← result, ← Processor.create, answer] at entry
        simp only [Processor.waits, Bool.false_eq_true, if_false]
        rcases done : Processor.service.complete c e with ⟨err | ok, c'', e''⟩
        · rw [← Processor.complete, done] at completed
          rw [eq_error_of_map completed.symm] at entry
          exact entry
        · rw [← Processor.complete, done] at completed
          obtain ⟨⟨⟩, told, -⟩ := exists_of_map completed.symm
          rw [told] at entry
          exact entry

/-- Entering a task fails only by a listener, or because nobody is there. -/
theorem hindrance_of_enter (scripted : r.Scripted roles) (sound : r.engine.tasks.Sound)
    (twin : t.Twin roles t) (failed : (r.enter t).1 = .error err) : err.Hindrance := by
  have told : ∀ (event : TaskEvent) {e : Engine TaskTable EventLog} {c : Context} {err},
      r.Presents t e c → (e.notify event c).1 = .error err → err.Hindrance := by
    intro event e c err presents
    exact Engine.hindrance_of_notifyTask event (scripted.engine.of_steady presents.steady)
      (presents.definition ▸ scripted.definition) twin presents.current
  have entry := entry_enter sound t
  generalize (r.enter t).1 = answer at entry failed
  cases entry with
  | nobody =>
      cases failed
      exact .nobody _
  | user kind somebody presents => exact told .create presents (eq_error_of_map failed)
  | @service _ e _ c _ kind first later =>
      cases created : (e.notify TaskEvent.create c).1 with
      | error err' =>
          rw [created] at failed
          cases failed
          exact told .create first created
      | ok =>
          rw [created] at failed
          exact told .complete later (eq_error_of_map failed)

/-- Taking a name off the queue fails by a hindrance, or because there is no task of the name. -/
theorem hindrance_of_visit {name : String} (scripted : r.Scripted roles)
    (sound : r.engine.tasks.Sound) (failed : (r.visit name).1 = .error err) :
    err.Hindrance ∨ name ≠ ProcessDefinition.endName ∧ r.definition.task? name = none ∧
      ∃ message, err = .configuration message := by
  unfold visit at failed
  split at failed
  · refine Or.inl (hindrance_of_close .completed .complete scripted ?_)
    rcases closed : r.close .completed .complete with ⟨err' | ⟨⟩, r'⟩
    · rw [closed] at failed
      cases failed
      rfl
    · rw [closed] at failed
      cases failed
  · rename_i inner
    unfold task at failed
    cases found : r.definition.task? name with
    | none =>
        rw [found] at failed
        cases failed
        exact Or.inr ⟨inner, rfl, _, rfl⟩
    | some t =>
        rw [found] at failed
        exact Or.inl (hindrance_of_enter scripted sound (scripted.task found) failed)

/-- A walk that fails has come to a name that it failed at. What every visit keeps still holds
there. -/
theorem exists_visit_of_walk {P : Replay → List String → Prop}
    (step : ∀ r name rest names, P r (name :: rest) → (r.visit name).1 = .ok names →
      P (r.visit name).2 (rest ++ names))
    {fuel : Nat} {queue entered : List String} (first : P r queue)
    (failed : (walk fuel queue entered r).1 = .error (.failed err)) :
    ∃ r' name rest, P r' (name :: rest) ∧ (r'.visit name).1 = .error err := by
  induction fuel generalizing queue entered r with
  | zero => cases queue <;> cases failed
  | succ fuel ih =>
      cases queue with
      | nil => cases failed
      | cons name rest =>
          unfold walk at failed
          rcases visited : r.visit name with ⟨err' | names, r'⟩
          · rw [visited] at failed
            cases failed
            exact ⟨r, name, rest, first, congrArg Prod.fst visited⟩
          · have later := step r name rest names first (congrArg Prod.fst visited)
            rw [visited] at failed later
            exact ih later failed

theorem exists_visit_of_advance {P : Replay → List String → Prop}
    (step : ∀ r name rest names, P r (name :: rest) → (r.visit name).1 = .ok names →
      P (r.visit name).2 (rest ++ names))
    {names : List String} (first : P r names)
    (failed : (r.advance names).1 = .error (.failed err)) :
    ∃ r' name rest, P r' (name :: rest) ∧ (r'.visit name).1 = .error err := by
  unfold advance at failed
  rcases walked : walk (budget r.definition names) names [] r with ⟨halt | all, r'⟩
  · rw [walked] at failed
    cases failed
    exact exists_visit_of_walk step first (congrArg Prod.fst walked)
  · rw [walked] at failed
    cases failed

end Replay

end ApprovalFlow
