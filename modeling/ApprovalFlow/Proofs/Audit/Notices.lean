import ApprovalFlow.Proofs.Floor

/-!
# Calls of a notifier

A notifier is called with an event, or with the name of a listener. What such a call answers and
what it does on the way is settled by the listeners it finds and by what they answer, so it can be
written down before the call is made, whatever the event log is.

* `Script`: an answer, and what is done on the way.
* `Notice.send_eq`: a call does what its script says, with every store of event rows.
* `Notice.makes_of_mem`: the runs in a script are of listeners of the call's family, on behalf of
  its element, with its context, in the mode they are made in.
-/

namespace ApprovalFlow

/-- An answer, and what is done on the way. -/
structure Script where
  answer : Except WorkflowError Unit
  effects : List Effect

namespace Script

/-- An error, before anything is done. -/
def fails (err : WorkflowError) : Script := ⟨.error err, []⟩

/-- Something is noted. -/
def notes (os : List Observation) : Script := ⟨.ok (), [.noted os]⟩

/-- Listeners are run in line, up to and with the first that fails. -/
def inTurn (is : List Invocation) : Script := ⟨(Invocation.inTurn is).1, (Invocation.inTurn is).2⟩

/-- Listeners are left to the pool. -/
def leaves (is : List Invocation) : Script := ⟨.ok (), is.map .submitted⟩

/-- One script after another; an error ends the matter. -/
def andThen (s t : Script) : Script :=
  match s.answer with
  | .error err => ⟨.error err, s.effects⟩
  | .ok () => ⟨t.answer, s.effects ++ t.effects⟩

/-- What is done in two scripts is done in the first or in the second. -/
theorem mem_andThen {s t : Script} {x : Effect} (member : x ∈ (s.andThen t).effects) :
    x ∈ s.effects ∨ x ∈ t.effects := by
  unfold andThen at member
  split at member
  · exact Or.inl member
  · exact List.mem_append.1 member

theorem mem_inTurn {is : List Invocation} {x : Effect} (member : x ∈ (inTurn is).effects) :
    ∃ i ∈ is, x = .ran i := by
  unfold inTurn at member
  dsimp only at member
  induction is with
  | nil => cases member
  | cons i rest ih =>
      unfold Invocation.inTurn at member
      split at member
      · exact ⟨i, List.mem_cons_self .., List.mem_singleton.1 member⟩
      · rcases List.mem_cons.1 member with rfl | later
        · exact ⟨i, List.mem_cons_self .., rfl⟩
        · obtain ⟨j, there, rfl⟩ := ih later
          exact ⟨j, List.mem_cons_of_mem _ there, rfl⟩

end Script

namespace Engine

variable {σ : Type} [EventStore σ]

/-- A script is followed. -/
def play (e : Engine TaskTable σ) (s : Script) : Except WorkflowError Unit × Engine TaskTable σ :=
  (s.answer, e.performAll s.effects)

theorem play_andThen (e : Engine TaskTable σ) (s t : Script) :
    e.play (s.andThen t) =
      match e.play s with
      | (.error err, e) => (.error err, e)
      | (.ok (), e) => e.play t := by
  unfold play Script.andThen
  rcases s with ⟨err | ⟨⟩, fx⟩
  · rfl
  · dsimp only
    rw [performAll_append]

theorem play_inTurn (e : Engine TaskTable σ) (is : List Invocation) :
    e.play (.inTurn is) = e.runAll is :=
  (runAll_eq e is).symm

theorem play_leaves (e : Engine TaskTable σ) (is : List Invocation) :
    e.play (.leaves is) = (.ok (), e.submitAll is) :=
  congrArg (Prod.mk _) (submitAll_eq e is).symm

theorem play_note (e : Engine TaskTable σ) (o : Observation) :
    e.play (.notes [o]) = (.ok (), e.note o) :=
  rfl

theorem play_consulted (e : Engine TaskTable σ) (consultations : List Consultation) :
    e.play (.notes (consultations.map .consulted)) = (.ok (), e.noteConsulted consultations) :=
  rfl

theorem settings_performAll (e : Engine TaskTable σ) (fx : List Effect) :
    (e.performAll fx).settings = e.settings := by
  induction fx generalizing e with
  | nil => rfl
  | cons f rest ih =>
      have kept : (e.perform f).settings = e.settings := by
        cases f with
        | noted => rfl
        | stored => rfl
        | ran i => exact (heard_perform_ran e i).settings
        | submitted i => exact (heard_perform_submitted e i).settings
      exact (ih (e.perform f)).trans kept

end Engine

/-! ## Two kinds of calls -/

section

variable {ε : Type} [EventScope ε]

/-- What notifying of an event comes to. -/
def Script.ofEvent (settings : Settings) (catalogue : Catalogue) (event : ε) (c : Context) :
    Script :=
  match EventScope.element ε c with
  | .error err => .fails err
  | .ok element =>
    let manager : Registry ε := EventScope.manager settings
    let lookup := EventScope.groups catalogue c event
    let calls (isAsync : Bool) (ls : List (Listener ε)) : List Invocation :=
      ls.map (·.invocation element c.snapshot isAsync)
    (Script.notes [.dispatched (EventFamily.family ε) (EventFamily.name event) c.snapshot]).andThen
      ((Script.inTurn (calls false (manager.sync event))).andThen
        ((Script.notes (lookup.consultations.map .consulted)).andThen
          (match lookup.found with
          | .error err => .fails err
          | .ok groups =>
            (Script.inTurn (calls false groups.sync)).andThen
              (.leaves (calls true (manager.async event ++ groups.async))))))

/-- What dispatching a listener comes to, if there is one. -/
def Script.ofListener (found : Option (Listener ε)) (forceSync : Bool) (element : Element)
    (s : Snapshot) : Script :=
  match found with
  | none => ⟨.ok (), []⟩
  | some l =>
    if forceSync || !l.isAsync then .inTurn [l.invocation element s false]
    else .leaves [l.invocation element s true]

/-- What notifying a listener by its name comes to. -/
def Script.ofName (ε : Type) [EventScope ε] (settings : Settings) (catalogue : Catalogue)
    (name : String) (forceSync : Bool) (c : Context) : Script :=
  match EventScope.element ε c with
  | .error err => .fails err
  | .ok element =>
    let manager : Registry ε := EventScope.manager settings
    let lookup : Lookup (Option (Listener ε)) := EventScope.find catalogue c name
    (Script.ofListener (manager.find? name) forceSync element c.snapshot).andThen
      ((Script.notes (lookup.consultations.map .consulted)).andThen
        (match lookup.found with
        | .error err => .fails err
        | .ok found => .ofListener found forceSync element c.snapshot))

namespace Engine

variable {σ : Type} [EventStore σ]

/-- Notifying of an event does what the script says. -/
theorem notify_eq_play (e : Engine TaskTable σ) (event : ε) (c : Context) :
    e.notify event c = e.play (.ofEvent e.settings e.catalogue event c) := by
  unfold notify Script.ofEvent
  cases EventScope.element ε c with
  | error err => rfl
  | ok element =>
      dsimp only
      rw [play_andThen, play_note]
      dsimp only
      have kept : (e.note (.dispatched (EventFamily.family ε) (EventFamily.name event)
        c.snapshot)).catalogue = e.catalogue := rfl
      generalize e.note _ = e₁ at kept ⊢
      have heard : Heard (fun _ => True) [] e₁
          (e₁.runAll (((EventScope.manager e.settings : Registry ε).sync event).map
            (·.invocation element c.snapshot false))).2 :=
        heard_runAll (by simp) e₁
      rw [play_andThen, play_inTurn]
      rcases managed : e₁.runAll _ with ⟨err | ⟨⟩, e₂⟩
      · rfl
      · rw [managed] at heard
        dsimp only
        rw [play_andThen, play_consulted, heard.catalogue.trans kept]
        dsimp only
        cases (EventScope.groups e.catalogue c event).found with
        | error err => rfl
        | ok groups =>
            dsimp only
            rw [play_andThen, play_inTurn]
            rcases (e₂.noteConsulted _).runAll _ with ⟨err | ⟨⟩, e₃⟩
            · rfl
            · dsimp only
              rw [play_leaves]

theorem dispatchFound_eq_play (e : Engine TaskTable σ) (found : Option (Listener ε))
    (forceSync : Bool) (element : Element) (s : Snapshot) :
    e.dispatchFound found forceSync element s =
      e.play (.ofListener found forceSync element s) := by
  unfold dispatchFound Script.ofListener
  cases found with
  | none => rfl
  | some l =>
      dsimp only
      unfold dispatch
      split
      · rw [play_inTurn, runAll]
        rcases e.runInLine _ with ⟨err | ⟨⟩, e'⟩ <;> rfl
      · rw [play_leaves]
        rfl

/-- Notifying a listener by its name does what the script says. -/
theorem notifyByName_eq_play (e : Engine TaskTable σ) (name : String) (forceSync : Bool)
    (c : Context) : e.notifyByName ε name forceSync c =
      e.play (.ofName ε e.settings e.catalogue name forceSync c) := by
  unfold notifyByName Script.ofName
  cases EventScope.element ε c with
  | error err => rfl
  | ok element =>
      dsimp only
      rw [play_andThen, dispatchFound_eq_play]
      have kept := catalogue_performAll e (Script.ofListener
        ((EventScope.manager e.settings : Registry ε).find? name) forceSync element
        c.snapshot).effects
      rcases managed : e.play _ with ⟨err | ⟨⟩, e'⟩
      · rfl
      · have same : e'.catalogue = e.catalogue := by
          rw [← kept]
          exact congrArg (fun reply => reply.2.catalogue) managed.symm
        dsimp only
        rw [play_andThen, play_consulted, same]
        dsimp only
        cases (EventScope.find e.catalogue c name : Lookup (Option (Listener ε))).found with
        | error err => rfl
        | ok found => exact dispatchFound_eq_play _ found forceSync element c.snapshot

end Engine

/-! ## What is run, and in which mode -/

/-- A run as it is made in its mode. -/
def Invocation.effect (i : Invocation) : Effect :=
  if i.isAsync then .submitted i else .ran i

theorem Invocation.run?_effect (i : Invocation) : i.effect.run? = some i := by
  unfold effect
  split <;> rfl

/-- A group has a listener for a mode. -/
def Groups.Offers {ε : Type} (g : Groups ε) (l : Listener ε) (isAsync : Bool) : Prop :=
  l ∈ if isAsync then g.async else g.sync

/-- Those of some listeners that are for an event are offered in their modes. -/
theorem Groups.offers_bound_iff {ε : Type} [DecidableEq ε] {event : ε} {ls : List (Listener ε)}
    {l : Listener ε} {isAsync : Bool} :
    Offers ⟨inLine event ls, inPool event ls⟩ l isAsync ↔
      l ∈ ls ∧ l.event = event ∧ l.isAsync = isAsync := by
  cases isAsync <;> simp [Offers, inLine, inPool]

theorem Groups.offers_extendFor {ε : Type} [DecidableEq ε] {g : Groups ε} {event : ε}
    {ls : List (Listener ε)} {l : Listener ε} {isAsync : Bool} :
    (g.extendFor event ls).Offers l isAsync ↔
      g.Offers l isAsync ∨ l ∈ ls ∧ l.event = event ∧ l.isAsync = isAsync := by
  rw [extendFor_eq, ← offers_bound_iff]
  cases isAsync <;> exact List.mem_append

/-- What a task has for an event is registered on it, or supplied to it and bound to the event. -/
theorem Task.offers_groups {t : Task} {event : TaskEvent} {ls : List (Listener TaskEvent)}
    {l : Listener TaskEvent} {isAsync : Bool} (offers : (t.groups event ls).Offers l isAsync) :
    (t.listeners.groups event).Offers l isAsync ∨
      l ∈ ls ∧ l.event = event ∧ l.isAsync = isAsync :=
  Groups.offers_extendFor.1 offers

/-- An event finds a listener for a mode, with those for all processes or with those of the element
that a context is at. -/
def EventScope.Finds {ε : Type} [EventScope ε] (settings : Settings) (catalogue : Catalogue)
    (c : Context) (event : ε) (l : Listener ε) (isAsync : Bool) : Prop :=
  ((EventScope.manager settings : Registry ε).groups event).Offers l isAsync ∨
    ∃ g, (EventScope.groups catalogue c event).found = .ok g ∧ g.Offers l isAsync

/-- What may be done for a context: notes that are not of runs, runs in line of listeners of a
family, on behalf of the element the context is at and with what the context shows, and such runs
that are left to the pool. -/
inductive Effect.For (ε : Type) [EventScope ε] (c : Context) : Effect → Prop
  | noted {os : List Observation} : runs os = [] → For ε c (.noted os)
  | ran {l : Listener ε} {element : Element} : EventScope.element ε c = .ok element →
    For ε c (.ran (l.invocation element c.snapshot false))
  | submitted {l : Listener ε} {element : Element} : EventScope.element ε c = .ok element →
    For ε c (.submitted (l.invocation element c.snapshot true))

section

variable {c : Context} {element : Element} {x : Effect}

theorem Effect.for_inTurn (here : EventScope.element ε c = .ok element) {ls : List (Listener ε)}
    (member : x ∈ (Script.inTurn (ls.map (·.invocation element c.snapshot false))).effects) :
    x.For ε c := by
  obtain ⟨i, there, rfl⟩ := Script.mem_inTurn member
  obtain ⟨l, -, rfl⟩ := List.mem_map.1 there
  exact .ran here

theorem Effect.for_leaves (here : EventScope.element ε c = .ok element) {ls : List (Listener ε)}
    (member : x ∈ (Script.leaves (ls.map (·.invocation element c.snapshot true))).effects) :
    x.For ε c := by
  obtain ⟨i, there, rfl⟩ := List.mem_map.1 member
  obtain ⟨l, -, rfl⟩ := List.mem_map.1 there
  exact .submitted here

theorem Effect.for_consulted {consultations : List Consultation}
    (member : x ∈ (Script.notes (consultations.map .consulted)).effects) : x.For ε c := by
  rw [List.mem_singleton.1 member]
  exact .noted (runs_consulted consultations)

theorem Effect.for_ofListener (here : EventScope.element ε c = .ok element)
    {found : Option (Listener ε)} {forceSync : Bool}
    (member : x ∈ (Script.ofListener found forceSync element c.snapshot).effects) :
    x.For ε c := by
  unfold Script.ofListener at member
  split at member
  · cases member
  · rename_i l
    split at member
    · exact @for_inTurn _ _ c element x here [l] member
    · exact @for_leaves _ _ c element x here [l] member

/-- Beside notes, nothing is done for an event but to run what it finds, each listener in its
mode. -/
theorem Script.mem_ofEvent {settings : Settings} {catalogue : Catalogue} {event : ε}
    (member : x ∈ (Script.ofEvent settings catalogue event c).effects) :
    (∃ os, x = .noted os ∧ runs os = []) ∨
      ∃ element l isAsync, EventScope.element ε c = .ok element ∧
        EventScope.Finds settings catalogue c event l isAsync ∧
        x = (l.invocation element c.snapshot isAsync).effect := by
  unfold Script.ofEvent at member
  cases here : EventScope.element ε c with
  | error err =>
      rw [here] at member
      cases member
  | ok element =>
      rw [here] at member
      rcases mem_andThen member with announced | member
      · exact Or.inl ⟨_, List.mem_singleton.1 announced, rfl⟩
      rcases mem_andThen member with managed | member
      · obtain ⟨i, there, rfl⟩ := mem_inTurn managed
        obtain ⟨l, listed, rfl⟩ := List.mem_map.1 there
        exact Or.inr ⟨element, l, false, rfl, Or.inl listed, rfl⟩
      rcases mem_andThen member with asked | member
      · exact Or.inl ⟨_, List.mem_singleton.1 asked, runs_consulted _⟩
      split at member
      · cases member
      rename_i g found
      rcases mem_andThen member with own | left
      · obtain ⟨i, there, rfl⟩ := mem_inTurn own
        obtain ⟨l, listed, rfl⟩ := List.mem_map.1 there
        exact Or.inr ⟨element, l, false, rfl, Or.inr ⟨g, found, listed⟩, rfl⟩
      · obtain ⟨i, there, rfl⟩ := List.mem_map.1 left
        obtain ⟨l, listed, rfl⟩ := List.mem_map.1 there
        refine Or.inr ⟨element, l, true, rfl, ?_, rfl⟩
        exact (List.mem_append.1 listed).imp id fun own => ⟨g, found, own⟩

theorem Effect.for_ofEvent {settings : Settings} {catalogue : Catalogue} {event : ε}
    (member : x ∈ (Script.ofEvent settings catalogue event c).effects) : x.For ε c := by
  obtain ⟨os, rfl, silent⟩ | ⟨element, l, isAsync, here, -, rfl⟩ := Script.mem_ofEvent member
  · exact .noted silent
  · cases isAsync with
    | false => exact .ran here
    | true => exact .submitted here

theorem Effect.for_ofName {settings : Settings} {catalogue : Catalogue} {name : String}
    {forceSync : Bool}
    (member : x ∈ (Script.ofName ε settings catalogue name forceSync c).effects) : x.For ε c := by
  unfold Script.ofName at member
  cases here : EventScope.element ε c with
  | error err =>
      rw [here] at member
      cases member
  | ok element =>
      rw [here] at member
      rcases Script.mem_andThen member with managed | member
      · exact for_ofListener here managed
      rcases Script.mem_andThen member with asked | member
      · exact for_consulted asked
      split at member
      · cases member
      · exact for_ofListener here member

end

end

/-! ## Sequences of calls -/

/-- One call of a notifier. -/
inductive Notice where
  | processEvent (event : ProcessEvent) (c : Context)
  | taskEvent (event : TaskEvent) (c : Context)
  | byName (family : Family) (name : String) (forceSync : Bool) (c : Context)

namespace Notice

/-- The family whose listeners are notified. -/
def family : Notice → Family
  | processEvent .. => .process
  | taskEvent .. => .task
  | byName family .. => family

/-- The context of the call. -/
def context : Notice → Context
  | processEvent _ c => c
  | taskEvent _ c => c
  | byName _ _ _ c => c

/-- What the call comes to. -/
def script (settings : Settings) (catalogue : Catalogue) : Notice → Script
  | processEvent event c => .ofEvent settings catalogue event c
  | taskEvent event c => .ofEvent settings catalogue event c
  | byName .process name forceSync c => .ofName ProcessEvent settings catalogue name forceSync c
  | byName .task name forceSync c => .ofName TaskEvent settings catalogue name forceSync c

/-- What may be done for the call. -/
def Makes (n : Notice) (x : Effect) : Prop :=
  match n.family with
  | .process => x.For ProcessEvent n.context
  | .task => x.For TaskEvent n.context

theorem makes_of_mem {settings : Settings} {catalogue : Catalogue} {n : Notice} {x : Effect}
    (member : x ∈ (n.script settings catalogue).effects) : n.Makes x := by
  cases n with
  | processEvent => exact Effect.for_ofEvent member
  | taskEvent => exact Effect.for_ofEvent member
  | byName family =>
      cases family with
      | process => exact Effect.for_ofName (ε := ProcessEvent) member
      | task => exact Effect.for_ofName (ε := TaskEvent) member

variable {σ : Type} [EventStore σ]

/-- The call is made. -/
def send (e : Engine TaskTable σ) : Notice → Except WorkflowError Unit × Engine TaskTable σ
  | processEvent event c => e.notify event c
  | taskEvent event c => e.notify event c
  | byName .process name forceSync c => e.notifyByName ProcessEvent name forceSync c
  | byName .task name forceSync c => e.notifyByName TaskEvent name forceSync c

theorem send_eq (e : Engine TaskTable σ) (n : Notice) :
    n.send e = e.play (n.script e.settings e.catalogue) := by
  cases n with
  | processEvent event c => exact e.notify_eq_play event c
  | taskEvent event c => exact e.notify_eq_play event c
  | byName family name forceSync c =>
      cases family with
      | process => exact e.notifyByName_eq_play (ε := ProcessEvent) name forceSync c
      | task => exact e.notifyByName_eq_play (ε := TaskEvent) name forceSync c

/-- Calls are made one after the other; what each of them answers. -/
def sendAll (e : Engine TaskTable σ) :
    List Notice → List (Except WorkflowError Unit) × Engine TaskTable σ
  | [] => ([], e)
  | n :: rest =>
    let (answer, e) := n.send e
    let (answers, e) := sendAll e rest
    (answer :: answers, e)

/-- What calls that are made one after the other do. -/
def effects (settings : Settings) (catalogue : Catalogue) (ns : List Notice) : List Effect :=
  ns.flatMap fun n => (n.script settings catalogue).effects

theorem sendAll_eq (e : Engine TaskTable σ) (ns : List Notice) :
    sendAll e ns = (ns.map fun n => (n.script e.settings e.catalogue).answer,
      e.performAll (effects e.settings e.catalogue ns)) := by
  induction ns generalizing e with
  | nil => rfl
  | cons n rest ih =>
      have settings := Engine.settings_performAll e (n.script e.settings e.catalogue).effects
      have catalogue := Engine.catalogue_performAll e (n.script e.settings e.catalogue).effects
      unfold sendAll
      rw [send_eq, Engine.play]
      dsimp only
      rw [ih, settings, catalogue, effects, effects, List.flatMap_cons, Engine.performAll_append]
      rfl

end Notice

end ApprovalFlow
