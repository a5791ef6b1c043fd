import ApprovalFlow.Engine.Audit

/-!
# Notification

One notification of an event goes through four groups of listeners: those registered for all
processes and those of the element, first the ones run in line, then the ones left to the pool of
the family. The first failure in line ends the notification; nothing is submitted then. What
becomes of a submitted listener is never the caller's concern.

`EventScope` says where the listeners of an element are: those of a process with its definition,
those of a task with the task the context is at and its providers. The element's listeners are
looked up once, after the in-line listeners for all processes have succeeded.
-/

namespace ApprovalFlow

/-- The listeners of an element for an event, or by a name, with the selectors consulted. -/
structure Lookup (α : Type) where
  consultations : List Consultation
  found : Except WorkflowError α

/-- Where a family of events has its elements and their listeners. -/
class EventScope (ε : Type) extends EventFamily ε where
  /-- The listeners registered for all processes. -/
  manager : Settings → Registry ε
  /-- The element that a context is at. -/
  element : Context → Except WorkflowError Element
  /-- The listeners of the element for an event. -/
  groups : Catalogue → Context → ε → Lookup (Groups ε)
  /-- The listener of the element with a name. -/
  find : Catalogue → Context → String → Lookup (Option (Listener ε))

instance : EventScope ProcessEvent where
  manager s := s.processManager
  element c := .ok ⟨c.definition.name, c.definition.displayName⟩
  groups _ c event := ⟨[], .ok (c.definition.listeners.groups event)⟩
  find _ c name := ⟨[], .ok (c.definition.listeners.find? name)⟩

/-- The listeners of a task for an event, its own and those its providers supply. -/
def Task.lookupGroups (t : Task) (catalogue : Catalogue) (s : Snapshot) (event : TaskEvent) :
    Lookup (Groups TaskEvent) :=
  let supply := t.supply catalogue s
  ⟨supply.consultations, supply.listeners.map (t.groups event)⟩

/-- The listener of a task with a name. Providers are asked only if the task itself has none. -/
def Task.lookupListener (t : Task) (catalogue : Catalogue) (s : Snapshot) (name : String) :
    Lookup (Option (Listener TaskEvent)) :=
  match t.listeners.find? name with
  | some l => ⟨[], .ok (some l)⟩
  | none =>
    let supply := t.supply catalogue s
    ⟨supply.consultations, supply.listeners.map (Task.findSupplied name)⟩

instance : EventScope TaskEvent where
  manager s := s.taskManager
  element c := c.task.map fun t => ⟨t.name, t.displayName⟩
  groups catalogue c event :=
    match c.task with
    | .error e => ⟨[], .error e⟩
    | .ok t => t.lookupGroups catalogue c.snapshot event
  find catalogue c name :=
    match c.task with
    | .error e => ⟨[], .error e⟩
    | .ok t => t.lookupListener catalogue c.snapshot name

/-- The run of a listener for an element in a mode. -/
def Listener.invocation {ε : Type} [EventFamily ε] (l : Listener ε) (element : Element)
    (snapshot : Snapshot) (isAsync : Bool) : Invocation where
  family := EventFamily.family ε
  event := EventFamily.name l.event
  listener := l.name
  respond := l.respond
  element := element
  snapshot := snapshot
  isAsync := isAsync

/-- What an outcome means to a caller who waits for it. -/
def Outcome.toResult (listener : String) : Outcome → Except WorkflowError Unit
  | .success => .ok ()
  | .refusal message => .error (.listenerFailed listener message)
  | .failure error => .error error
  | .panic => .error (.external ("listener " ++ listener ++ " broke off"))

namespace Engine

variable {τ σ : Type} [EventStore σ]

/-- Runs a listener in line. -/
def runInLine (e : Engine τ σ) (i : Invocation) : Except WorkflowError Unit × Engine τ σ :=
  let (outcome, e) := e.run i
  (outcome.toResult i.listener, e)

/-- Runs listeners in line, up to and with the first that fails. -/
def runAll (e : Engine τ σ) : List Invocation → Except WorkflowError Unit × Engine τ σ
  | [] => (.ok (), e)
  | i :: rest =>
    match e.runInLine i with
    | (.ok (), e) => e.runAll rest
    | (.error err, e) => (.error err, e)

/-- Leaves a listener to the pool of its family; if the queue refuses it, it is run at once. -/
def submit (e : Engine τ σ) (i : Invocation) : Engine τ σ :=
  let before := e.pool i.family
  let e := e.withPool i.family (before.submit i)
  if before.isFull then
    let e := (e.run i).2
    e.withPool i.family ((e.pool i.family).finishOnCaller before.submitted)
  else e

/-- Leaves listeners to the pool, in order. -/
def submitAll (e : Engine τ σ) (is : List Invocation) : Engine τ σ :=
  is.foldl submit e

/-- Lets a worker run what is queued in the pool of a family, oldest first; at most `fuel` jobs. -/
def runQueued (family : Family) : Nat → Engine τ σ → Engine τ σ
  | 0, e => e
  | fuel + 1, e =>
    match (e.pool family).take 0 with
    | none => e
    | some (job, p) =>
      let e := ((e.withPool family p).run job.work).2
      runQueued family fuel (e.withPool family ((e.pool family).finish 0))

/-- Waits until the pool of a family is idle. -/
def drainPool (e : Engine τ σ) (family : Family) : Engine τ σ :=
  runQueued family (e.pool family).queued.length e

/-- Waits until both pools are idle, the one of process events first. -/
def drain (e : Engine τ σ) : Engine τ σ :=
  (e.drainPool .process).drainPool .task

variable {ε : Type} [EventScope ε]

/-- Notifies every listener of an event. -/
def notify (e : Engine τ σ) (event : ε) (c : Context) : Except WorkflowError Unit × Engine τ σ :=
  match EventScope.element ε c with
  | .error err => (.error err, e)
  | .ok element =>
    let snapshot := c.snapshot
    let manager : Registry ε := EventScope.manager e.settings
    let e := e.note (.dispatched (EventFamily.family ε) (EventFamily.name event) snapshot)
    match e.runAll ((manager.sync event).map (·.invocation element snapshot false)) with
    | (.error err, e) => (.error err, e)
    | (.ok (), e) =>
      let lookup := EventScope.groups e.catalogue c event
      let e := e.noteConsulted lookup.consultations
      match lookup.found with
      | .error err => (.error err, e)
      | .ok groups =>
        match e.runAll (groups.sync.map (·.invocation element snapshot false)) with
        | (.error err, e) => (.error err, e)
        | (.ok (), e) =>
          (.ok (), e.submitAll
            ((manager.async event ++ groups.async).map (·.invocation element snapshot true)))

/-- Runs a listener in line if it is synchronous or has to be; leaves it to the pool otherwise. -/
def dispatch (e : Engine τ σ) (l : Listener ε) (forceSync : Bool) (element : Element)
    (snapshot : Snapshot) : Except WorkflowError Unit × Engine τ σ :=
  if forceSync || !l.isAsync then e.runInLine (l.invocation element snapshot false)
  else (.ok (), e.submit (l.invocation element snapshot true))

/-- Dispatches a listener if there is one. -/
def dispatchFound (e : Engine τ σ) (found : Option (Listener ε)) (forceSync : Bool)
    (element : Element) (snapshot : Snapshot) : Except WorkflowError Unit × Engine τ σ :=
  match found with
  | some l => e.dispatch l forceSync element snapshot
  | none => (.ok (), e)

/-- Notifies the listeners of a name, whatever their event: the one registered for all processes,
then the element's. -/
def notifyByName (ε : Type) [EventScope ε] (e : Engine τ σ) (name : String) (forceSync : Bool)
    (c : Context) : Except WorkflowError Unit × Engine τ σ :=
  match EventScope.element ε c with
  | .error err => (.error err, e)
  | .ok element =>
    let snapshot := c.snapshot
    let manager : Registry ε := EventScope.manager e.settings
    match e.dispatchFound (manager.find? name) forceSync element snapshot with
    | (.error err, e) => (.error err, e)
    | (.ok (), e) =>
      let lookup : Lookup (Option (Listener ε)) := EventScope.find e.catalogue c name
      let e := e.noteConsulted lookup.consultations
      match lookup.found with
      | .error err => (.error err, e)
      | .ok found => e.dispatchFound found forceSync element snapshot

end Engine

end ApprovalFlow
