import ApprovalFlow.Config.Basic
import ApprovalFlow.Replay.Steps

/-!
# Scenarios

A scenario describes a process with its tasks, the listeners that take part and the actions that
operators take. `Scenario.build` wires it up: it either accepts the scenario and yields everything a
replay starts from, or says what is wrong with it.
-/

namespace ApprovalFlow

/-- The process of a scenario. -/
structure ProcessSpec where
  id : Int
  name : String
  displayName : Option String
  applicant : String
  groupId : Option String
  start : List String
  deriving DecidableEq, Repr

/-- Who does a task of a scenario. -/
inductive TaskKindSpec where
  | user (approvers : List String) (needAll : Bool) (formKind : Option TaskFormKind)
  | service (types : List String)
  deriving DecidableEq, Repr

/-- A task of a scenario. -/
structure TaskSpec where
  name : String
  displayName : Option String
  kind : TaskKindSpec
  next : List String
  deriving DecidableEq, Repr

/-- A selector of a scenario. -/
inductive SelectorSpec where
  | always
  | mqType (mq : MqType)
  | zookeeper (enabled : Bool)
  | sourceOperate (operation : GroupOperation)
  | sinkType (sinkType : String)
  | lightGroup
  deriving DecidableEq, Repr

/-- Where a listener of a scenario is registered. -/
inductive ListenerTarget where
  /-- With all processes, for process events. -/
  | managerProcess
  /-- With all processes, for task events. -/
  | managerTask
  /-- With the process. -/
  | process
  /-- With a task. -/
  | task (name : String)
  /-- In the catalogue of service task listeners. -/
  | service (category : Category) (selector : SelectorSpec)
  deriving DecidableEq, Repr

/-- A listener of a scenario. It refuses with a message, or succeeds. -/
structure ListenerSpec where
  name : String
  target : ListenerTarget
  event : String
  isAsync : Bool
  fail : Option String
  deriving DecidableEq, Repr

/-- A process, its listeners and the actions on it. -/
structure Scenario where
  process : ProcessSpec
  form : Option ProcessForm
  tasks : List TaskSpec
  listeners : List ListenerSpec
  actions : List ActionSpec
  deriving DecidableEq, Repr

/-- What is wrong with a scenario. -/
inductive ScenarioError where
  /-- The form, a type of work, a registration or the definition is refused. -/
  | workflow (error : WorkflowError)
  /-- A listener's event is none of its family. -/
  | unknownEvent (listener : String) (family : Family) (event : String)
  /-- A listener is for a task that is not there. -/
  | unknownTask (listener task : String)
  /-- A selector is for the operation that sets a group up, which has no listeners of its own. -/
  | initSelector
  deriving DecidableEq, Repr

namespace ScenarioError

/-- The error of the workflow, if the workflow refused. -/
def workflow? : ScenarioError → Option WorkflowError
  | workflow error => some error
  | _ => none

/-- The message shown to people. -/
def message : ScenarioError → String
  | workflow error => error.message
  | unknownEvent listener family event =>
    "listener " ++ listener ++ ": unknown " ++ family.name ++ " " ++ event
  | unknownTask listener task => "listener " ++ listener ++ ": unknown task " ++ task
  | initSelector => "source operate selector cannot select INIT"

end ScenarioError

/-- Everything a replay starts from. -/
structure BuiltScenario where
  definition : ProcessDefinition
  processManager : Registry ProcessEvent
  taskManager : Registry TaskEvent
  catalogue : Catalogue
  process : ProcessRow
  form : Option ProcessForm
  actions : List ActionSpec

namespace SelectorSpec

/-- The selector itself. -/
def build : SelectorSpec → Except ScenarioError Selector
  | always => .ok Selector.always
  | mqType mq => .ok (Selector.mqTypeIs mq)
  | zookeeper enabled => .ok (Selector.zookeeperIs enabled)
  | sourceOperate .init => .error .initSelector
  | sourceOperate operation => .ok (Selector.operationIs operation)
  | sinkType s => .ok (Selector.hasSinkType s)
  | lightGroup => .ok Selector.lightGroupWithStreams

end SelectorSpec

namespace ListenerSpec

/-- What the listener answers, whatever it sees. -/
def outcome (l : ListenerSpec) : Outcome :=
  match l.fail with
  | some message => .refusal message
  | none => .success

/-- The listener itself, with its event looked up by its name in capitals. -/
def build (ε : Type) [EventFamily ε] (l : ListenerSpec) : Except ScenarioError (Listener ε) :=
  match EventFamily.ofName ε (Text.toUpper l.event) with
  | some event => .ok ⟨l.name, event, l.isAsync, fun _ => l.outcome⟩
  | none => .error (.unknownEvent l.name (EventFamily.family ε) l.event)

end ListenerSpec

/-- An ordinary result as a result of building. -/
def ScenarioError.lift {α : Type} : Except WorkflowError α → Except ScenarioError α
  | .ok a => .ok a
  | .error error => .error (.workflow error)

/-- The kind of task itself. A service task takes its listeners from the catalogue. -/
def TaskKindSpec.build : TaskKindSpec → Except ScenarioError TaskKind
  | user approvers needAll formKind => .ok (.user ⟨fun _ => approvers, needAll, formKind⟩)
  | service types => do
    return .service ⟨← ScenarioError.lift (types.mapM ServiceTaskType.named), [.catalogue]⟩

namespace TaskSpec

/-- The name a task is shown by. -/
def shownName (t : TaskSpec) : String :=
  t.displayName.getD t.name

/-- The task itself, without listeners. -/
def build (t : TaskSpec) : Except ScenarioError Task := do
  return ⟨t.name, t.shownName, ← t.kind.build, .empty, t.next⟩

end TaskSpec

/-- Puts a task in the place of the last one of its name. -/
def replaceLastTask (task : Task) : List Task → List Task
  | [] => []
  | t :: rest =>
    if rest.any (·.name == task.name) then t :: replaceLastTask task rest
    else if t.name = task.name then task :: rest
    else t :: rest

/-- What listeners have been registered with so far. -/
structure Wiring where
  process : ProcessDefinition
  tasks : List Task
  processManager : Registry ProcessEvent
  taskManager : Registry TaskEvent
  catalogue : Catalogue

namespace Wiring

/-- Registers a listener where its target says. -/
def add (w : Wiring) (l : ListenerSpec) : Except ScenarioError Wiring :=
  match l.target with
  | .managerProcess => do
    let listener ← l.build ProcessEvent
    return { w with
      processManager := ← ScenarioError.lift (w.processManager.register listener) }
  | .managerTask => do
    let listener ← l.build TaskEvent
    return { w with taskManager := ← ScenarioError.lift (w.taskManager.register listener) }
  | .process => do
    let listener ← l.build ProcessEvent
    return { w with process := ← ScenarioError.lift (w.process.addListener listener) }
  | .task name =>
    match w.tasks.reverse.find? (·.name == name) with
    | none => throw (.unknownTask l.name name)
    | some t => do
      let listener ← l.build TaskEvent
      let t ← ScenarioError.lift (t.addListener listener)
      return { w with tasks := replaceLastTask t w.tasks }
  | .service category selector => do
    let listener ← l.build TaskEvent
    let selector ← selector.build
    return { w with catalogue := w.catalogue.register category ⟨listener, selector⟩ }

end Wiring

namespace Scenario

/-- The name the process is shown by. -/
def shownName (s : Scenario) : String :=
  s.process.displayName.getD s.process.name

/-- The process before its tasks and listeners. -/
def bareProcess (s : Scenario) : ProcessDefinition :=
  { ProcessDefinition.named s.process.name s.shownName with
    start := s.process.start
    formKind := s.form.map ProcessForm.kind }

/-- The group of the process: its own, else the one its form speaks about. -/
def groupId (s : Scenario) : Option String :=
  s.process.groupId.or (s.form.bind ProcessForm.groupId)

/-- The row of the process. -/
def processRow (s : Scenario) (now : Instant) : ProcessRow :=
  { ProcessRow.opened s.process.id s.process.name s.process.applicant now with
    displayName := s.shownName
    groupId := s.groupId
    formData := s.form.map ProcessForm.toText }

/-- Wires the scenario up. -/
def build (s : Scenario) (now : Instant) : Except ScenarioError BuiltScenario := do
  if let some form := s.form then
    ScenarioError.lift form.validate
  let tasks ← s.tasks.mapM TaskSpec.build
  let wiring ← s.listeners.foldlM Wiring.add ⟨s.bareProcess, tasks, .empty, .empty, .empty⟩
  let definition ← ScenarioError.lift (wiring.tasks.foldlM ProcessDefinition.addTask wiring.process)
  ScenarioError.lift definition.validate
  return {
    definition := definition
    processManager := wiring.processManager
    taskManager := wiring.taskManager
    catalogue := wiring.catalogue
    process := s.processRow now
    form := s.form
    actions := s.actions }

end Scenario

/-- The replay of a scenario before its first step. -/
def BuiltScenario.replay (b : BuiltScenario) (config : WorkflowConfig) (now : Instant) :
    Replay where
  engine := .new ⟨b.processManager, b.taskManager, config.systemOperator⟩ config.workers
    config.queueCapacity b.catalogue .empty .empty now
  definition := b.definition
  process := b.process
  form := b.form
  steps := []

end ApprovalFlow
