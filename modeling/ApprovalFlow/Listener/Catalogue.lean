import ApprovalFlow.Listener.Basic
import ApprovalFlow.Listener.Selector
import ApprovalFlow.Text.Quoted

/-!
# The catalogue of service task listeners

Service tasks come in ten types, and each type belongs to one of four categories. The catalogue
holds, for every category, listeners with the selectors that gate them. Looking a category up
consults each of its selectors once, in order, and keeps the listeners that are accepted. Plugins
bring a catalogue of their own, which is appended list by list.
-/

namespace ApprovalFlow

/-- The categories of listeners. -/
inductive Category where
  | source
  | sink
  | queue
  | sort
  deriving DecidableEq, Repr, Inhabited

namespace Category

/-- Every category. -/
def all : List Category :=
  [source, sink, queue, sort]

/-- The name of a category. -/
def name : Category → String
  | source => "SOURCE_OPERATE"
  | sink => "SINK_OPERATE"
  | queue => "QUEUE_OPERATE"
  | sort => "SORT_OPERATE"

/-- The category of a name. -/
def ofName (s : String) : Option Category :=
  all.find? (·.name == s)

/-- Looking up a category's name finds the category. -/
theorem ofName_name (category : Category) : ofName category.name = some category := by
  cases category <;> rfl

end Category

/-- The kinds of work a service task does. -/
inductive ServiceTaskType where
  | initMq
  | initSort
  | stopSort
  | restartSort
  | deleteSort
  | initSource
  | stopSource
  | restartSource
  | deleteSource
  | initSink
  deriving DecidableEq, Repr, Inhabited

namespace ServiceTaskType

/-- Every type. -/
def all : List ServiceTaskType :=
  [initMq, initSort, stopSort, restartSort, deleteSort, initSource, stopSource, restartSource,
    deleteSource, initSink]

/-- The name of a type. -/
def name : ServiceTaskType → String
  | initMq => "INIT_MQ"
  | initSort => "INIT_SORT"
  | stopSort => "STOP_SORT"
  | restartSort => "RESTART_SORT"
  | deleteSort => "DELETE_SORT"
  | initSource => "INIT_SOURCE"
  | stopSource => "STOP_SOURCE"
  | restartSource => "RESTART_SOURCE"
  | deleteSource => "DELETE_SOURCE"
  | initSink => "INIT_SINK"

/-- The category a type belongs to. -/
def category : ServiceTaskType → Category
  | initMq => .queue
  | initSort | stopSort | restartSort | deleteSort => .sort
  | initSource | stopSource | restartSource | deleteSource => .source
  | initSink => .sink

/-- The type of a name, as written. -/
def ofName (s : String) : Option ServiceTaskType :=
  all.find? (·.name == s)

/-- The type of a name; the case of ASCII letters does not matter. -/
def named (s : String) : Except WorkflowError ServiceTaskType :=
  match all.find? (Text.equalsIgnoringAsciiCase ·.name s) with
  | some taskType => .ok taskType
  | none => .error (.unsupportedTaskType s)

/-- The types of a category. -/
def ofCategory (c : Category) : List ServiceTaskType :=
  all.filter (·.category == c)

/-- Looking up a type's name finds the type. -/
theorem ofName_name (taskType : ServiceTaskType) : ofName taskType.name = some taskType := by
  cases taskType <;> rfl

end ServiceTaskType

/-- A listener and the selector that gates it. -/
structure Gated where
  listener : Listener TaskEvent
  selector : Selector

/-- One question put to a selector: for which listener, and the answer. -/
structure Consultation where
  listener : String
  accepted : Bool
  deriving DecidableEq, Repr

namespace Gated

/-- The question a snapshot puts to the selector. -/
def consult (s : Snapshot) (g : Gated) : Consultation :=
  ⟨g.listener.name, g.selector s⟩

/-- The summary of a gated listener. -/
def summary (g : Gated) : String :=
  Text.recordSummary "SelectedListener" [("listener", Text.quoted g.listener.name)]

end Gated

/-- What going through some selectors has come to so far: the questions that were put, and the
listeners that were accepted, each in order. -/
structure Selection where
  consultations : List Consultation
  accepted : List (Listener TaskEvent)

namespace Selection

/-- Nobody has been asked. -/
def start : Selection := ⟨[], []⟩

/-- Asks the selector of one listener more, and keeps the listener if it is accepted. -/
def ask (s : Snapshot) (found : Selection) (g : Gated) : Selection :=
  let accepted := g.selector s
  { consultations := found.consultations ++ [⟨g.listener.name, accepted⟩]
    accepted := if accepted then found.accepted ++ [g.listener] else found.accepted }

/-- Going through some listeners asks each of them once, in order, and keeps those that accept. -/
theorem foldl_ask (s : Snapshot) (gs : List Gated) (found : Selection) :
    gs.foldl (ask s) found =
      ⟨found.consultations ++ gs.map (Gated.consult s),
        found.accepted ++ (gs.filter (·.selector s)).map (·.listener)⟩ := by
  induction gs generalizing found with
  | nil => simp
  | cons g rest ih =>
      rw [List.foldl_cons, ih, ask, List.map_cons, List.filter_cons, Gated.consult]
      cases g.selector s <;> simp

end Selection

/-- Gated listeners by category. -/
structure Catalogue where
  source : List Gated
  sink : List Gated
  queue : List Gated
  sort : List Gated

namespace Catalogue

/-- The catalogue without listeners. -/
def empty : Catalogue := ⟨[], [], [], []⟩

instance : Inhabited Catalogue := ⟨empty⟩

/-- The listeners of a category. -/
def get (c : Catalogue) : Category → List Gated
  | .source => c.source
  | .sink => c.sink
  | .queue => c.queue
  | .sort => c.sort

/-- Appends a listener to a category. -/
def register (c : Catalogue) (category : Category) (g : Gated) : Catalogue :=
  match category with
  | .source => { c with source := c.source ++ [g] }
  | .sink => { c with sink := c.sink ++ [g] }
  | .queue => { c with queue := c.queue ++ [g] }
  | .sort => { c with sort := c.sort ++ [g] }

/-- Appends the lists of another catalogue, category by category. -/
def append (c d : Catalogue) : Catalogue :=
  ⟨c.source ++ d.source, c.sink ++ d.sink, c.queue ++ d.queue, c.sort ++ d.sort⟩

/-- The number of listeners in each category, in the order of `Category.all`. -/
def sizes (c : Catalogue) : List Nat :=
  Category.all.map fun category => (c.get category).length

/-- Goes through the selectors of a category. -/
def select (c : Catalogue) (s : Snapshot) (category : Category) : Selection :=
  (c.get category).foldl (Selection.ask s) .start

/-- The questions that looking a category up puts to its selectors. -/
def consultations (c : Catalogue) (s : Snapshot) (category : Category) : List Consultation :=
  (c.select s category).consultations

/-- The listeners of a category that a snapshot's selectors accept. -/
def accepted (c : Catalogue) (s : Snapshot) (category : Category) : List (Listener TaskEvent) :=
  (c.select s category).accepted

/-- The summary of a catalogue. -/
def summary (c : Catalogue) : String :=
  let list (gs : List Gated) := Text.bracketed (gs.map Gated.summary)
  Text.recordSummary "ServiceTaskListenerFactory"
    [("source", list c.source), ("sink", list c.sink), ("queue", list c.queue),
      ("sort", list c.sort)]

/-- Registering in one category leaves the others alone. -/
theorem get_register (c : Catalogue) (category other : Category) (g : Gated) :
    (c.register category g).get other =
      if other = category then c.get other ++ [g] else c.get other := by
  cases category <;> cases other <;> rfl

/-- Appending a catalogue appends each list as a block. -/
theorem get_append (c d : Catalogue) (category : Category) :
    (c.append d).get category = c.get category ++ d.get category := by
  cases category <;> rfl

/-- Looking a category up asks each of its selectors once, in order. -/
theorem consultations_eq (c : Catalogue) (s : Snapshot) (category : Category) :
    c.consultations s category = (c.get category).map (Gated.consult s) := by
  rw [consultations, select, Selection.foldl_ask]
  rfl

/-- It finds the listeners whose selectors accept, in order. -/
theorem accepted_eq (c : Catalogue) (s : Snapshot) (category : Category) :
    c.accepted s category = ((c.get category).filter (·.selector s)).map (·.listener) := by
  rw [accepted, select, Selection.foldl_ask]
  rfl

end Catalogue

/-- Something loaded at run time. Only a process plugin brings listeners. -/
structure Plugin where
  name : String
  process : Option Catalogue

/-- A change of a catalogue. -/
inductive Catalogue.Change where
  /-- One listener is registered. -/
  | register (category : Category) (gated : Gated)
  /-- A plugin's listeners are taken over. -/
  | plugin (p : Plugin)
  /-- All listeners are dropped. -/
  | clear

/-- The catalogue after a change. -/
def Catalogue.apply (c : Catalogue) : Catalogue.Change → Catalogue
  | .register category gated => c.register category gated
  | .plugin p =>
    match p.process with
    | some d => c.append d
    | none => c
  | .clear => .empty

end ApprovalFlow
