import ApprovalFlow.Listener.Basic
import ApprovalFlow.Text.Quoted

/-!
# Listener registries

A registry holds listeners under unique names. Beside the list in order of registration it keeps,
for every event, the groups a notification needs, so that an event finds its listeners without a
search. `Registry.register` is the only way in: it refuses a name that is taken and otherwise adds
the listener to the list and to the group of its event and mode.
-/

namespace ApprovalFlow

/-- Listeners by name, and by event and mode. -/
structure Registry (ε : Type) where
  /-- The listeners in order of registration. -/
  listeners : List (Listener ε)
  /-- The listeners of each event, in order of registration. -/
  groups : ε → Groups ε

namespace Registry

variable {ε : Type}

/-- The registry without listeners. -/
def empty : Registry ε := ⟨[], fun _ => .empty⟩

instance : Inhabited (Registry ε) := ⟨empty⟩

/-- The listener of a name. -/
def find? (r : Registry ε) (name : String) : Option (Listener ε) :=
  r.listeners.find? (·.name == name)

/-- The number of listeners. -/
def size (r : Registry ε) : Nat :=
  r.listeners.length

/-- Whether there are no listeners. -/
def isEmpty (r : Registry ε) : Bool :=
  r.listeners.isEmpty

/-- Adds a listener whose name is not taken. -/
def add [DecidableEq ε] (r : Registry ε) (l : Listener ε) : Registry ε where
  listeners := r.listeners ++ [l]
  groups e := if e = l.event then (r.groups e).push l else r.groups e

/-- Adds a listener, or refuses because its name is taken. -/
def register [DecidableEq ε] (r : Registry ε) (l : Listener ε) :
    Except WorkflowError (Registry ε) :=
  if (r.find? l.name).isSome then .error (.duplicateListener l.name) else .ok (r.add l)

/-- The listeners of an event that are run in line. -/
def sync (r : Registry ε) (event : ε) : List (Listener ε) :=
  (r.groups event).sync

/-- The listeners of an event that are left to a worker pool. -/
def async (r : Registry ε) (event : ε) : List (Listener ε) :=
  (r.groups event).async

/-- The summary of a registry: its family and its names in order of their characters. -/
def summary [EventFamily ε] (r : Registry ε) : String :=
  let names := (r.listeners.map (·.name)).mergeSort (· ≤ ·)
  Text.recordSummary "ListenerRegistry"
    [("event_type", Text.quoted (EventFamily.familyName ε)),
      ("listeners", Text.bracketed (names.map Text.quoted))]

end Registry

end ApprovalFlow
