import ApprovalFlow.Store.Basic

/-!
# Stores that refuse

`Refusing τ` is a store that refuses some of its calls, as a failing storage does. Calls are counted
by kind, refused ones included. A refused call does nothing but count.
-/

namespace ApprovalFlow

/-- Which calls of a kind are refused. -/
inductive Refusals where
  /-- Every call. -/
  | all
  /-- The calls with these numbers, counted from one. -/
  | calls (numbers : List Nat)
  deriving DecidableEq, Repr, Inhabited

/-- Whether a call is refused, by its number. -/
def Refusals.refuses : Refusals → Nat → Bool
  | .all, _ => true
  | .calls numbers, n => numbers.contains n

/-- No call is refused. -/
def Refusals.never : Refusals := .calls []

/-- The calls of one kind: which are refused, and how many have been made. -/
structure CallScript where
  refusals : Refusals
  made : Nat
  deriving Repr, Inhabited

/-- Counts a call and says whether it is refused. -/
def CallScript.next (script : CallScript) (call : String) : Option StoreError × CallScript :=
  let n := script.made + 1
  (if script.refusals.refuses n then some (.storage (call ++ " " ++ toString n ++ " refused"))
   else none, { script with made := n })

/-- A store with scripts for its calls. -/
structure Refusing (τ : Type) where
  store : τ
  inserts : CallScript
  updates : CallScript
  counts : CallScript

namespace Refusing

variable {τ : Type}

/-- A store that refuses the given calls. -/
def ofStore (store : τ) (inserts updates counts : Refusals) : Refusing τ :=
  ⟨store, ⟨inserts, 0⟩, ⟨updates, 0⟩, ⟨counts, 0⟩⟩

instance [TaskStore τ] : TaskStore (Refusing τ) where
  insert r row :=
    match r.inserts.next "insert" with
    | (some e, script) => (.error e, { r with inserts := script })
    | (none, script) =>
      let (answer, store) := TaskStore.insert r.store row
      (answer, { r with store := store, inserts := script })
  update r row :=
    match r.updates.next "update" with
    | (some e, script) => (.error e, { r with updates := script })
    | (none, script) =>
      let (answer, store) := TaskStore.update r.store row
      (answer, { r with store := store, updates := script })
  get? r := TaskStore.get? r.store
  count r processId name status :=
    match r.counts.next "count" with
    | (some e, script) => (.error e, { r with counts := script })
    | (none, script) =>
      let (answer, store) := TaskStore.count r.store processId name status
      (answer, { r with store := store, counts := script })
  ofProcess r := TaskStore.ofProcess r.store

instance [EventStore τ] : EventStore (Refusing τ) where
  insert r row :=
    match r.inserts.next "insert" with
    | (some e, script) => (.error e, { r with inserts := script })
    | (none, script) =>
      let (answer, store) := EventStore.insert r.store row
      (answer, { r with store := store, inserts := script })
  update r row :=
    match r.updates.next "update" with
    | (some e, script) => (.error e, { r with updates := script })
    | (none, script) =>
      let (answer, store) := EventStore.update r.store row
      (answer, { r with store := store, updates := script })
  rows r := EventStore.rows r.store
  ofProcess r := EventStore.ofProcess r.store

end Refusing

end ApprovalFlow
