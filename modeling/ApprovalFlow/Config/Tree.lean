import ApprovalFlow.Config.Path
import ApprovalFlow.Number.Plain
import ApprovalFlow.Text.Case

/-!
# Settings from several sources

Sources of settings are laid one over the other in a tree. A leaf remembers which source it came
from, for error messages. Setting a key to a plain value replaces what was there; setting it to a
table sets each of the table's keys in turn, so an empty table changes nothing. A path is set by
going down the tree. Wherever a key is looked for and there is no table, a table is put; wherever a
place is looked for and there is no list, a list, and a list too short for the place is filled up
with nothing.
-/

namespace ApprovalFlow.Config

/-- A plain value. -/
inductive Scalar where
  | unit
  | bool (value : Bool)
  | int (value : Int)
  | float (value : PlainFloat)
  | text (value : String)
  deriving DecidableEq, Repr, Inhabited

/-- A tree of settings. -/
inductive Tree where
  /-- A plain value, with the source it came from. -/
  | leaf (origin : Option String) (value : Scalar)
  /-- A list of values. -/
  | list (origin : Option String) (items : List Tree)
  /-- A table of values by key. -/
  | table (origin : Option String) (members : List (String × Tree))
  deriving Repr, Inhabited

namespace Tree

/-- The table without members. -/
def empty : Tree := .table none []

/-- The value that is not there. -/
def nothing : Tree := .leaf none .unit

/-- The members of a table; nothing else has any. -/
def members : Tree → List (String × Tree)
  | .table _ members => members
  | _ => []

/-- The source a table came from. A table that is put in the place of something else came from
none. -/
def tableOrigin : Tree → Option String
  | .table origin _ => origin
  | _ => none

/-- The value of a key. -/
def get? (t : Tree) (key : String) : Option Tree :=
  (t.members.find? (·.1 == key)).map (·.2)

/-- Puts a value under a key; what is not a table becomes one. -/
def put (t : Tree) (key : String) (value : Tree) : Tree :=
  if t.members.any (·.1 == key) then
    .table t.tableOrigin (t.members.map fun m => if m.1 = key then (key, value) else m)
  else .table t.tableOrigin (t.members ++ [(key, value)])

/-- The items of a list; nothing else has any. -/
def items : Tree → List Tree
  | .list _ items => items
  | _ => []

/-- The source a list came from. A list that is put in the place of something else came from
none. -/
def listOrigin : Tree → Option String
  | .list origin _ => origin
  | _ => none

/-- The number of a place in a list of a length, if the list has or can be given such a place. -/
def placeIn (length : Nat) (place : Int) : Option Nat :=
  if 0 ≤ place then some place.toNat
  else if place.natAbs ≤ length then some (length - place.natAbs)
  else none

/-- The value at a place. -/
def item (t : Tree) (place : Int) : Tree :=
  ((placeIn t.items.length place).bind (t.items[·]?)).getD .nothing

/-- Puts a value at a place; what is not a list becomes one. -/
def putItem (t : Tree) (place : Int) (value : Tree) : Tree :=
  match placeIn t.items.length place with
  | some n =>
    let filled := t.items ++ List.replicate (n + 1 - t.items.length) .nothing
    .list t.listOrigin (filled.set n value)
  | none => t

mutual

/-- Sets a key. A table is merged into what is there. -/
def set (t : Tree) (key : String) : Tree → Tree
  | .leaf origin value => t.put key (.leaf origin value)
  | .list origin items => t.put key (.list origin items)
  | .table _ incoming => t.put key (setAll ((t.get? key).getD .empty) incoming)

/-- Sets keys in turn. -/
def setAll (t : Tree) : List (String × Tree) → Tree
  | [] => t
  | (key, value) :: rest => setAll (t.set key value) rest

end

/-- Sets what is at the end of a path. -/
def setPath (t : Tree) : Path → Tree → Tree
  | [], _ => t
  | [.key key], value => t.set key value
  | [.item place], value => t.putItem place value
  | .key key :: rest, value => t.put key (setPath ((t.get? key).getD .nothing) rest value)
  | .item place :: rest, value => t.putItem place (setPath (t.item place) rest value)

mutual

/-- Lowers every key. -/
def lowerKeys : Tree → Tree
  | .leaf origin value => .leaf origin value
  | .list origin items => .list origin (lowerKeysOfItems items)
  | .table origin members => .table origin (lowerKeysOfMembers members)

/-- Lowers every key in items. -/
def lowerKeysOfItems : List Tree → List Tree
  | [] => []
  | t :: rest => lowerKeys t :: lowerKeysOfItems rest

/-- Lowers every key of members and in their values. -/
def lowerKeysOfMembers : List (String × Tree) → List (String × Tree)
  | [] => []
  | (key, t) :: rest => (Text.toLower key, lowerKeys t) :: lowerKeysOfMembers rest

end

end Tree

/-- One setting of a source: where it goes, and its value. -/
structure Entry where
  path : Path
  value : Tree
  deriving Repr

/-- Lays the settings of a source over a tree. -/
def Tree.lay (t : Tree) (entries : List Entry) : Tree :=
  entries.foldl (fun t e => t.setPath e.path e.value) t

end ApprovalFlow.Config
