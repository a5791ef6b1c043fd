import ApprovalFlow.Number.Binary64

/-!
# JSON values

An object is the list of its members as written, repeats included, because a record refuses a
repeated field while a free-form map lets the last one win. `Json.canonical` is the map reading:
at every level the members sorted by key, each key once, with the value written last.
-/

namespace ApprovalFlow

/-- A JSON value. Whole numbers that fit into 64 bits are kept exact, all others as floats. -/
inductive Json where
  | null
  | bool (value : Bool)
  | int (value : Int)
  | float (value : Binary64)
  | str (value : String)
  | arr (items : List Json)
  | obj (members : List (String × Json))
  deriving Repr, Inhabited, BEq

namespace Json

/-- Puts a member into a list of members sorted by key, over an equal key if there is one. -/
def insertMember (key : String) (value : Json) : List (String × Json) → List (String × Json)
  | [] => [(key, value)]
  | (k, v) :: rest =>
    if key < k then (key, value) :: (k, v) :: rest
    else if key = k then (key, value) :: rest
    else (k, v) :: insertMember key value rest

/-- The members sorted by key, the last of equal keys winning. -/
def sortMembers (members : List (String × Json)) : List (String × Json) :=
  members.foldl (fun acc m => insertMember m.1 m.2 acc) []

mutual

/-- The map reading of a value. -/
def canonical : Json → Json
  | .null => .null
  | .bool b => .bool b
  | .int n => .int n
  | .float x => .float x
  | .str s => .str s
  | .arr items => .arr (canonicalItems items)
  | .obj members => .obj (sortMembers (canonicalMembers members))

/-- The map reading of every item. -/
def canonicalItems : List Json → List Json
  | [] => []
  | j :: rest => canonical j :: canonicalItems rest

/-- The map reading of every member's value. -/
def canonicalMembers : List (String × Json) → List (String × Json)
  | [] => []
  | (k, j) :: rest => (k, canonical j) :: canonicalMembers rest

end

/-- The value of the first member with a key. -/
def member? (key : String) : Json → Option Json
  | .obj members => (members.find? fun m => m.1 == key).map (·.2)
  | _ => none

/-- The text a value is, if it is one. -/
def text? : Json → Option String
  | .str s => some s
  | _ => none

/-- An optional value, `null` when absent. -/
def ofOption {α : Type} (encode : α → Json) : Option α → Json
  | some a => encode a
  | none => .null

/-- A list of texts. -/
def ofTexts (items : List String) : Json :=
  .arr (items.map .str)

end Json

end ApprovalFlow
