import ApprovalFlow.Config.Tree
import ApprovalFlow.Json.Value

/-!
# Sources of settings

Settings come from environment variables and from JSON files. A variable counts when its name begins
with a given word and two underscores, in any case; two underscores in the rest separate the keys of
a path. Its value is read as a truth value, a whole number or a number if it looks like one, and is
a text otherwise. The members of a file's object go where their names, taken as paths, say.
-/

namespace ApprovalFlow.Config

/-- The bounds of whole numbers among settings. -/
def intBounds : Int × Int := (-Int.pow 2 63, Int.pow 2 63 - 1)

/-- The value that a variable's text stands for. -/
def scalarOfText (s : String) : Scalar :=
  match Text.toLower s with
  | "true" => .bool true
  | "false" => .bool false
  | _ =>
    match readPlainInt intBounds.1 intBounds.2 s.toList with
    | some n => .int n
    | none =>
      match PlainFloat.read s.toList with
      | some x => .float x
      | none => .text s

/-- Puts a dot in the place of two underscores. -/
def dotted : List Char → List Char
  | '_' :: '_' :: rest => '.' :: dotted rest
  | c :: rest => c :: dotted rest
  | [] => []

/-- Where settings from variables come from. -/
def environmentOrigin : String := "the environment"

/-- The setting of a variable, if its name begins with the word. -/
def entryOfVariable (word : String) (var : String × String) : Option Entry :=
  let start := (Text.toLower (word ++ "__")).toList
  let name := (Text.toLower var.1).toList
  if start.isPrefixOf name then
    some ⟨Path.ofName (String.ofList (dotted (name.drop start.length))),
      .leaf (some environmentOrigin) (scalarOfText var.2)⟩
  else none

/-- The settings of variables. -/
def entriesOfEnvironment (word : String) (vars : List (String × String)) : List Entry :=
  vars.filterMap (entryOfVariable word)

mutual

/-- A JSON value as a setting; whole numbers beyond the bounds become floats. -/
def treeOfJson (origin : Option String) : Json → Tree
  | .null => .leaf origin .unit
  | .bool b => .leaf origin (.bool b)
  | .int n =>
    if intBounds.1 ≤ n ∧ n ≤ intBounds.2 then .leaf origin (.int n)
    else .leaf origin (.float (PlainFloat.ofDecimal (n < 0) (Nat.toDigits 10 n.natAbs) 0))
  | .float x => .leaf origin (.float (.finite x))
  | .str s => .leaf origin (.text s)
  | .arr items => .list origin (treesOfItems origin items)
  | .obj members => .table origin (treesOfMembers origin members)

/-- JSON items as settings. -/
def treesOfItems (origin : Option String) : List Json → List Tree
  | [] => []
  | j :: rest => treeOfJson origin j :: treesOfItems origin rest

/-- JSON members as settings. -/
def treesOfMembers (origin : Option String) : List (String × Json) → List (String × Tree)
  | [] => []
  | (key, j) :: rest => (key, treeOfJson origin j) :: treesOfMembers origin rest

end

/-- The settings of a file's members. -/
def entriesOfMembers (origin : String) (members : List (String × Json)) : List Entry :=
  members.map fun m =>
    ⟨(Path.ofName m.1).mapKeys Text.toLower, (treeOfJson (some origin) m.2).lowerKeys⟩

end ApprovalFlow.Config
