import ApprovalFlow.Config.Basic
import ApprovalFlow.Config.Source
import ApprovalFlow.Files
import ApprovalFlow.Json.Reader
import ApprovalFlow.Text.Quoted

/-!
# Loading the configuration

The settings that nothing else sets come first, then those of a file if one is named, then those of
the environment. What the tree then holds is read with some freedom: a count may be a truth value, a
number to be rounded or a text that says one of these, and a name may be any plain value but
nothing. An error names the setting and the source it came from.
-/

namespace ApprovalFlow.Config

/-- Why a configuration cannot be loaded. -/
inductive LoadError where
  /-- A value is of the wrong type: what it is, what it should be, for which key, from where. -/
  | wrongType (found expected : String) (key origin : Option String)
  /-- The file is something else than an object. -/
  | notATable (found file : String)
  /-- The file is not JSON. -/
  | unreadable (file : String)
  /-- There is no file of the name, with or without an extension. -/
  | fileNotFound (name : String)
  /-- The file's extension is none that is known. -/
  | unknownFormat (name : String)
  deriving DecidableEq, Repr

namespace LoadError

/-- The message shown to people. -/
def message : LoadError → String
  | wrongType found expected key origin =>
    "invalid type: " ++ found ++ ", expected " ++ expected ++
      (match key with
        | some key => " for key `" ++ key ++ "`"
        | none => "") ++
      (match origin with
        | some origin => " in " ++ origin
        | none => "")
  | notATable found file =>
    "invalid type: " ++ found ++ ", expected a map in " ++ file ++ " in " ++ file
  | unreadable file => "syntax error in " ++ file
  | fileNotFound name => "configuration file \"" ++ name ++ "\" not found"
  | unknownFormat name => "configuration file \"" ++ name ++ "\" is not of a registered file format"

/-- Whether the error says that a file is not JSON. -/
def isSyntax : LoadError → Bool
  | unreadable _ => true
  | _ => false

end LoadError

/-- The error at a key. -/
def LoadError.atKey (key : String) : LoadError → LoadError
  | wrongType found expected none origin => wrongType found expected (some key) origin
  | wrongType found expected (some inner) origin =>
    wrongType found expected (some (key ++ inner)) origin
  | e => e

namespace Scalar

/-- What an error message says was found where a value was expected. -/
def found : Scalar → String
  | unit => "unit value"
  | bool b => "boolean `" ++ toString b ++ "`"
  | int n => "64-bit integer `" ++ toString n ++ "`"
  | float x => "floating point `" ++ String.ofList x.text ++ "`"
  | text s => "string " ++ Text.quoted s

/-- What an error message says was found where a section was expected. A whole float keeps its point
there. -/
def foundForSection : Scalar → String
  | int n => "integer `" ++ toString n ++ "`"
  | float x =>
    let cs := x.text
    let whole := match x with
      | .finite _ => !cs.contains '.'
      | _ => false
    "floating point `" ++ String.ofList (if whole then cs ++ ['.', '0'] else cs) ++ "`"
  | s => s.found

end Scalar

/-- The words for switching something on. -/
def onWords : List String := ["true", "on", "yes"]

/-- The words for switching something off. -/
def offWords : List String := ["false", "off", "no"]

/-- Reads a count from a plain value. -/
def countOfScalar (origin : Option String) (s : Scalar) : Except LoadError Nat :=
  let refuse (expected : String) : Except LoadError Nat :=
    .error (.wrongType s.found expected none origin)
  match s with
  | .unit => refuse "an integer"
  | .bool b => .ok (if b then 1 else 0)
  | .int n => if 0 ≤ n then .ok n.toNat else refuse "an unsigned 64 bit or less integer"
  | .float x => .ok (x.toNatUpTo (WorkflowConfig.countLimit - 1))
  | .text t =>
    let word := Text.toLower t
    if onWords.contains word then .ok 1
    else if offWords.contains word then .ok 0
    else
      match readPlainNat WorkflowConfig.countLimit t.toList with
      | some n => .ok n
      | none => refuse "an integer"

/-- Reads a count. -/
def readCount : Tree → Except LoadError Nat
  | .leaf origin s => countOfScalar origin s
  | .list origin _ => .error (.wrongType "sequence" "an integer" none origin)
  | .table origin _ => .error (.wrongType "map" "an integer" none origin)

/-- Reads a count that may be absent. -/
def readCount? : Tree → Except LoadError (Option Nat)
  | .leaf _ .unit => .ok none
  | t => (readCount t).map some

/-- Reads a name. -/
def readName : Tree → Except LoadError String
  | .leaf _ (.bool b) => .ok (toString b)
  | .leaf _ (.int n) => .ok (toString n)
  | .leaf _ (.float x) => .ok (String.ofList x.text)
  | .leaf _ (.text s) => .ok s
  | .leaf origin .unit => .error (.wrongType "unit value" "a string" none origin)
  | .list origin _ => .error (.wrongType "sequence" "a string" none origin)
  | .table origin _ => .error (.wrongType "map" "a string" none origin)

/-- Reads a value if it is there, and takes the default otherwise. -/
def readOr {α : Type} (default : α) (key : String) (read : Tree → Except LoadError α) :
    Option Tree → Except LoadError α
  | some t => (read t).mapError (·.atKey key)
  | none => .ok default

/-- The settings of a section: by key in a table, by place in a list. -/
def sectionField (name : String) (place : Nat) : Tree → String × Option Tree
  | .list _ items => ("[" ++ toString place ++ "]", items[place]?)
  | t => ("." ++ name, t.get? name)

/-- Checks that a section is a table or a list. -/
def checkSection (type : String) : Tree → Except LoadError Unit
  | .leaf _ s => .error (.wrongType s.foundForSection ("struct " ++ type) none none)
  | _ => .ok ()

/-- Reads one setting of a section. -/
def readField {α : Type} (sectionName : String) (sectionTree : Tree) (name : String) (place : Nat)
    (default : α) (read : Tree → Except LoadError α) : Except LoadError α :=
  let (key, field) := sectionField name place sectionTree
  readOr default (sectionName ++ key) read field

/-- Reads the configuration off a tree. -/
def configOfTree (t : Tree) : Except LoadError WorkflowConfig := do
  let standard := WorkflowConfig.standard
  let notifier := (t.get? "notifier").getD .empty
  checkSection "NotifierConfig" notifier
  let workers ← readField "notifier" notifier "workers" 0 standard.workers readCount
  let capacity ← readField "notifier" notifier "queue_capacity" 1 none readCount?
  let approval := (t.get? "approval").getD .empty
  checkSection "ApprovalConfig" approval
  let operator ←
    readField "approval" approval "system_operator" 0 standard.systemOperator readName
  return ⟨workers, capacity, operator⟩

/-- The settings that nothing else sets. -/
def standardEntries : List Entry :=
  [⟨[.key "notifier", .key "workers"], .leaf none (.int WorkflowConfig.standard.workers)⟩,
    ⟨[.key "approval", .key "system_operator"],
      .leaf none (.text WorkflowConfig.standard.systemOperator)⟩]

/-- The configuration from the environment alone. -/
def loadEnvironment (word : String) (vars : List (String × String)) :
    Except LoadError WorkflowConfig :=
  configOfTree ((Tree.empty.lay standardEntries).lay (entriesOfEnvironment word vars))

/-- The word that variables begin with unless another is asked for. -/
def standardWord : String := "INLONG"

/-- The settings of a file's text. -/
def entriesOfFile (file content : String) : Except LoadError (List Entry) :=
  match (Json.parse content).map Json.canonical with
  | none => .error (.unreadable file)
  | some (.obj members) => .ok (entriesOfMembers file members)
  | some j =>
    match treeOfJson none j with
    | .leaf _ s => .error (.notATable s.found file)
    | _ => .error (.notATable "sequence" file)

/-- The extension of the files that can be read. -/
def extension : String := "json"

/-- The extension of a file's name: what follows the last dot, unless the name begins with it. -/
def extensionOf (name : String) : Option String :=
  match (Text.parts '.' ((Files.stepsOf name).getLastD "")).reverse with
  | [ext, stem] => if stem = "" then none else some ext
  | ext :: _ :: _ => some ext
  | _ => none

/-- Finds the file of a name among the files there are, and its text: the file itself, else the one
with the extension added. -/
def findFile (files : Files) (name : String) : Except LoadError (String × String) :=
  let plain := Files.plainName name
  match files.read? name with
  | some content =>
    if extensionOf name = some extension then .ok (plain, content) else .error (.unknownFormat name)
  | none =>
    let extended := plain ++ "." ++ extension
    match if plain = "" then none else files.read? extended with
    | some content => .ok (extended, content)
    | none => .error (.fileNotFound name)

/-- The configuration from a file, overridden by the environment. -/
def loadFile (files : Files) (name : String)
    (vars : List (String × String)) : Except LoadError WorkflowConfig := do
  let (file, content) ← findFile files name
  let entries ← entriesOfFile file content
  configOfTree
    (((Tree.empty.lay standardEntries).lay entries).lay
      (entriesOfEnvironment standardWord vars))

end ApprovalFlow.Config
