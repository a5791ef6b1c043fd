import ApprovalFlow.Text.Parts

/-!
# Files

Files are given by their names, which are paths from the working directory, with their texts. A
name is looked up step by step: an empty step and a dot stay where they are, two dots go back, and
all of these, like any further step, can only be taken in a directory. The directories are those
that the names of the files lead through.
-/

namespace ApprovalFlow

/-- Texts of files by name. -/
abbrev Files := List (String × String)

/-- What stands at a place. -/
inductive Files.Entry where
  | file (content : String)
  | directory
  deriving DecidableEq, Repr

/-- Why a file cannot be read. -/
inductive FileError where
  /-- There is nothing of the name. -/
  | missing
  /-- A step is taken from a file. -/
  | notDirectory
  /-- The name is that of a directory. -/
  | isDirectory
  deriving DecidableEq, Repr

/-- The message shown to people. -/
def FileError.message : FileError → String
  | missing => "No such file or directory (os error 2)"
  | notDirectory => "Not a directory (os error 20)"
  | isDirectory => "Is a directory (os error 21)"

namespace Files

/-- The steps of a name that lead somewhere. The first step of a name that begins at the root is a
slash. -/
def stepsOf (name : String) : List String :=
  let steps := (Text.parts '/' name).filter fun step => step != "" && step != "."
  if name.startsWith "/" then "/" :: steps else steps

/-- A name without steps that lead nowhere. -/
def plainName (name : String) : String :=
  match stepsOf name with
  | "/" :: steps => "/" ++ String.intercalate "/" steps
  | steps => String.intercalate "/" steps

/-- What stands at a place, given by the steps that lead there. -/
def entry? (files : Files) (place : List String) : Option Entry :=
  match files.find? fun file => stepsOf file.1 == place with
  | some file => some (.file file.2)
  | none =>
    if place.isEmpty || place == ["/"] || files.any fun file => place.isPrefixOf (stepsOf file.1)
    then some .directory
    else none

/-- Takes steps from a place. -/
def walk (files : Files) : List String → List String → Except FileError Entry
  | place, [] =>
    match files.entry? place with
    | some entry => .ok entry
    | none => .error .missing
  | place, step :: rest =>
    match files.entry? place with
    | none => .error .missing
    | some (.file _) => .error .notDirectory
    | some .directory =>
      if step = "" ∨ step = "." then walk files place rest
      else if step = ".." then
        if place.isEmpty then .error .missing else walk files place.dropLast rest
      else walk files (place ++ [step]) rest

/-- Reads a file. -/
def read (files : Files) (name : String) : Except FileError String :=
  let start := if name.startsWith "/" then ["/"] else []
  if name = "" then .error .missing
  else
    match files.walk start (Text.parts '/' name) with
    | .ok (.file content) => .ok content
    | .ok .directory => .error .isDirectory
    | .error e => .error e

/-- The text of a file that can be read. -/
def read? (files : Files) (name : String) : Option String :=
  (files.read name).toOption

end Files

end ApprovalFlow
