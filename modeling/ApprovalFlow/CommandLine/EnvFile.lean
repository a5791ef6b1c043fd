import ApprovalFlow.Text.Blank
import ApprovalFlow.Text.LetterTable
import ApprovalFlow.Text.Parts
import ApprovalFlow.Text.Ranges

/-!
# Files of environment variables

A file may set environment variables that are not set already, one to a line: a name, an equals sign
and a value. A number sign begins a comment. Quotes keep blanks, a backslash outside single quotes
takes the next character as it is, and a dollar sign stands before the name of a variable whose
value goes there. The first line that cannot be read ends the file; what the lines before it set
stays.
-/

namespace ApprovalFlow.EnvFile

/-- Environment variables, each once. -/
abbrev Variables := List (String × String)

/-- The value of a variable, empty if it is not set. -/
def valueOf (vars : Variables) (name : List Char) : List Char :=
  match vars.find? (·.1.toList == name) with
  | some var => var.2.toList
  | none => []

/-- Where the reader of a value is. -/
inductive Place where
  /-- Outside quotes. -/
  | bare
  /-- Between single quotes. -/
  | strong
  /-- Between double quotes. -/
  | weak
  /-- Behind the value, where only blanks and a comment may follow. -/
  | ended
  /-- Behind a backslash, within double quotes or not. -/
  | escape (inWeak : Bool)
  /-- In the name of a variable. -/
  | name (inWeak : Bool) (soFar : List Char)
  /-- In the name of a variable between braces. -/
  | braced (inWeak : Bool) (soFar : List Char)
  deriving DecidableEq, Repr

/-- Where a reader goes back to, within double quotes or not. -/
def Place.back (inWeak : Bool) : Place :=
  if inWeak then .weak else .bare

/-- Whether a character continues the name of a variable behind a dollar sign. Any letter or number
does, ASCII or not. -/
def isReferenceChar (c : Char) : Bool :=
  c.isAlphanum || Text.inRanges Text.letterRanges c.toNat

/-- A single quote. -/
def strongMark : Char := Char.ofNat 39

/-- What a character behind a backslash stands for. -/
def escaped (c : Char) : Option Char :=
  if c = '\\' ∨ c = strongMark ∨ c = '"' ∨ c = '$' ∨ c = ' ' then some c
  else if c = 'n' then some '\n'
  else none

/-- What one character of a value adds, and where the reader is then. -/
def step (vars : Variables) : Place → Char → Option (List Char × Place)
  | .ended, c => if c = ' ' ∨ c = '\t' then some ([], .ended) else none
  | .escape inWeak, c => (escaped c).map fun d => ([d], .back inWeak)
  | .strong, c => some (if c = strongMark then ([], .bare) else ([c], .strong))
  | .name inWeak soFar, c =>
    if isReferenceChar c then some ([], .name inWeak (soFar ++ [c]))
    else if c = '\x7b' ∧ soFar.isEmpty then some ([], .braced inWeak [])
    else if c = '$' then some (valueOf vars soFar, .name inWeak [])
    else some (valueOf vars soFar ++ [c], .back inWeak)
  | .braced inWeak soFar, c =>
    if c = '\x7d' then some (valueOf vars soFar, .back inWeak)
    else some ([], .braced inWeak (soFar ++ [c]))
  | .weak, c =>
    some
      (if c = '$' then ([], .name true [])
      else if c = '"' then ([], .bare)
      else if c = '\\' then ([], .escape true)
      else ([c], .weak))
  | .bare, c =>
    some
      (if c = '$' then ([], .name false [])
      else if c = strongMark then ([], .strong)
      else if c = '"' then ([], .weak)
      else if c = '\\' then ([], .escape false)
      else if c = ' ' ∨ c = '\t' then ([], .ended)
      else ([c], .bare))

/-- What the end of a line adds; refused between quotes or braces. -/
def atEnd (vars : Variables) : Place → Option (List Char)
  | .bare | .ended | .escape false => some []
  | .name false soFar => some (valueOf vars soFar)
  | _ => none

/-- Reads a value. -/
def readValue (vars : Variables) : Place → List Char → Option (List Char)
  | place, [] => atEnd vars place
  | place, c :: rest =>
    if place = .ended ∧ c = '#' then some []
    else do
      let (added, place) ← step vars place c
      return added ++ (← readValue vars place rest)

/-- Whether a character may begin a name. -/
def isNameStart (c : Char) : Bool :=
  c.isAlpha || c == '_'

/-- Whether a character may stand in a name. -/
def isNameChar (c : Char) : Bool :=
  c.isAlphanum || c == '_' || c == '.'

/-- Reads a name and the blanks behind it. -/
def readName (cs : List Char) : Option (List Char × List Char) :=
  if cs.head?.any isNameStart then
    some (cs.takeWhile isNameChar, Text.trimLeft (cs.dropWhile isNameChar))
  else none

/-- Reads an equals sign and the blanks behind it. -/
def readEquals : List Char → Option (List Char)
  | '=' :: rest => some (Text.trimLeft rest)
  | _ => none

/-- The word that may stand before a name. -/
def exportWord : List Char := "export".toList

/-- Reads the name of a setting and its equals sign. -/
def readSetting (cs : List Char) : Option (List Char × List Char) := do
  let (name, rest) ← readName cs
  match readEquals rest with
  | some rest => return (name, rest)
  | none =>
    if name = exportWord then
      let (name, rest) ← readName rest
      return (name, ← readEquals rest)
    else none

/-- Whether nothing more is said on a line. -/
def isSilent (cs : List Char) : Bool :=
  cs.isEmpty || cs.head? == some '#'

/-- Reads a line: a setting, nothing, or refusal. -/
def readLine (vars : Variables) (line : List Char) : Option (Option (String × String)) := do
  let cs := Text.trimList line
  if isSilent cs then return none
  let (name, rest) ← readSetting cs
  let value ← if isSilent rest then some [] else readValue vars .bare rest
  return some (String.ofList name, String.ofList value)

/-- Sets a variable that is not set. -/
def put (vars : Variables) (var : String × String) : Variables :=
  if vars.any (·.1 == var.1) then vars else vars ++ [var]

/-- Applies lines up to the first that cannot be read. -/
def applyLines (vars : Variables) : List (List Char) → Variables
  | [] => vars
  | line :: rest =>
    match readLine vars line with
    | none => vars
    | some none => applyLines vars rest
    | some (some var) => applyLines (put vars var) rest

/-- The variables with those a file sets. -/
def apply (vars : Variables) (content : String) : Variables :=
  applyLines vars (Text.partsList '\n' content.toList)

end ApprovalFlow.EnvFile
