import ApprovalFlow.Yaml.Line

/-!
# A pen that keeps to its lines

A text is written from left to right by a pen that knows its column and whether a blank or a line
break is needed before what comes next. So the parts of a document need not know what was written
before them: `Pen.mark` puts a blank before a mark only where there is none, and `Pen.indent` starts
a new line only where the line has more than its indentation.
-/

namespace ApprovalFlow.Yaml

/-- A pen at work. -/
structure Pen where
  /-- What is written, the last character first. -/
  written : List Char
  /-- The column of the next character. -/
  column : Nat
  /-- Whether the next part needs no blank before it. -/
  spaced : Bool
  /-- Whether the line has nothing but its indentation and marks of structure. -/
  indenting : Bool
  deriving DecidableEq, Repr

namespace Pen

/-- A pen on an empty page. -/
def start : Pen := ⟨[], 0, true, true⟩

/-- What has been written. -/
def text (p : Pen) : String :=
  String.ofList p.written.reverse

/-- Writes a character. -/
def put (p : Pen) (c : Char) : Pen :=
  { p with written := c :: p.written, column := p.column + 1 }

/-- Writes characters. -/
def putAll (p : Pen) (cs : List Char) : Pen :=
  cs.foldl put p

/-- Writes a line break. -/
def breakLine (p : Pen) (c : Char) : Pen :=
  { p with written := c :: p.written, column := 0 }

/-- Goes to an indentation, on this line if it has nothing behind that column yet. -/
def indent (p : Pen) (width : Nat) : Pen :=
  let p :=
    if !p.indenting || width < p.column || (p.column == width && !p.spaced) then p.breakLine '\n'
    else p
  let p := p.putAll (List.replicate (width - p.column) ' ')
  { p with spaced := true, indenting := true }

/-- Writes a blank unless none is needed. -/
def space (p : Pen) : Pen :=
  if p.spaced then p else p.put ' '

/-- Writes a mark. A mark of structure leaves the line to its indentation. -/
def mark (p : Pen) (c : Char) (isStructure : Bool) : Pen :=
  { p.put c with spaced := false, indenting := p.indenting && isStructure }

/-- Ends a scalar. -/
def settle (p : Pen) : Pen :=
  { p with spaced := false, indenting := false }

/-- Writes characters, each line break as it is and each further line indented to a width.
`afterBreak` says whether a line has just begun; `onBreak` writes a break and may look at whether it
is the first. -/
def putLines (p : Pen) (width : Nat) (onBreak : Pen → Bool → Char → Pen)
    (onChar : Pen → Char → Pen) : Bool → List Char → Pen × Bool
  | afterBreak, [] => (p, afterBreak)
  | afterBreak, c :: rest =>
    if isBreak c then
      putLines { onBreak p (!afterBreak) c with indenting := true } width onBreak onChar true rest
    else
      let p := if afterBreak then p.indent width else p
      putLines { onChar p c with indenting := false } width onBreak onChar false rest

end Pen

end ApprovalFlow.Yaml
