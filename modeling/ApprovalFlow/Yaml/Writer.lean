import ApprovalFlow.Json.Writer
import ApprovalFlow.Yaml.Pen
import ApprovalFlow.Yaml.Scalar

/-!
# Writing block style

`Yaml.text` writes a value in the block style of YAML: the members of an object on lines of their
own, nested objects two blanks further in, the items of a list behind dashes. A text stands without
quotes where it can. One that would be taken for something else, or that begins with a mark of
structure, is put in single quotes; one with characters that have to be escaped, in double quotes;
one with line feeds is a literal block. A key that is long or has line breaks stands behind a
question mark, its value behind a colon on a line of its own.
-/

namespace ApprovalFlow.Yaml

/-- How a text is written. -/
inductive TextStyle where
  | plain
  | single
  | double
  | literal
  deriving DecidableEq, Repr

/-- A single quote. -/
def quoteMark : Char := Char.ofNat 39

/-- Whether a character may stand unescaped. -/
def isPrintable (c : Char) : Bool :=
  let n := c.toNat
  n == 0x0A || (0x20 ≤ n && n ≤ 0x7E) || (0xA0 ≤ n && n ≤ 0xFFFD && n != 0xFEFF) || 0x10000 ≤ n

/-- The characters that have a meaning of their own at the beginning of a text. -/
def structureMarks : List Char :=
  ",#[]\x7b\x7d&*!|>\"%@".toList ++ [quoteMark, Char.ofNat 96]

/-- Whether a text begins with something that has a meaning of its own there. -/
def beginsWithMark : List Char → Bool
  | '-' :: '-' :: '-' :: _ | '.' :: '.' :: '.' :: _ => true
  | c :: rest =>
    structureMarks.contains c || (['?', ':', '-'].contains c && atGap rest)
  | [] => false

/-- Whether two characters that satisfy a test each stand side by side. -/
def hasPair (first second : Char → Bool) : List Char → Bool
  | c :: d :: rest => (first c && second d) || hasPair first second (d :: rest)
  | _ => false

/-- Whether a colon before a blank or at the end, or a number sign behind a blank, stands behind the
first character. -/
def hasInnerMark : List Char → Bool
  | c :: d :: rest =>
    (d == ':' && atGap rest) || (d == '#' && isGap c) || hasInnerMark (d :: rest)
  | _ => false

/-- Whether a text cannot be written without escapes. -/
def needsEscapes (cs : List Char) : Bool :=
  cs.any (!isPrintable ·) || hasPair (· == ' ') isBreak cs

/-- Whether a text may stand without quotes. -/
def allowsPlain (cs : List Char) : Bool :=
  let edge (c : Option Char) : Bool := c == some ' '
  !(edge cs.head? || edge cs.getLast? || cs.any isBreak || needsEscapes cs || beginsWithMark cs ||
    hasInnerMark cs)

/-- Whether a text may stand in single quotes. -/
def allowsSingle (cs : List Char) : Bool :=
  !(needsEscapes cs || hasPair isBreak (· == ' ') cs)

/-- Whether a text may be a literal block. -/
def allowsLiteral (cs : List Char) : Bool :=
  !(cs.isEmpty || needsEscapes cs || cs.getLast? == some ' ')

/-- Whether a text would be taken for something else, or is digits with a zero before them. -/
def readsOtherwise (s : String) : Bool :=
  (match Scalar.ofPlain s with
    | .text _ => false
    | _ => true) || Scalar.isPaddedDigits s.toList

/-- The style of a text, in a key that stands before its colon or anywhere else. -/
def styleOf (isKey : Bool) (s : String) : TextStyle :=
  let cs := s.toList
  let quoted := if allowsSingle cs then TextStyle.single else .double
  if isKey && cs.any isBreak then .double
  else if cs.contains '\n' then
    if isKey || !allowsLiteral cs then .double else .literal
  else if readsOtherwise s || !allowsPlain cs then quoted
  else .plain

/-- The letter that stands for a character behind a backslash. -/
def escapeLetter (c : Char) : Option Char :=
  match c.toNat with
  | 0x00 => some '0'
  | 0x07 => some 'a'
  | 0x08 => some 'b'
  | 0x09 => some 't'
  | 0x0A => some 'n'
  | 0x0B => some 'v'
  | 0x0C => some 'f'
  | 0x0D => some 'r'
  | 0x1B => some 'e'
  | 0x22 => some '"'
  | 0x5C => some '\\'
  | 0x85 => some 'N'
  | 0x2028 => some 'L'
  | 0x2029 => some 'P'
  | _ => none

/-- A number in base sixteen, capital letters, filled up with zeros. -/
def hexOfWidth (width n : Nat) : List Char :=
  let ds := (Nat.toDigits 16 n).map Char.toUpper
  List.replicate (width - ds.length) '0' ++ ds

/-- The form of a character in double quotes. -/
def escapeChar (c : Char) : List Char :=
  match escapeLetter c with
  | some letter => ['\\', letter]
  | none =>
    let n := c.toNat
    if isPrintable c then [c]
    else if n ≤ 0xFF then ['\\', 'x'] ++ hexOfWidth 2 n
    else if n ≤ 0xFFFF then ['\\', 'u'] ++ hexOfWidth 4 n
    else ['\\', 'U'] ++ hexOfWidth 8 n

/-- What stands behind the bar of a literal block: its indentation if the text begins with a blank
or a break, and how many breaks end it. -/
def literalHeader (cs : List Char) : List Char :=
  let hint := if cs.head?.any fun c => c == ' ' || isBreak c then ['2'] else []
  let ending := match cs.reverse with
    | [c] => if isBreak c then ['+'] else ['-']
    | c :: d :: _ => if !isBreak c then ['-'] else if isBreak d then ['+'] else []
    | [] => ['-']
  hint ++ ending

namespace Pen

/-- Writes characters without quotes. -/
def plain (p : Pen) (cs : List Char) : Pen :=
  (p.space.putAll cs).settle

/-- Writes a text in single quotes. A line feed after which no break stands is doubled. -/
def single (p : Pen) (width : Nat) (cs : List Char) : Pen :=
  let p := p.space.mark quoteMark false
  let onBreak (p : Pen) (isFirst : Bool) (c : Char) : Pen :=
    (if isFirst && c == '\n' then p.breakLine '\n' else p).breakLine c
  let onChar (p : Pen) (c : Char) : Pen := if c = quoteMark then (p.put c).put c else p.put c
  let (p, afterBreak) := p.putLines width onBreak onChar false cs
  ((if afterBreak then p.indent width else p).put quoteMark).settle

/-- Writes a text in double quotes. -/
def double (p : Pen) (cs : List Char) : Pen :=
  (p.space.putAll ('"' :: cs.flatMap escapeChar ++ ['"'])).settle

/-- Writes a text as a literal block. -/
def literal (p : Pen) (width : Nat) (cs : List Char) : Pen :=
  let p := (p.space.putAll ('|' :: literalHeader cs)).breakLine '\n'
  let p := { p with spaced := true, indenting := true }
  (p.putLines width (fun p _ c => p.breakLine c) put true cs).1

/-- Writes a text. -/
def scalar (p : Pen) (isKey : Bool) (width : Nat) (s : String) : Pen :=
  match styleOf isKey s with
  | .plain => p.plain s.toList
  | .single => p.single width s.toList
  | .double => p.double s.toList
  | .literal => p.literal width s.toList

end Pen

/-- How many bytes a key before its colon may have. -/
def keyLimit : Nat := 128

/-- Whether a key stands before its colon on one line. -/
def isSimpleKey (key : String) : Bool :=
  key.utf8ByteSize ≤ keyLimit && !key.toList.any isBreak

/-- The indentation one level below another; the document itself has none. -/
def below (outermost : Nat) : Option Nat → Nat
  | none => outermost
  | some width => width + 2

/-- The indentation of the further lines of a scalar. -/
def scalarWidth (width : Option Nat) : Nat :=
  below 2 width

/-- The indentation of the items of a list. Below a key that ends its line it is that of the key. -/
def itemWidth (p : Pen) (isMember : Bool) : Option Nat → Nat
  | some width => if isMember && !p.indenting then width else width + 2
  | none => 0

/-- Writes a key and what separates it from its value. -/
def writeKey (p : Pen) (width : Nat) (key : String) : Pen :=
  if isSimpleKey key then
    ((p.indent width).scalar true (width + 2) key).mark ':' false
  else
    let p := ((p.indent width).space.mark '?' true).scalar false (width + 2) key
    (p.indent width).space.mark ':' true

mutual

/-- Writes a value that stands in something of an indentation. -/
def write (p : Pen) (width : Option Nat) (isMember : Bool) : Json → Pen
  | .null => p.plain ['n', 'u', 'l', 'l']
  | .bool true => p.plain ['t', 'r', 'u', 'e']
  | .bool false => p.plain ['f', 'a', 'l', 's', 'e']
  | .int n => p.plain (Json.writeInt n)
  | .float x => p.plain (x.render .block)
  | .str s => p.scalar false (scalarWidth width) s
  | .arr [] => p.plain ['[', ']']
  | .arr (j :: rest) => writeItems p (itemWidth p isMember width) (j :: rest)
  | .obj [] => p.plain [Json.openBrace, Json.closeBrace]
  | .obj (m :: rest) => writeMembers p (below 0 width) (m :: rest)

/-- Writes the items of a list, each behind a dash. -/
def writeItems (p : Pen) (width : Nat) : List Json → Pen
  | [] => p
  | j :: rest =>
    writeItems (write ((p.indent width).space.mark '-' true) (some width) false j) width rest

/-- Writes the members of an object. -/
def writeMembers (p : Pen) (width : Nat) : List (String × Json) → Pen
  | [] => p
  | (key, j) :: rest =>
    writeMembers (write (writeKey p width key) (some width) true j) width rest

end

/-- The value as a text, its last line ended by a break. -/
def text (j : Json) : String :=
  ((write .start none false j).indent 0).text

end ApprovalFlow.Yaml
