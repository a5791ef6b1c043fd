import ApprovalFlow.Json.Number
import ApprovalFlow.Json.Shape

/-!
# Reading JSON

A text is read in two steps. `Written.ofChars` finds out what is written: blanks around values are
allowed, control characters may not stand in a text, and an escape has to be one of the letters or
four digits. `Written.read` then says what that stands for: half a surrogate pair, a number out of
the range of floats, and containers nested deeper than `depthLimit` are refused. A reader that
wants some members of an object only (`Shape`) does not look at the others, so what stands in them
merely has to be written well.

The recursive readers take the number of characters they may still use as fuel; `Written.ofChars`
gives them more than the text has.
-/

namespace ApprovalFlow.Json

/-- How deep containers may be nested. -/
def depthLimit : Nat := 127

/-- The blanks of JSON. -/
def isSpace (c : Char) : Bool :=
  c == ' ' || c == '\t' || c == '\n' || c == '\r'

/-- Drops leading blanks. -/
def skipSpace (cs : List Char) : List Char :=
  cs.dropWhile isSpace

/-- The value of a hexadecimal digit of either case. -/
def hexValue (c : Char) : Option Nat :=
  if '0' ≤ c ∧ c ≤ '9' then some (c.toNat - 48)
  else if 'a' ≤ c ∧ c ≤ 'f' then some (c.toNat - 87)
  else if 'A' ≤ c ∧ c ≤ 'F' then some (c.toNat - 55)
  else none

/-- The value of four hexadecimal digits. -/
def hexQuad (a b c d : Char) : Option Nat := do
  return (← hexValue a) * 4096 + (← hexValue b) * 256 + (← hexValue c) * 16 + (← hexValue d)

/-- The character of a letter escape. -/
def letterEscape (c : Char) : Option Char :=
  match c with
  | '"' => some '"'
  | '\\' => some '\\'
  | '/' => some '/'
  | 'b' => some '\x08'
  | 'f' => some '\x0c'
  | 'n' => some '\n'
  | 'r' => some '\r'
  | 't' => some '\t'
  | _ => none

/-- A piece of a text as written: a character, or the code unit that four digits give. -/
inductive Piece where
  | char (c : Char)
  | unit (n : Nat)
  deriving DecidableEq, Repr

/-- Reads one piece of a text: the piece and the rest. -/
def readPiece (cs : List Char) : Option (Piece × List Char) :=
  match cs with
  | '\\' :: 'u' :: a :: b :: c :: d :: rest => do return (.unit (← hexQuad a b c d), rest)
  | '\\' :: c :: rest => (letterEscape c).map (.char ·, rest)
  | c :: rest => if c.toNat < 0x20 ∨ c = '\\' then none else some (.char c, rest)
  | [] => none

/-- Reads a text up to its closing quote. -/
def readPieces : Nat → List Char → Option (List Piece × List Char)
  | 0, _ => none
  | fuel + 1, cs =>
    match cs with
    | '"' :: rest => some ([], rest)
    | cs => do
      let (p, rest) ← readPiece cs
      let (more, rest) ← readPieces fuel rest
      return (p :: more, rest)

/-- The character two surrogates name. -/
def surrogatePair (high low : Nat) : Char :=
  Char.ofNat (0x10000 + (high - 0xD800) * 0x400 + (low - 0xDC00))

/-- The characters that pieces of a text stand for. -/
def charsOf : List Piece → Option (List Char)
  | [] => some []
  | .char c :: rest => do return c :: (← charsOf rest)
  | [.unit n] => if 0xD800 ≤ n ∧ n < 0xE000 then none else some [Char.ofNat n]
  | .unit n :: .unit m :: rest =>
    if 0xD800 ≤ n ∧ n < 0xDC00 then
      if 0xDC00 ≤ m ∧ m < 0xE000 then do return surrogatePair n m :: (← charsOf rest) else none
    else if 0xDC00 ≤ n ∧ n < 0xE000 then none
    else do return Char.ofNat n :: (← charsOf (.unit m :: rest))
  | .unit n :: .char c :: rest =>
    if 0xD800 ≤ n ∧ n < 0xE000 then none
    else do return Char.ofNat n :: c :: (← charsOf rest)

/-- The text that pieces stand for. -/
def textOf (pieces : List Piece) : Option String :=
  (charsOf pieces).map String.ofList

/-- A value as written. -/
inductive Written where
  | null
  | bool (value : Bool)
  | number (numeral : Numeral)
  | text (pieces : List Piece)
  | arr (items : List Written)
  | obj (members : List (List Piece × Written))
  deriving Repr, Inhabited

namespace Written

mutual

/-- Reads a value that begins at the first character. -/
def readValue : Nat → List Char → Option (Written × List Char)
  | 0, _ => none
  | fuel + 1, cs =>
    match cs with
    | 'n' :: 'u' :: 'l' :: 'l' :: rest => some (.null, rest)
    | 't' :: 'r' :: 'u' :: 'e' :: rest => some (.bool true, rest)
    | 'f' :: 'a' :: 'l' :: 's' :: 'e' :: rest => some (.bool false, rest)
    | '"' :: rest => do
      let (pieces, rest) ← readPieces fuel rest
      return (.text pieces, rest)
    | '[' :: rest =>
      match skipSpace rest with
      | ']' :: rest => some (.arr [], rest)
      | rest => do
        let (items, rest) ← readItems fuel rest
        return (.arr items, rest)
    | '\x7b' :: rest =>
      match skipSpace rest with
      | '\x7d' :: rest => some (.obj [], rest)
      | rest => do
        let (members, rest) ← readMembers fuel rest
        return (.obj members, rest)
    | cs => do
      let (numeral, rest) ← readNumeral cs
      return (.number numeral, rest)

/-- Reads one or more items up to the closing bracket. -/
def readItems : Nat → List Char → Option (List Written × List Char)
  | 0, _ => none
  | fuel + 1, cs => do
    let (w, rest) ← readValue fuel cs
    match skipSpace rest with
    | ']' :: rest => some ([w], rest)
    | ',' :: rest => do
      let (more, rest) ← readItems fuel (skipSpace rest)
      return (w :: more, rest)
    | _ => none

/-- Reads one or more members up to the closing brace. -/
def readMembers : Nat → List Char → Option (List (List Piece × Written) × List Char)
  | 0, _ => none
  | fuel + 1, cs =>
    match cs with
    | '"' :: rest => do
      let (key, rest) ← readPieces fuel rest
      match skipSpace rest with
      | ':' :: rest => do
        let (w, rest) ← readValue fuel (skipSpace rest)
        match skipSpace rest with
        | '\x7d' :: rest => some ([(key, w)], rest)
        | ',' :: rest => do
          let (more, rest) ← readMembers fuel (skipSpace rest)
          return ((key, w) :: more, rest)
        | _ => none
      | _ => none
    | _ => none

end

/-- Reads a list of characters that holds one value and blanks around it. -/
def ofChars (cs : List Char) : Option Written := do
  let (w, rest) ← readValue (2 * cs.length + 2) (skipSpace cs)
  if (skipSpace rest).isEmpty then some w else none

mutual

/-- What a value stands for, as far as it is looked at, with containers nested no deeper than
`depth`. -/
def read (shape : Shape) (depth : Nat) : Written → Option Json
  | null => some .null
  | bool b => some (.bool b)
  | number numeral => numeral.value
  | text pieces => (textOf pieces).map .str
  | arr items =>
    match depth with
    | 0 => none
    | depth + 1 => (readEach shape depth items).map .arr
  | obj members =>
    match depth with
    | 0 => none
    | depth + 1 => (readNamed shape depth members).map .obj

/-- What items stand for. -/
def readEach (shape : Shape) (depth : Nat) : List Written → Option (List Json)
  | [] => some []
  | w :: rest => do return (← w.read shape.split.1 depth) :: (← readEach shape.split.2 depth rest)

/-- What the members that are looked at stand for. -/
def readNamed (shape : Shape) (depth : Nat) :
    List (List Piece × Written) → Option (List (String × Json))
  | [] => some []
  | (pieces, w) :: rest => do
    let key ← textOf pieces
    match shape.member? key with
    | some inner => return (key, ← w.read inner depth) :: (← readNamed shape depth rest)
    | none => readNamed shape depth rest

end

end Written

/-- Reads what a text holds, as far as it is looked at. -/
def parseAs (shape : Shape) (s : String) : Option Json :=
  Written.ofChars s.toList >>= Written.read shape depthLimit

/-- Reads a text that holds one value and blanks around it. -/
def parse (s : String) : Option Json :=
  parseAs .whole s

end ApprovalFlow.Json
