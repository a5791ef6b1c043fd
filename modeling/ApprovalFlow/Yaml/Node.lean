import ApprovalFlow.Json.Value
import ApprovalFlow.Json.Shape
import ApprovalFlow.Yaml.Line
import ApprovalFlow.Yaml.Scalar

/-!
# Documents in flow style

A document in the flow style of YAML, of which JSON texts are a part: one list in brackets or one
map in braces, items separated by commas, keys and values by colons, scalars with or without quotes,
comments behind number signs. `Node.ofText` reads one. Beyond the grammar it is refused

* if it has a character that is not printable, comments and quoted texts included;
* if a tab stands at the beginning of a line outside of the brackets;
* if a key and its colon are on different lines or more than `keyReach` characters apart.

Anchors, aliases, tags and further documents are refused as well.

`Node.read` says what a node stands for. Scalars are taken for what the shape of the document says,
and only where it leaves the kind open (`whole`) for what they are spelled as.

The recursive readers take the number of characters they may still use as fuel; `Node.ofText` gives
them more than the text has.
-/

namespace ApprovalFlow.Yaml

/-- A part of a document. -/
inductive Node where
  /-- A scalar without quotes. -/
  | plain (text : String)
  /-- A scalar in quotes. -/
  | quoted (text : String)
  | list (items : List Node)
  | map (members : List (Node × Node))
  deriving Repr, Inhabited

namespace Node

/-- The value that is left out. -/
def absent : Node := .plain ""

/-- Whether a character may stand in a document. -/
def isAllowed (c : Char) : Bool :=
  let n := c.toNat
  n == 0x09 || n == 0x0A || n == 0x0D || (0x20 ≤ n && n ≤ 0x7E) || n == 0x85 ||
    (0xA0 ≤ n && n ≤ 0xFFFD) || 0x10000 ≤ n

/-- The mark that may stand at the beginning of a line. -/
def orderMark : Char := Char.ofNat 0xFEFF

/-- Drops blanks, breaks and comments. `inComment` says whether a comment is going on, `atStart`
whether a line begins. Outside of brackets a tab is dropped as long as `tabs` says so, which no line
break survives. -/
def skip (outside : Bool) : Bool → Bool → Bool → List Char → List Char
  | _, _, _, [] => []
  | tabs, inComment, atStart, c :: rest =>
    if isBreak c then skip outside (tabs && !outside) false true rest
    else if inComment then skip outside tabs true false rest
    else if c = '#' then skip outside tabs true false rest
    else if c = ' ' ∨ (c = '\t' ∧ tabs = true) ∨ (c = orderMark ∧ atStart = true) then
      skip outside tabs false false rest
    else c :: rest

/-- Drops blanks, breaks and comments between brackets. -/
def skipInside (cs : List Char) : List Char :=
  skip false true false false cs

/-- The number of digits behind the letter of an escape by code point. -/
def escapeDigits (c : Char) : Option Nat :=
  match c with
  | 'x' => some 2
  | 'u' => some 4
  | 'U' => some 8
  | _ => none

/-- The character of an escape by letter. -/
def escapeValue (c : Char) : Option Char :=
  match c with
  | '0' => some (Char.ofNat 0)
  | 'a' => some (Char.ofNat 0x07)
  | 'b' => some (Char.ofNat 0x08)
  | 't' | '\t' => some '\t'
  | 'n' => some '\n'
  | 'v' => some (Char.ofNat 0x0B)
  | 'f' => some (Char.ofNat 0x0C)
  | 'r' => some '\r'
  | 'e' => some (Char.ofNat 0x1B)
  | ' ' | '"' | '/' | '\\' => some c
  | 'N' => some (Char.ofNat 0x85)
  | '_' => some (Char.ofNat 0xA0)
  | 'L' => some (Char.ofNat 0x2028)
  | 'P' => some (Char.ofNat 0x2029)
  | _ => none

/-- Reads an escape behind its backslash: the character and the rest. -/
def readEscape (cs : List Char) : Option (Char × List Char) :=
  match cs with
  | [] => none
  | c :: rest =>
    match escapeDigits c with
    | none => (escapeValue c).map (·, rest)
    | some width =>
      match Scalar.digitsIn 16 (rest.take width) with
      | some n =>
        if (rest.take width).length = width ∧ Nat.isValidChar n then
          some (Char.ofNat n, rest.drop width)
        else none
      | none => none

/-- Goes on with a text behind blanks and breaks, unless the mark of a document stands there. -/
def behindGap (gap rest : List Char) : Option (List Char) :=
  if endsLine gap && beginsMarker rest then none else some rest

/-- Reads a text in double quotes up to the closing one. -/
def readDouble : Nat → List Char → Option (List Char × List Char)
  | 0, _ => none
  | fuel + 1, cs =>
    match cs with
    | [] => none
    | '"' :: rest => some ([], rest)
    | '\\' :: rest =>
      if rest.head?.any isBreak then do
        let gap := rest.takeWhile isGap
        let after ← behindGap gap (rest.dropWhile isGap)
        let (more, after) ← readDouble fuel after
        return ((breaksOf gap).drop 1 ++ more, after)
      else do
        let (c, rest) ← readEscape rest
        let (more, rest) ← readDouble fuel rest
        return (c :: more, rest)
    | c :: rest =>
      if isGap c then do
        let gap := (c :: rest).takeWhile isGap
        let after ← behindGap gap ((c :: rest).dropWhile isGap)
        let (more, after) ← readDouble fuel after
        return (joinGap gap ++ more, after)
      else do
        let (more, rest) ← readDouble fuel rest
        return (c :: more, rest)

/-- A single quote. -/
def singleQuote : Char := Char.ofNat 39

/-- Reads a text in single quotes up to the closing one. -/
def readSingle : Nat → List Char → Option (List Char × List Char)
  | 0, _ => none
  | fuel + 1, cs =>
    match cs with
    | [] => none
    | c :: rest =>
      if c = singleQuote then
        match rest with
        | d :: after =>
          if d = singleQuote then do
            let (more, after) ← readSingle fuel after
            return (d :: more, after)
          else some ([], rest)
        | [] => some ([], [])
      else if isGap c then do
        let gap := (c :: rest).takeWhile isGap
        let after ← behindGap gap ((c :: rest).dropWhile isGap)
        let (more, after) ← readSingle fuel after
        return (joinGap gap ++ more, after)
      else do
        let (more, rest) ← readSingle fuel rest
        return (c :: more, rest)

/-- The characters that end a word between brackets. -/
def wordEnds : List Char :=
  [',', '[', ']', '\x7b', '\x7d']

/-- Whether a word ends here. A colon ends it before a blank. -/
def endsWord : List Char → Bool
  | [] => true
  | c :: rest => isGap c || wordEnds.contains c || (c == ':' && atGap rest)

/-- Whether a colon stands before a bracket or a comma, where it may not stand in a word. -/
def breaksWord : List Char → Bool
  | ':' :: c :: _ => c == '?' || wordEnds.contains c
  | _ => false

/-- Reads a word of a scalar without quotes. -/
def readWord : List Char → Option (List Char × List Char)
  | [] => some ([], [])
  | c :: rest =>
    if breaksWord (c :: rest) then none
    else if endsWord (c :: rest) then some ([], c :: rest)
    else do
      let (more, after) ← readWord rest
      return (c :: more, after)

/-- Reads a scalar without quotes: words, until no further one follows. -/
def readPlain : Nat → List Char → Option (List Char × List Char)
  | 0, _ => none
  | fuel + 1, cs => do
    let (word, rest) ← readWord cs
    let gap := rest.takeWhile isGap
    let after := rest.dropWhile isGap
    if gap.isEmpty || after.head? == some '#' || (endsLine gap && beginsMarker after) then
      return (word, rest)
    else
      let (more, after) ← readPlain fuel after
      return (if more.isEmpty then word else word ++ joinGap gap ++ more, after)

/-- The characters that begin something else than a scalar without quotes. -/
def openingMarks : List Char :=
  "-?:,[]\x7b\x7d#&*!|>%@".toList ++ ['"', singleQuote, Char.ofNat 96]

/-- Whether a scalar without quotes begins here. -/
def beginsPlain : List Char → Bool
  | '-' :: rest => !atGap rest
  | c :: _ => !isGap c && !openingMarks.contains c
  | [] => false

/-- How far a colon may be behind the beginning of its key. -/
def keyReach : Nat := 1024

/-- Whether what stands between two places can be a key: it is short and on one line. -/
def isKeyBetween (start colon : List Char) : Bool :=
  let key := start.take (start.length - colon.length)
  key.length ≤ keyReach && !key.any isBreak

mutual

/-- Reads a node that begins at the first character. -/
def readNode : Nat → List Char → Option (Node × List Char)
  | 0, _ => none
  | fuel + 1, cs =>
    match cs with
    | '[' :: rest => do
      let (items, rest) ← readItems fuel rest
      return (.list items, rest)
    | '\x7b' :: rest => do
      let (members, rest) ← readMembers fuel rest
      return (.map members, rest)
    | '"' :: rest => do
      let (text, rest) ← readDouble fuel rest
      return (.quoted (String.ofList text), rest)
    | c :: rest =>
      if c = singleQuote then do
        let (text, rest) ← readSingle fuel rest
        return (.quoted (String.ofList text), rest)
      else if beginsPlain cs then do
        let (text, rest) ← readPlain fuel cs
        return (.plain (String.ofList text), rest)
      else none
    | [] => none

/-- Reads a node, or nothing before a colon, a comma or the closing bracket. -/
def readOptional : Nat → Char → List Char → Option (Node × List Char)
  | 0, _, _ => none
  | fuel + 1, close, cs =>
    match skipInside cs with
    | c :: rest =>
      if c = ':' ∨ c = ',' ∨ c = close then some (absent, c :: rest) else readNode fuel (c :: rest)
    | [] => none

/-- Reads the value that may follow a key: what stands behind a colon, if there is one. -/
def readValue : Nat → Char → List Char → Option (Option Node × List Char)
  | 0, _, _ => none
  | fuel + 1, close, cs =>
    match skipInside cs with
    | ':' :: rest =>
      match skipInside rest with
      | c :: rest =>
        if c = ',' ∨ c = close then some (some absent, c :: rest)
        else do
          let (value, rest) ← readNode fuel (c :: rest)
          return (some value, rest)
      | [] => none
    | cs => some (none, cs)

/-- Reads a key with its value: the key behind a question mark, or by itself. -/
def readEntry : Nat → Char → List Char → Option ((Node × Option Node) × List Char)
  | 0, _, _ => none
  | fuel + 1, close, cs =>
    match cs with
    | '?' :: rest => do
      let (key, rest) ← readOptional fuel close rest
      let (value, rest) ← readValue fuel close rest
      return ((key, some (value.getD absent)), rest)
    | cs => do
      let (key, rest) ← readNode fuel cs
      let colon := skipInside rest
      if colon.head? == some ':' && !isKeyBetween cs colon then none
      else
        let (value, rest) ← readValue fuel close colon
        return ((key, value), rest)

/-- Reads the members of a map up to the closing brace. -/
def readMembers : Nat → List Char → Option (List (Node × Node) × List Char)
  | 0, _ => none
  | fuel + 1, cs =>
    match skipInside cs with
    | '\x7d' :: rest => some ([], rest)
    | cs => do
      let ((key, value), rest) ← readEntry fuel '\x7d' cs
      let member := (key, value.getD absent)
      match skipInside rest with
      | '\x7d' :: rest => some ([member], rest)
      | ',' :: rest => do
        let (more, rest) ← readMembers fuel rest
        return (member :: more, rest)
      | _ => none

/-- Reads the items of a list up to the closing bracket. A key with its value is a map of its
own. -/
def readItems : Nat → List Char → Option (List Node × List Char)
  | 0, _ => none
  | fuel + 1, cs =>
    match skipInside cs with
    | ']' :: rest => some ([], rest)
    | cs => do
      let ((key, value), rest) ← readEntry fuel ']' cs
      let item := match value with
        | some value => .map [(key, value)]
        | none => key
      match skipInside rest with
      | ']' :: rest => some ([item], rest)
      | ',' :: rest => do
        let (more, rest) ← readItems fuel rest
        return (item :: more, rest)
      | _ => none

end

/-- Whether a document may begin here. -/
def beginsDocument (cs : List Char) : Bool :=
  cs.head? == some '[' || cs.head? == some '\x7b'

/-- Reads a list of characters that holds one document. -/
def ofChars (cs : List Char) : Option Node :=
  let start := skip true false false true cs
  if cs.all isAllowed && beginsDocument start then do
    let (node, rest) ← readNode (4 * cs.length + 4) start
    if (skip true true false false rest).isEmpty then some node else none
  else none

/-- Reads a text that holds one document. -/
def ofText (s : String) : Option Node :=
  ofChars s.toList

/-- The value of a scalar that is taken for what it is spelled as. Whole numbers beyond 64 bits,
infinities and what is not a number have no value. -/
def valueOfPlain (s : String) : Option Json :=
  match Scalar.ofPlain s with
  | .nothing => some .null
  | .bool b => some (.bool b)
  | .int n => if -Int.pow 2 63 ≤ n ∧ n < Int.pow 2 64 then some (.int n) else none
  | .float (.finite x) => some (.float x)
  | .float _ => none
  | .text s => some (.str s)

/-- The value of a scalar of a shape. -/
def readScalar (isQuoted : Bool) (s : String) : Json.Shape → Option Json
  | .whole => if isQuoted then some (.str s) else valueOfPlain s
  | .text => some (.str s)
  | .int =>
    if isQuoted then none
    else
      ((Scalar.int? s.toList).filter fun n => -Int.pow 2 63 ≤ n && n < Int.pow 2 63).map .int
  | .bool => if isQuoted then none else (Scalar.truth? s).map .bool
  | .optional value =>
    if !isQuoted && Scalar.nullWords.contains s then some .null else readScalar isQuoted s value
  | .list _ => if !isQuoted && s.isEmpty then some (.arr []) else none
  | .record _ _ => if !isQuoted && s.isEmpty then some (.obj []) else none

/-- The text of a key. Where the kind of values is open, a key has to be spelled as a text. -/
def keyText (shape : Json.Shape) : Node → Option String
  | plain s => (readScalar false s shape) >>= Json.text?
  | quoted s => some s
  | _ => none

/-- The shape of a value that is there. -/
def present : Json.Shape → Json.Shape
  | .optional value => present value
  | shape => shape

mutual

/-- What a node stands for, as far as it is looked at, with containers nested no deeper than
`depth`. -/
def read (shape : Json.Shape) (depth : Nat) : Node → Option Json
  | plain s => readScalar false s shape
  | quoted s => readScalar true s shape
  | list items =>
    match depth, present shape with
    | depth + 1, .whole => (readEach .whole depth items).map .arr
    | depth + 1, .list item => (readEach item depth items).map .arr
    | _, _ => none
  | map members =>
    match depth, present shape with
    | depth + 1, .whole => (readNamed .whole depth members).map .obj
    | depth + 1, .record fields others => (readNamed (.record fields others) depth members).map .obj
    | _, _ => none

/-- What items of one shape stand for. -/
def readEach (item : Json.Shape) (depth : Nat) : List Node → Option (List Json)
  | [] => some []
  | node :: rest => do return (← node.read item depth) :: (← readEach item depth rest)

/-- What the members that are looked at stand for. -/
def readNamed (shape : Json.Shape) (depth : Nat) :
    List (Node × Node) → Option (List (String × Json))
  | [] => some []
  | (name, node) :: rest => do
    let key ← keyText (if shape matches .whole then .whole else .text) name
    match shape.member? key with
    | some inner => return (key, ← node.read inner depth) :: (← readNamed shape depth rest)
    | none => readNamed shape depth rest

end

/-- How deep containers may be nested. -/
def depthLimit : Nat := 128

end Node

/-- Reads what a document holds, as far as it is looked at. -/
def parseAs (shape : Json.Shape) (s : String) : Option Json :=
  Node.ofText s >>= Node.read shape Node.depthLimit

end ApprovalFlow.Yaml
