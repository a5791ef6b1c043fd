import ApprovalFlow.Json.Value
import ApprovalFlow.Number.Shortest

/-!
# Writing JSON

`Json.write` is the compact form: no blanks, members in the order of the value. `Json.writePretty`
is the same text spread over lines, two blanks of indentation to a level, with empty containers
closed at once. A text escapes the quote, the backslash and the control characters below the
space, the five common ones by letter and the others by code point in small hexadecimal digits.
-/

namespace ApprovalFlow.Json

/-- A hexadecimal digit, small letters. -/
def hexDigit (n : Nat) : Char :=
  Nat.digitChar n

/-- The written form of one character of a text. -/
def escapeChar (c : Char) : List Char :=
  if c = '"' then ['\\', '"']
  else if c = '\\' then ['\\', '\\']
  else if c = '\x08' then ['\\', 'b']
  else if c = '\t' then ['\\', 't']
  else if c = '\n' then ['\\', 'n']
  else if c = '\x0c' then ['\\', 'f']
  else if c = '\r' then ['\\', 'r']
  else if c.toNat < 0x20 then
    ['\\', 'u', '0', '0', hexDigit (c.toNat / 16), hexDigit (c.toNat % 16)]
  else [c]

/-- A text between quotes. -/
def writeText (s : String) : List Char :=
  '"' :: s.toList.flatMap escapeChar ++ ['"']

/-- A whole number in decimal. -/
def writeInt (n : Int) : List Char :=
  if n < 0 then '-' :: Nat.toDigits 10 n.natAbs else Nat.toDigits 10 n.natAbs

/-- An opening brace. -/
def openBrace : Char := '\x7b'

/-- A closing brace. -/
def closeBrace : Char := '\x7d'

mutual

/-- The compact form of a value. -/
def write : Json → List Char
  | .null => ['n', 'u', 'l', 'l']
  | .bool true => ['t', 'r', 'u', 'e']
  | .bool false => ['f', 'a', 'l', 's', 'e']
  | .int n => writeInt n
  | .float x => x.render .data
  | .str s => writeText s
  | .arr items => '[' :: writeItems items ++ [']']
  | .obj members => openBrace :: writeMembers members ++ [closeBrace]

/-- Items with commas between them. -/
def writeItems : List Json → List Char
  | [] => []
  | [j] => write j
  | j :: rest => write j ++ ',' :: writeItems rest

/-- Members with commas between them. -/
def writeMembers : List (String × Json) → List Char
  | [] => []
  | [(k, j)] => writeText k ++ ':' :: write j
  | (k, j) :: rest => writeText k ++ ':' :: write j ++ ',' :: writeMembers rest

end

/-- The compact form as a text. -/
def compact (j : Json) : String :=
  String.ofList j.write

/-- Four hexadecimal digits, small letters. -/
def hexQuadText (n : Nat) : List Char :=
  [hexDigit (n / 4096 % 16), hexDigit (n / 256 % 16), hexDigit (n / 16 % 16), hexDigit (n % 16)]

/-- A character beyond printable ASCII as one escape, or as two that name a surrogate pair. -/
def asciiChar (c : Char) : List Char :=
  let n := c.toNat
  if n < 0x7F then [c]
  else if n < 0x10000 then ['\\', 'u'] ++ hexQuadText n
  else
    let m := n - 0x10000
    ['\\', 'u'] ++ hexQuadText (0xD800 + m / 0x400) ++
      ['\\', 'u'] ++ hexQuadText (0xDC00 + m % 0x400)

/-- The compact form in printable ASCII. Other characters occur only in texts, where they can be
escaped. -/
def compactAscii (j : Json) : String :=
  String.ofList (j.write.flatMap asciiChar)

/-- A line break and the indentation of a level. -/
def breakLine (level : Nat) : List Char :=
  '\n' :: List.replicate (2 * level) ' '

mutual

/-- The indented form of a value that stands at a level. -/
def writePretty (level : Nat) : Json → List Char
  | .arr [] => ['[', ']']
  | .arr (j :: rest) => '[' :: prettyItems (level + 1) (j :: rest) ++ breakLine level ++ [']']
  | .obj [] => [openBrace, closeBrace]
  | .obj (m :: rest) =>
    openBrace :: prettyMembers (level + 1) (m :: rest) ++ breakLine level ++ [closeBrace]
  | .null => ['n', 'u', 'l', 'l']
  | .bool true => ['t', 'r', 'u', 'e']
  | .bool false => ['f', 'a', 'l', 's', 'e']
  | .int n => writeInt n
  | .float x => x.render .data
  | .str s => writeText s

/-- Items, each on a line of its own. -/
def prettyItems (level : Nat) : List Json → List Char
  | [] => []
  | [j] => breakLine level ++ writePretty level j
  | j :: rest => breakLine level ++ writePretty level j ++ ',' :: prettyItems level rest

/-- Members, each on a line of its own. -/
def prettyMembers (level : Nat) : List (String × Json) → List Char
  | [] => []
  | [(k, j)] => breakLine level ++ writeText k ++ ':' :: ' ' :: writePretty level j
  | (k, j) :: rest =>
    breakLine level ++ writeText k ++ ':' :: ' ' :: writePretty level j ++
      ',' :: prettyMembers level rest

end

/-- The indented form as a text. -/
def pretty (j : Json) : String :=
  String.ofList (writePretty 0 j)

end ApprovalFlow.Json
