import ApprovalFlow.Text.EscapeTable
import ApprovalFlow.Text.Ranges

/-!
# Quoted text

Summaries of definitions, registries and contexts show texts in double quotes, in a form from
which the text can be read off. A quote and a backslash get a backslash before them; tab, line
feed, carriage return and the null character get their letter; a character that cannot be seen on
its own becomes its code point in braces; every other character stands for itself.
-/

namespace ApprovalFlow.Text

/-- The digits of a number in base sixteen, small letters, no leading zero. -/
def hexDigits (n : Nat) : List Char :=
  Nat.toDigits 16 n

/-- A character written as its code point. -/
def codePoint (c : Char) : List Char :=
  ['\\', 'u', Char.ofNat 0x7B] ++ hexDigits c.toNat ++ [Char.ofNat 0x7D]

/-- The quoted form of one character. -/
def quoteChar (c : Char) : List Char :=
  match c with
  | '"' => ['\\', '"']
  | '\\' => ['\\', '\\']
  | '\t' => ['\\', 't']
  | '\n' => ['\\', 'n']
  | '\r' => ['\\', 'r']
  | '\x00' => ['\\', '0']
  | c =>
    if 0x20 ≤ c.toNat ∧ c.toNat < 0x7F then [c]
    else if inRanges unseenRanges c.toNat then codePoint c
    else [c]

/-- A text in double quotes. -/
def quoted (s : String) : String :=
  String.ofList ('"' :: s.toList.flatMap quoteChar ++ ['"'])

/-- A list of items between square brackets. -/
def bracketed (items : List String) : String :=
  "[" ++ String.intercalate ", " items ++ "]"

/-- A record summary: its name, then its fields with their values between braces. -/
def recordSummary (name : String) (fields : List (String × String)) : String :=
  name ++ " \x7b " ++ String.intercalate ", " (fields.map fun f => f.1 ++ ": " ++ f.2) ++ " \x7d"

/-- An optional value: `Some(…)` around it, or `None`. -/
def optionSummary (value : Option String) : String :=
  match value with
  | some v => "Some(" ++ v ++ ")"
  | none => "None"

end ApprovalFlow.Text
