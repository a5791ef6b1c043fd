import ApprovalFlow.Text.CaseTable
import ApprovalFlow.Text.LowerTable
import ApprovalFlow.Text.Ranges
import ApprovalFlow.Text.UpperTable

/-!
# Letter case

Three comparisons disregard case. Names of service task types are matched with ASCII letters
folded (`equalsIgnoringAsciiCase`). Keys of configuration layers are lowered by the full Unicode
mapping (`toLower`), which gives the capital sigma another form at the end of a word. Event names
in scenario files are raised by the full Unicode mapping (`toUpper`), which turns some letters into
several.
-/

namespace ApprovalFlow.Text

/-- Lowers an ASCII capital and leaves every other character alone. -/
def lowerAscii (c : Char) : Char :=
  if 'A' ≤ c ∧ c ≤ 'Z' then Char.ofNat (c.toNat + 32) else c

/-- Raises a small ASCII letter and leaves every other character alone. -/
def upperAscii (c : Char) : Char :=
  if 'a' ≤ c ∧ c ≤ 'z' then Char.ofNat (c.toNat - 32) else c

/-- Whether two texts agree once their ASCII letters are lowered. -/
def equalsIgnoringAsciiCase (s t : String) : Bool :=
  s.toList.map lowerAscii == t.toList.map lowerAscii

/-- The partner of a code point in runs `(first, last, step, shift)`, which hold the code points
from `first` to `last` in steps of `step` and move them by `shift`. -/
def partnerIn (runs : List (Nat × Nat × Nat × Int)) (n : Nat) : Nat :=
  match runs.find? (fun run => run.1 ≤ n && n ≤ run.2.1 && (n - run.1) % run.2.2.1 == 0) with
  | some run => Int.toNat (n + run.2.2.2)
  | none => n

/-- The lower-case form of one character: two characters for the dotted capital I, one for every
other. -/
def lowerChar (c : Char) : List Char :=
  let n := c.toNat
  if n < 0x80 then [lowerAscii c]
  else if n = 0x130 then ['i', Char.ofNat 0x307]
  else [Char.ofNat (partnerIn lowerRuns n)]

/-- The capital sigma. -/
def capitalSigma : Char := 'Σ'

/-- Whether the first character that case does not look through has case. -/
def beginsCased (cs : List Char) : Bool :=
  match cs.dropWhile fun c => inRanges caseIgnorableRanges c.toNat with
  | c :: _ => inRanges casedRanges c.toNat
  | [] => false

/-- The lower-case form of a capital sigma: the final form where a word ends with it. `before` holds
the characters before it, the nearest first. -/
def lowerSigma (before rest : List Char) : Char :=
  if beginsCased before && !beginsCased rest then 'ς' else 'σ'

/-- Lowers characters, those before them given in reverse. -/
def lowerBehind : List Char → List Char → List Char
  | _, [] => []
  | before, c :: rest =>
    (if c = capitalSigma then [lowerSigma before rest] else lowerChar c) ++
      lowerBehind (c :: before) rest

/-- Lowers a text. -/
def toLower (s : String) : String :=
  String.ofList (lowerBehind [] s.toList)

/-- The capital form of one character. -/
def upperChar (c : Char) : List Char :=
  let n := c.toNat
  if n < 0x80 then [upperAscii c]
  else
    match upperExpansions.find? (·.1 == n) with
    | some expansion => expansion.2.map Char.ofNat
    | none => [Char.ofNat (partnerIn upperRuns n)]

/-- Raises a text. -/
def toUpper (s : String) : String :=
  String.ofList (s.toList.flatMap upperChar)

end ApprovalFlow.Text
