import ApprovalFlow.Number.Plain

/-!
# Scalars without quotes

In YAML a text may stand without quotes, and so may a number, a truth value or nothing: which of
them it is, is told from its spelling. `Scalar.ofPlain` tells it. A reader asks it for what is
meant, and a writer puts a text in quotes that would be taken for something else.
-/

namespace ApprovalFlow.Yaml

/-- What a scalar without quotes stands for. -/
inductive Scalar where
  | nothing
  | bool (value : Bool)
  | int (value : Int)
  | float (value : PlainFloat)
  | text (value : String)
  deriving DecidableEq, Repr, Inhabited

namespace Scalar

/-- The words for nothing, one of them empty. -/
def nullWords : List String :=
  ["", "~", "null", "Null", "NULL"]

/-- The truth value of a word. -/
def truth? (s : String) : Option Bool :=
  if ["true", "True", "TRUE"].contains s then some true
  else if ["false", "False", "FALSE"].contains s then some false
  else none

/-- The infinity, or what is not a number, that a word stands for. -/
def special? (s : String) : Option PlainFloat :=
  if [".inf", ".Inf", ".INF", "+.inf", "+.Inf", "+.INF"].contains s then some (.infinite false)
  else if ["-.inf", "-.Inf", "-.INF"].contains s then some (.infinite true)
  else if [".nan", ".NaN", ".NAN"].contains s then some .notANumber
  else none

/-- The value of a digit of any base up to sixteen. -/
def digit? (c : Char) : Option Nat :=
  if '0' ≤ c ∧ c ≤ '9' then some (c.toNat - 48)
  else if 'a' ≤ c ∧ c ≤ 'f' then some (c.toNat - 87)
  else if 'A' ≤ c ∧ c ≤ 'F' then some (c.toNat - 55)
  else none

/-- The value of one or more digits in a base. -/
def digitsIn (base : Nat) (cs : List Char) : Option Nat :=
  if cs.isEmpty then none
  else
    cs.foldlM (fun n c => do
      let d ← digit? c
      if d < base then some (n * base + d) else none) 0

/-- The value of digits, in base ten or in one that letters before them tell. -/
def magnitude? : List Char → Option Nat
  | '0' :: 'x' :: rest => digitsIn 16 rest
  | '0' :: 'o' :: rest => digitsIn 8 rest
  | '0' :: 'b' :: rest => digitsIn 2 rest
  | cs => digitsIn 10 cs

/-- Whether a text is digits with a zero before them, which makes no number. -/
def isPaddedDigits (cs : List Char) : Bool :=
  match (splitSign cs).2 with
  | '0' :: c :: rest => (c :: rest).all Json.isDigit
  | _ => false

/-- The whole number that a text spells. -/
def int? (cs : List Char) : Option Int :=
  let (negative, rest) := splitSign cs
  if isPaddedDigits cs then none
  else (magnitude? rest).map fun n => if negative then -(n : Int) else n

/-- The least whole number that is taken for one. -/
def leastInt : Int := -Int.pow 2 127

/-- The greatest whole number that is taken for one. -/
def greatestInt : Int := Int.pow 2 128 - 1

/-- The number that a text spells and that is not taken for a whole one. -/
def float? (s : String) : Option PlainFloat :=
  match special? s with
  | some x => some x
  | none =>
    if isPaddedDigits s.toList then none
    else
      match PlainFloat.read s.toList with
      | some (.finite x) => some (.finite x)
      | _ => none

/-- What a scalar without quotes stands for. -/
def ofPlain (s : String) : Scalar :=
  if nullWords.contains s then .nothing
  else
    match truth? s with
    | some b => .bool b
    | none =>
      match (int? s.toList).filter fun n => leastInt ≤ n && n ≤ greatestInt with
      | some n => .int n
      | none =>
        match float? s with
        | some x => .float x
        | none => .text s

end Scalar

end ApprovalFlow.Yaml
