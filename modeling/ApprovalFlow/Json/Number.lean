import ApprovalFlow.Json.Value

/-!
# Reading JSON numbers

A number without point and exponent that fits into 64 bits (signed, or unsigned when it has no
sign) is a whole number; the negative zero and everything else is a float. The float is built from
the leading digits that fit into 64 bits: the others only shift the power of ten. The significand
is rounded to a float, and so is the power of ten it is then multiplied with or divided by, which
is why a long number may come out one unit beside the closest float. A number too large for a
float is refused.
-/

namespace ApprovalFlow.Json

/-- The greatest significand that is collected exactly. -/
def significandLimit : Nat := Nat.pow 2 64 - 1

/-- The value of an ASCII digit. -/
def digitValue (c : Char) : Nat :=
  c.toNat - '0'.toNat

/-- Whether a character is an ASCII digit. -/
def isDigit (c : Char) : Bool :=
  '0' ≤ c && c ≤ '9'

/-- The value of a digit string. -/
def digitsValue (ds : List Char) : Nat :=
  ds.foldl (fun acc c => acc * 10 + digitValue c) 0

/-- Extends a significand by digits as long as it stays within the limit; the digits left over. -/
def extendSignificand : Nat → List Char → Nat × List Char
  | s, [] => (s, [])
  | s, c :: rest =>
    if s * 10 + digitValue c ≤ significandLimit then extendSignificand (s * 10 + digitValue c) rest
    else (s, c :: rest)

/-- The parts of a number as written. -/
structure Numeral where
  negative : Bool
  whole : List Char
  fraction : Option (List Char)
  exponent : Option (Bool × List Char)
  deriving Repr

/-- Reads the fraction of a number: a point, then one or more digits. -/
def readFraction (cs : List Char) : Option (Option (List Char) × List Char) :=
  match cs with
  | '.' :: rest =>
    let ds := rest.takeWhile isDigit
    if ds.isEmpty then none else some (some ds, rest.dropWhile isDigit)
  | _ => some (none, cs)

/-- Reads the exponent of a number: its letter, an optional sign, then one or more digits. -/
def readExponent (cs : List Char) : Option (Option (Bool × List Char) × List Char) :=
  let signed (down : Bool) (rest : List Char) : Option (Option (Bool × List Char) × List Char) :=
    let ds := rest.takeWhile isDigit
    if ds.isEmpty then none else some (some (down, ds), rest.dropWhile isDigit)
  match cs with
  | 'e' :: '+' :: rest | 'E' :: '+' :: rest => signed false rest
  | 'e' :: '-' :: rest | 'E' :: '-' :: rest => signed true rest
  | 'e' :: rest | 'E' :: rest => signed false rest
  | _ => some (none, cs)

/-- Reads a numeral: digits without a leading zero, then fraction and exponent if present. -/
def readNumeral (cs : List Char) : Option (Numeral × List Char) := do
  let negative := cs.head? == some '-'
  let cs := if negative then cs.drop 1 else cs
  let whole := cs.takeWhile isDigit
  if whole.isEmpty || (whole.length > 1 && whole.head? == some '0') then none
  let (fraction, cs) ← readFraction (cs.dropWhile isDigit)
  let (exponent, cs) ← readExponent cs
  return (⟨negative, whole, fraction, exponent⟩, cs)

/-- Divides a magnitude by a power of ten, in steps no larger than the greatest float power. -/
def scaleDown (x : Binary64.Magnitude) (power : Nat) : Option Binary64.Magnitude :=
  if power ≤ 308 then do Binary64.div x (← Binary64.powerOfTen power)
  else if x.1 = 0 then some x
  else do scaleDown (← Binary64.div x (← Binary64.powerOfTen 308)) (power - 308)
termination_by power

/-- Multiplies a magnitude with a power of ten; refused when the result is out of range. -/
def scaleUp (x : Binary64.Magnitude) (power : Nat) : Option Binary64.Magnitude :=
  if power ≤ 308 then do Binary64.mul x (← Binary64.powerOfTen power)
  else if x.1 = 0 then some x
  else none

/-- The magnitude of a significand times a power of ten. -/
def scaledFloat (significand : Nat) (power : Int) : Option Binary64.Magnitude := do
  let x ← Binary64.nearest significand 1
  if 0 ≤ power then scaleUp x power.toNat else scaleDown x (-power).toNat

/-- The greatest exponent that is read digit by digit. -/
def exponentLimit : Nat := Nat.pow 2 31 - 1

/-- The float a numeral denotes. -/
def Numeral.float (n : Numeral) : Option Binary64 := do
  let (s, skipped) := extendSignificand 0 n.whole
  let fraction := n.fraction.getD []
  let (s, unread) := extendSignificand s fraction
  let power : Int := skipped.length - (fraction.length - unread.length : Nat)
  let x ← match n.exponent with
    | none => scaledFloat s power
    | some (down, ds) =>
      let e := digitsValue ds
      if e > exponentLimit then
        if s ≠ 0 ∧ down = false then none else some Binary64.zeroMagnitude
      else scaledFloat s (if down then power - e else power + e)
  return Binary64.ofMagnitude n.negative x

/-- The value a numeral denotes. -/
def Numeral.value (n : Numeral) : Option Json :=
  let v := digitsValue n.whole
  if n.fraction.isNone && n.exponent.isNone then
    if n.negative then
      if 0 < v ∧ v ≤ Nat.pow 2 63 then some (.int (-(v : Int))) else n.float.map .float
    else if v ≤ significandLimit then some (.int v)
    else n.float.map .float
  else n.float.map .float

end ApprovalFlow.Json
