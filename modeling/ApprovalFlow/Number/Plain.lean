import ApprovalFlow.Json.Number
import ApprovalFlow.Number.Shortest

/-!
# Numbers as people write them

Settings may hold numbers in a freer form than JSON: a plus sign, leading zeros, a point without
digits on one of its sides, and words for the infinities and for what is not a number. A decimal is
rounded once, to the closest float. `PlainFloat.text` writes a number with the fewest digits that
read back, always positionally.
-/

namespace ApprovalFlow

/-- A float with the infinities and with what is not a number. -/
inductive PlainFloat where
  | finite (value : Binary64)
  | infinite (negative : Bool)
  | notANumber
  deriving DecidableEq, Repr, Inhabited

/-- Splits a sign off. -/
def splitSign : List Char → Bool × List Char
  | '-' :: rest => (true, rest)
  | '+' :: rest => (false, rest)
  | cs => (false, cs)

/-- The whole number of digits with an optional sign, between two bounds. -/
def readPlainInt (low high : Int) (cs : List Char) : Option Int :=
  let (negative, ds) := splitSign cs
  if ds.isEmpty || !ds.all Json.isDigit then none
  else
    let n : Int := if negative then -(Json.digitsValue ds : Int) else Json.digitsValue ds
    if low ≤ n ∧ n ≤ high then some n else none

/-- The natural number of digits with an optional plus sign, below a limit. -/
def readPlainNat (limit : Nat) (cs : List Char) : Option Nat :=
  let ds := match cs with
    | '+' :: rest => rest
    | cs => cs
  if ds.isEmpty || !ds.all Json.isDigit then none
  else if Json.digitsValue ds < limit then some (Json.digitsValue ds) else none

namespace PlainFloat

/-- Decimal exponents beyond this lead out of range whatever the digits. -/
def exponentGuard : Int := 400

/-- The float closest to `digits · 10 ^ power`. -/
def ofDecimal (negative : Bool) (digits : List Char) (power : Int) : PlainFloat :=
  let digits := digits.dropWhile (· == '0')
  let lead := digits.length + power
  if digits.isEmpty || lead < -exponentGuard then
    .finite (Binary64.ofMagnitude negative Binary64.zeroMagnitude)
  else if lead > exponentGuard then .infinite negative
  else
    match Binary64.ofDecimal (Json.digitsValue digits) power with
    | some x => .finite (Binary64.ofMagnitude negative x)
    | none => .infinite negative

/-- Reads the exponent that may end a number. -/
def readExponent : List Char → Option Int
  | [] => some 0
  | c :: rest =>
    if c = 'e' ∨ c = 'E' then
      let (negative, ds) := splitSign rest
      if ds.isEmpty || !ds.all Json.isDigit then none
      else some (if negative then -(Json.digitsValue ds : Int) else Json.digitsValue ds)
    else none

/-- Reads a number: digits with a point among or beside them and an exponent, or a word. -/
def read (cs : List Char) : Option PlainFloat :=
  let (negative, rest) := splitSign cs
  let word := String.ofList (rest.map Char.toLower)
  if word = "inf" ∨ word = "infinity" then some (.infinite negative)
  else if word = "nan" then some .notANumber
  else
    let whole := rest.takeWhile Json.isDigit
    let rest := rest.dropWhile Json.isDigit
    let (fraction, rest) := match rest with
      | '.' :: more => (more.takeWhile Json.isDigit, more.dropWhile Json.isDigit)
      | _ => ([], rest)
    if whole.isEmpty && fraction.isEmpty then none
    else
      (readExponent rest).map fun e => ofDecimal negative (whole ++ fraction) (e - fraction.length)

/-- The number as a text. -/
def text : PlainFloat → List Char
  | finite x => x.render .plain
  | infinite negative => (if negative then ['-'] else []) ++ ['i', 'n', 'f']
  | notANumber => ['N', 'a', 'N']

/-- The natural number closest to a float, halves away from zero, cut off at a greatest one and at
zero. -/
def toNatUpTo (greatest : Nat) : PlainFloat → Nat
  | finite x => if x.negative then 0 else min greatest (Binary64.roundHalfUp x.magnitude)
  | infinite negative => if negative then 0 else greatest
  | notANumber => 0

end PlainFloat

end ApprovalFlow
