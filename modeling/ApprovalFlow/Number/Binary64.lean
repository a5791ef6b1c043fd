/-!
# Binary floating-point numbers of 64 bits

A finite number is a sign, a mantissa and an exponent of two. Everything here is exact integer
arithmetic: `Binary64.nearest` rounds a quotient of natural numbers to the closest representable
magnitude (ties go to the even mantissa), and the other operations are quotients that are rounded
once. The infinities and the non-numbers of the format have no value here; an operation whose
result is too large answers `none`.
-/

namespace ApprovalFlow

/-- A finite number `± mantissa · 2 ^ exponent`. Numbers built by `nearest` have a mantissa below
`2 ^ 53`, an exponent from `-1074` to `971`, and a mantissa of at least `2 ^ 52` unless the
exponent is the least. -/
structure Binary64 where
  negative : Bool
  mantissa : Nat
  exponent : Int
  deriving DecidableEq, Repr, Inhabited

namespace Binary64

/-- The exponent of the smallest positive number. -/
def leastExponent : Int := -1074

/-- The exponent of the largest finite numbers. -/
def greatestExponent : Int := 971

/-- A magnitude: mantissa and exponent of two. -/
abbrev Magnitude := Nat × Int

/-- The magnitude zero. -/
def zeroMagnitude : Magnitude := (0, leastExponent)

/-- The fraction `num / den` divided by `2 ^ e`, again as a fraction. -/
def unscale (num den : Nat) (e : Int) : Nat × Nat :=
  if 0 ≤ e then (num, den * Nat.pow 2 e.toNat) else (num * Nat.pow 2 (-e).toNat, den)

/-- A fraction rounded to a natural number; halves go to the even neighbour. -/
def roundHalfEven (num den : Nat) : Nat :=
  let q := num / den
  let r := num % den
  if 2 * r > den ∨ (2 * r = den ∧ q % 2 = 1) then q + 1 else q

/-- The exponent at which the quotient of a fraction has 53 binary digits, or the least one. -/
def exponentFor (num den : Nat) : Int :=
  let guess : Int := (Nat.log2 num : Int) - (Nat.log2 den : Int) - 52
  let scaled := unscale num den guess
  max leastExponent (if Nat.pow 2 52 ≤ scaled.1 / scaled.2 then guess else guess - 1)

/-- The magnitude closest to `num / den`; `none` beyond the largest finite one. -/
def nearest (num den : Nat) : Option Magnitude :=
  if num = 0 then some zeroMagnitude
  else
    let e := exponentFor num den
    let scaled := unscale num den e
    let m := roundHalfEven scaled.1 scaled.2
    let rounded : Magnitude := if m = Nat.pow 2 53 then (Nat.pow 2 52, e + 1) else (m, e)
    if rounded.2 > greatestExponent then none else some rounded

/-- A magnitude as a fraction. -/
def toFraction (x : Magnitude) : Nat × Nat :=
  if 0 ≤ x.2 then (x.1 * Nat.pow 2 x.2.toNat, 1) else (x.1, Nat.pow 2 (-x.2).toNat)

/-- The magnitude closest to `digits · 10 ^ power`. -/
def ofDecimal (digits : Nat) (power : Int) : Option Magnitude :=
  if 0 ≤ power then nearest (digits * Nat.pow 10 power.toNat) 1
  else nearest digits (Nat.pow 10 (-power).toNat)

/-- The representable power of ten closest to `10 ^ n`. -/
def powerOfTen (n : Nat) : Option Magnitude :=
  nearest (Nat.pow 10 n) 1

/-- The product of two magnitudes, rounded. -/
def mul (x y : Magnitude) : Option Magnitude :=
  let a := toFraction x
  let b := toFraction y
  nearest (a.1 * b.1) (a.2 * b.2)

/-- The quotient of two magnitudes, rounded; the divisor is not zero. -/
def div (x y : Magnitude) : Option Magnitude :=
  let a := toFraction x
  let b := toFraction y
  nearest (a.1 * b.2) (a.2 * b.1)

/-- The whole number closest to a magnitude; halves go away from zero. -/
def roundHalfUp (x : Magnitude) : Nat :=
  let f := toFraction x
  (2 * f.1 + f.2) / (2 * f.2)

/-- The magnitude of a number. -/
def magnitude (x : Binary64) : Magnitude :=
  (x.mantissa, x.exponent)

/-- A magnitude with a sign. -/
def ofMagnitude (negative : Bool) (x : Magnitude) : Binary64 :=
  ⟨negative, x.1, x.2⟩

end Binary64

end ApprovalFlow
