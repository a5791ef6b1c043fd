import ApprovalFlow.Number.Binary64

/-!
# The shortest decimal that reads back

`Binary64.shortest` finds, for a positive magnitude, the fewest decimal digits that still lie in
the interval of reals rounding to it, and of those the closest to it. The search looks at grids of
one digit, two digits and so on: on each grid only the two neighbours of the value can be the
closest, and if any point of a grid lies in the interval then one of the two does.
`FloatStyle` holds the decisions of a written form, and `Binary64.render` writes a number in a
style.
-/

namespace ApprovalFlow

namespace Binary64

/-- Compares `a · 10 ^ p` with `b · 2 ^ q`. -/
def compareDecimalBinary (a : Nat) (p : Int) (b : Nat) (q : Int) : Ordering :=
  compare (a * Nat.pow 10 p.toNat * Nat.pow 2 (-q).toNat)
    (b * Nat.pow 2 q.toNat * Nat.pow 10 (-p).toNat)

/-- Whether `c · 10 ^ p` rounds to the magnitude `x`. The interval reaches half-way to the
neighbours, which is a quarter of a unit below a power of two, and its ends belong to it when the
mantissa is even. -/
def roundsTo (x : Magnitude) (c : Nat) (p : Int) : Bool :=
  let below := if x.1 = Nat.pow 2 52 ∧ x.2 > leastExponent then 1 else 2
  let low := compareDecimalBinary c p (4 * x.1 - below) (x.2 - 2)
  let high := compareDecimalBinary c p (4 * x.1 + 2) (x.2 - 2)
  let ends := x.1 % 2 == 0
  (low == .gt || (ends && low == .eq)) && (high == .lt || (ends && high == .eq))

/-- The exponent of the leading decimal digit of a positive magnitude. -/
def leadingExponent (x : Magnitude) : Int :=
  let f := toFraction x
  ((Nat.toDigits 10 (f.1 * Nat.pow 10 400 / f.2)).length : Int) - 401

/-- The multiple of `10 ^ p` at or below a magnitude, as the factor. -/
def floorAt (x : Magnitude) (p : Int) : Nat :=
  let f := toFraction x
  if 0 ≤ p then f.1 / (f.2 * Nat.pow 10 p.toNat) else f.1 * Nat.pow 10 (-p).toNat / f.2

/-- The better of the two grid neighbours `c` and `c + 1` of a magnitude, if one rounds to it. A
tie goes to the even one. -/
def candidateAt (x : Magnitude) (p : Int) : Option Nat :=
  let c := floorAt x p
  match roundsTo x c p, roundsTo x (c + 1) p with
  | true, true =>
    match compareDecimalBinary (2 * c + 1) p (2 * x.1) x.2 with
    | .lt => some (c + 1)
    | .gt => some c
    | .eq => some (if c % 2 = 0 then c else c + 1)
  | true, false => some c
  | false, true => some (c + 1)
  | false, false => none

/-- Drops the trailing zeros of a factor, raising the power of ten; at most `fuel` of them. -/
def dropZeros : Nat → Nat → Int → Nat × Int
  | 0, c, p => (c, p)
  | fuel + 1, c, p => if c % 10 = 0 ∧ c ≠ 0 then dropZeros fuel (c / 10) (p + 1) else (c, p)

/-- The first grid, counted in digits from `n`, that has a point rounding to the magnitude. Every
magnitude is told apart by seventeen digits, so seventeen grids are enough. -/
def searchGrids (x : Magnitude) (lead : Int) : Nat → Nat → Nat × Int
  | 0, n => (floorAt x (lead + 1 - n), lead + 1 - n)
  | more + 1, n =>
    match candidateAt x (lead + 1 - n) with
    | some c => (c, lead + 1 - n)
    | none => searchGrids x lead more (n + 1)

/-- The shortest decimal `c · 10 ^ p` that rounds to a magnitude, without trailing zeros. -/
def shortest (x : Magnitude) : Nat × Int :=
  if x.1 = 0 then (0, 0)
  else
    let found := searchGrids x (leadingExponent x) 17 1
    dropZeros 20 found.1 found.2

end Binary64

/-- How a number is written: the leading exponents that are written positionally, whether a whole
number keeps a point and a zero, and whether an exponent that is not negative has a plus sign. -/
structure FloatStyle where
  positional : Int → Bool
  keepPoint : Bool
  plusSign : Bool

namespace FloatStyle

/-- The style of data texts: positional from `-5` to `15`, whole numbers keep `.0`, and exponents
have either sign. -/
def data : FloatStyle := ⟨fun e => -5 ≤ e && e ≤ 15, true, true⟩

/-- The style of block texts: that of data texts, but without plus signs. -/
def block : FloatStyle := { data with plusSign := false }

/-- The style of plain texts: always positional, whole numbers are bare. -/
def plain : FloatStyle := ⟨fun _ => true, false, false⟩

end FloatStyle

namespace Binary64

/-- Digits with the point placed by the exponent of the leading digit. -/
def positionalText (keepPoint : Bool) (ds : List Char) (lead : Int) : List Char :=
  if 0 ≤ lead then
    let whole := lead.toNat + 1
    if ds.length ≤ whole then
      ds ++ List.replicate (whole - ds.length) '0' ++ (if keepPoint then ['.', '0'] else [])
    else ds.take whole ++ '.' :: ds.drop whole
  else '0' :: '.' :: List.replicate ((-lead).toNat - 1) '0' ++ ds

/-- One digit before the point and an exponent. -/
def scientificText (plusSign : Bool) (ds : List Char) (lead : Int) : List Char :=
  let sign := if lead < 0 then ['-'] else if plusSign then ['+'] else []
  ds.take 1 ++ (if ds.length ≤ 1 then [] else '.' :: ds.drop 1) ++
    'e' :: sign ++ Nat.toDigits 10 lead.natAbs

/-- A number written with the fewest digits that read back, in a style. -/
def render (style : FloatStyle) (x : Binary64) : List Char :=
  let d := shortest x.magnitude
  let ds := Nat.toDigits 10 d.1
  let lead := d.2 + ds.length - 1
  (if x.negative then ['-'] else []) ++
    (if style.positional lead then positionalText style.keepPoint ds lead
     else scientificText style.plusSign ds lead)

end Binary64

end ApprovalFlow
