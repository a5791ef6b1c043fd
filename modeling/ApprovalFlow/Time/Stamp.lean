import ApprovalFlow.Time.Instant
import ApprovalFlow.Text.Blank
import ApprovalFlow.Json.Number

/-!
# Time stamps as texts

Instants are written in UTC after RFC 3339, with `Z` and as few fraction digits as hold the
nanoseconds: none, three, six or nine. They are read in any offset and somewhat more freely: blanks
may stand before each number and each separator, numbers may be short, the `T` may be small or a
blank, and the offset may leave out its colon.
-/

namespace ApprovalFlow.Instant

open Text

/-- A number in decimal, filled up with zeros to a width. -/
def padded (width n : Nat) : List Char :=
  let ds := Nat.toDigits 10 n
  List.replicate (width - ds.length) '0' ++ ds

/-- A year: four digits, or a sign and at least four digits outside the years 0 to 9999. -/
def writeYear (year : Int) : List Char :=
  if 0 ≤ year ∧ year ≤ 9999 then padded 4 year.toNat
  else (if year < 0 then '-' else '+') :: padded 4 year.natAbs

/-- A fraction of a second with its point, or nothing. -/
def writeFraction (nano : Nat) : List Char :=
  if nano = 0 then []
  else if nano % 1000000 = 0 then '.' :: padded 3 (nano / 1000000)
  else if nano % 1000 = 0 then '.' :: padded 6 (nano / 1000)
  else '.' :: padded 9 nano

/-- An instant as a time stamp. -/
def write (t : Instant) : List Char :=
  let days := t.second.fdiv secondsPerDay
  let clock := (t.second - days * secondsPerDay).toNat
  let date := Date.ofDays days
  let leap := if t.nano < nanosPerSecond then 0 else 1
  writeYear date.year ++ '-' :: padded 2 date.month ++ '-' :: padded 2 date.day ++
    'T' :: padded 2 (clock / 3600) ++ ':' :: padded 2 (clock / 60 % 60) ++
    ':' :: padded 2 (clock % 60 + leap) ++ writeFraction (t.nano % nanosPerSecond) ++ ['Z']

/-- Reads one to `width` digits. -/
def readDigits (width : Nat) (cs : List Char) : Option (Nat × List Char) :=
  let ds := (cs.take width).takeWhile Json.isDigit
  if ds.isEmpty then none else some (Json.digitsValue ds, cs.drop ds.length)

/-- Reads a number of at most `width` digits after blanks, within bounds. -/
def readNumberIn (low high width : Nat) (cs : List Char) : Option (Nat × List Char) := do
  let (n, rest) ← readDigits width (trimLeft cs)
  if low ≤ n ∧ n ≤ high then some (n, rest) else none

/-- Reads a separator after blanks. -/
def readMark (mark : Char) (cs : List Char) : Option (List Char) :=
  match trimLeft cs with
  | c :: rest => if c = mark then some rest else none
  | [] => none

/-- Reads a year: up to four digits, or a sign and any number of digits. -/
def readYear (cs : List Char) : Option (Int × List Char) :=
  match trimLeft cs with
  | '-' :: rest => do let (n, rest) ← readDigits rest.length rest; return (-(n : Int), rest)
  | '+' :: rest => do let (n, rest) ← readDigits rest.length rest; return (n, rest)
  | cs => do let (n, rest) ← readDigits 4 cs; return (n, rest)

/-- Reads an optional fraction of a second; digits beyond the ninth are dropped. -/
def readFraction (cs : List Char) : Option (Nat × List Char) :=
  match cs with
  | '.' :: rest =>
    let ds := rest.takeWhile Json.isDigit
    if ds.isEmpty then none
    else
      let kept := ds.take 9
      some (Json.digitsValue kept * Nat.pow 10 (9 - kept.length), rest.dropWhile Json.isDigit)
  | _ => some (0, cs)

/-- Reads the digits of an offset: hours, colons or blanks, minutes; in seconds. -/
def readOffsetDigits (cs : List Char) : Option (Int × List Char) :=
  match cs with
  | h₁ :: h₂ :: rest =>
    match rest.dropWhile (fun c => c == ':' || isBlank c) with
    | m₁ :: m₂ :: rest =>
      if Json.isDigit h₁ && Json.isDigit h₂ && Json.isDigit m₁ && Json.isDigit m₂ then
        let hours := Json.digitsValue [h₁, h₂]
        let minutes := Json.digitsValue [m₁, m₂]
        if minutes < 60 ∧ hours < 24 then some ((hours * 3600 + minutes * 60 : Nat), rest) else none
      else none
    | _ => none
  | _ => none

/-- Reads an offset from UTC: `Z`, the letters UTC, or a sign and digits. -/
def readOffset (cs : List Char) : Option (Int × List Char) :=
  match trimLeft cs with
  | 'Z' :: rest | 'z' :: rest => some (0, rest)
  | '+' :: rest => readOffsetDigits rest
  | '-' :: rest | '−' :: rest => do
    let (n, rest) ← readOffsetDigits rest
    return (-n, rest)
  | c₁ :: c₂ :: c₃ :: rest =>
    if (c₁ = 'U' ∨ c₁ = 'u') ∧ (c₂ = 'T' ∨ c₂ = 't') ∧ (c₃ = 'C' ∨ c₃ = 'c') then some (0, rest)
    else none
  | _ => none

/-- The day before which no instant exists. -/
def firstDay : Int := (⟨-262143, 1, 1⟩ : Date).toDays

/-- The day after which no instant exists. -/
def lastDay : Int := (⟨262142, 12, 31⟩ : Date).toDays

/-- Whether a day lies between the first and the last. -/
def isKnownDay (day : Int) : Bool :=
  firstDay ≤ day && day ≤ lastDay

/-- Reads a time stamp that takes up the whole list, blanks at its end allowed. -/
def read (cs : List Char) : Option Instant := do
  let (year, cs) ← readYear cs
  let cs ← readMark '-' cs
  let (month, cs) ← readNumberIn 1 12 2 cs
  let cs ← readMark '-' cs
  let (day, cs) ← readNumberIn 1 31 2 cs
  let cs ← match cs with
    | 'T' :: rest | 't' :: rest | ' ' :: rest => some rest
    | _ => none
  let (hour, cs) ← readNumberIn 0 23 2 cs
  let cs ← readMark ':' cs
  let (minute, cs) ← readNumberIn 0 59 2 cs
  let cs ← readMark ':' cs
  let (second, cs) ← readNumberIn 0 60 2 cs
  let (nano, cs) ← readFraction cs
  let (offset, cs) ← readOffset cs
  let date : Date := ⟨year, month, day⟩
  let clock : Int := hour * 3600 + minute * 60 + (min second 59 : Nat)
  let leap := if second = 60 then nanosPerSecond else 0
  let t : Instant := ⟨date.toDays * secondsPerDay + clock - offset, nano + leap⟩
  if date.valid ∧ isKnownDay date.toDays ∧ isKnownDay (t.second.fdiv secondsPerDay) ∧
      (trimLeft cs).isEmpty then some t
  else none

/-- Reads a time stamp. -/
def ofText (s : String) : Option Instant :=
  read s.toList

/-- An instant as a text. -/
def toText (t : Instant) : String :=
  String.ofList t.write

end ApprovalFlow.Instant
