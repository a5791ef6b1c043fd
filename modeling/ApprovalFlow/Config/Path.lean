import ApprovalFlow.Json.Number

/-!
# Paths of settings

The name of a setting is a path: a key, then further keys behind dots and places in lists between
square brackets. `Path.ofName` reads it. A name that is no path is a key as it stands.
-/

namespace ApprovalFlow.Config

/-- A step down a tree of settings. -/
inductive Step where
  /-- To the value of a key. -/
  | key (name : String)
  /-- To a place in a list; a negative place counts from the end. -/
  | item (place : Int)
  deriving DecidableEq, Repr

/-- The way to a setting. -/
abbrev Path := List Step

namespace Path

/-- Whether a character may stand in a key of a path. -/
def isKeyChar (c : Char) : Bool :=
  ('a' ≤ c && c ≤ 'z') || ('A' ≤ c && c ≤ 'Z') || ('0' ≤ c && c ≤ '9') || c == '_' || c == '-' ||
    c == ' '

/-- Whether a character may stand around the number of a place. -/
def isMargin (c : Char) : Bool :=
  c == ' ' || c == '\t'

/-- The greatest number of a place. -/
def placeLimit : Nat := Nat.pow 2 63

/-- Reads a place behind its opening bracket. -/
def readPlace (cs : List Char) : Option (Int × List Char) :=
  let cs := cs.dropWhile isMargin
  let negative := cs.head? == some '-'
  let cs := if negative then cs.drop 1 else cs
  let ds := cs.takeWhile Json.isDigit
  let n := Json.digitsValue ds
  match (cs.dropWhile Json.isDigit).dropWhile isMargin with
  | ']' :: rest =>
    if ds.isEmpty || placeLimit < n || (n == placeLimit && !negative) then none
    else some (if negative then -(n : Int) else n, rest)
  | _ => none

/-- Reads a key. -/
def readKey (cs : List Char) : Option (String × List Char) :=
  let key := cs.takeWhile isKeyChar
  if key.isEmpty then none else some (String.ofList key, cs.dropWhile isKeyChar)

/-- Reads the steps behind the first key. Every step takes a character, of which there are no more
than `fuel`. -/
def readSteps : Nat → List Char → Option Path
  | _, [] => some []
  | 0, _ => none
  | fuel + 1, '.' :: rest => do
    let (key, rest) ← readKey rest
    return .key key :: (← readSteps fuel rest)
  | fuel + 1, '[' :: rest => do
    let (place, rest) ← readPlace rest
    return .item place :: (← readSteps fuel rest)
  | _, _ => none

/-- The path a name stands for. -/
def ofName (name : String) : Path :=
  let read := do
    let (key, rest) ← readKey name.toList
    return Step.key key :: (← readSteps rest.length rest)
  read.getD [.key name]

/-- A path with its keys changed. -/
def mapKeys (f : String → String) (path : Path) : Path :=
  path.map fun step =>
    match step with
    | .key name => .key (f name)
    | .item place => .item place

end Path

end ApprovalFlow.Config
