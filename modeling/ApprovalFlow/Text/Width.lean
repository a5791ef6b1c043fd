import ApprovalFlow.Text.EmojiTable
import ApprovalFlow.Text.LigatureTable
import ApprovalFlow.Text.Ranges
import ApprovalFlow.Text.WidthTable

/-!
# Width of text

How many columns of a terminal a line takes, and texts cut to a number of characters. Ideographs and
other wide characters take two columns, marks drawn onto another character take none, and all others
take one. Some characters are drawn together with what stands behind them: the letters of a
ligature, a pictograph and its selector, skin tone or joined pictographs, the two letters of a flag.
So a line is measured from its end, and `advance` says what a character adds before what follows it.

A text that is cut ends in three dots, which count as characters of what is left.
-/

namespace ApprovalFlow.Text

/-- The second part of a ligature. -/
inductive Ligature where
  /-- A Lisu tone letter. -/
  | lisuTone
  /-- The Hebrew letter lamed. -/
  | lamed
  /-- A Khmer letter that can be drawn below another. -/
  | khmer
  /-- The Buginese letter ya. -/
  | ya
  /-- The Buginese letter ya with the joined vowel before it. -/
  | yaWithVowel
  /-- A Tifinagh consonant. -/
  | tifinagh
  /-- A Tifinagh consonant with the consonant joiner before it. -/
  | tifinaghJoined
  /-- An Old Turkic letter. -/
  | turkic
  deriving DecidableEq, Repr

/-- What stands behind a character, as far as the width hangs on it. -/
inductive Follower where
  /-- Nothing that matters. -/
  | plain
  /-- The second part of a ligature, with a joiner before it or not. -/
  | ligature (part : Ligature) (behindJoiner : Bool)
  /-- The Arabic letter alef. -/
  | alef
  /-- A pictograph. -/
  | pictograph
  /-- A skin tone. -/
  | skinTone
  /-- One letter of a flag. -/
  | flagLetter
  /-- Several letters of flags. -/
  | flagLetters
  /-- A pictograph with a joiner before it. -/
  | joined
  /-- A joined pictograph with a keycap before it. -/
  | joinedKeycap
  /-- A joined pictograph with one letter of a flag before it. -/
  | joinedLetter
  /-- A joined pictograph with whole flags before it. -/
  | joinedFlags
  /-- A joined pictograph with whole flags and one letter more before it. -/
  | joinedFlagsLetter
  /-- A joined pictograph with the end of a tag sequence and some of its letters before it. -/
  | tagLetters (count : Nat)
  /-- The same with some digits. -/
  | tagDigits (count : Nat)
  deriving DecidableEq, Repr

/-- How a selector wants the character before it shown. -/
inductive Shown where
  | asPictograph
  | asText
  deriving DecidableEq, Repr

/-- The columns of a character by itself. -/
def ownWidth (n : Nat) : Nat :=
  if n < 0xA1 then 1
  else if n = 0x17D8 then 3
  else if inRanges widthlessRanges n then 0
  else if inRanges wideRanges n then 2
  else 1

/-- Whether a character is a letter of a flag. -/
def isFlagLetter (n : Nat) : Bool :=
  0x1F1E6 ≤ n && n ≤ 0x1F1FF

/-- Whether a character is a skin tone. -/
def isSkinTone (n : Nat) : Bool :=
  0x1F3FB ≤ n && n ≤ 0x1F3FF

/-- Whether a character is a pictograph by itself, letters of flags and skin tones aside. -/
def isPictograph (n : Nat) : Bool :=
  inRanges pictographRanges n && !isFlagLetter n && !isSkinTone n

/-- Whether a character is a Tifinagh consonant. -/
def isTifinagh (n : Nat) : Bool :=
  (0x2D31 ≤ n && n ≤ 0x2D65) || n == 0x2D6F

/-- Whether a character is an Arabic letter lam. -/
def isLam (n : Nat) : Bool :=
  n == 0x644 || (0x6B5 ≤ n && n ≤ 0x6B8) || n == 0x76A || n == 0x8A6 || n == 0x8C7

/-- The joiner. -/
def joiner : Nat := 0x200D

/-- What a character is for the one before it, whatever follows it. -/
def Follower.ofChar (n : Nat) : Follower :=
  if n < 0xA1 then .plain
  else if n = 0xA4FC ∨ n = 0xA4FD then .ligature .lisuTone true
  else if n = 0x5DC then .ligature .lamed false
  else if n = 0x1A10 then .ligature .ya false
  else if n = 0x10C03 then .ligature .turkic false
  else if isTifinagh n then .ligature .tifinagh false
  else if inRanges khmerRanges n then .ligature .khmer true
  else if inRanges alefRanges n then .alef
  else if isFlagLetter n then .flagLetter
  else if isSkinTone n then .skinTone
  else if isPictograph n then .pictograph
  else .plain

namespace Ligature

/-- What a character adds that is drawn together with the part behind it. -/
def join (part : Ligature) (behindJoiner : Bool) (n : Nat) : Option (Int × Follower) :=
  match part, behindJoiner with
  | lisuTone, _ => if 0xA4F8 ≤ n ∧ n ≤ 0xA4FB then some (0, .plain) else none
  | lamed, true => if n = 0x5D0 then some (0, .plain) else none
  | khmer, _ => if n = 0x17D2 then some (-1, .plain) else none
  | ya, true => if n = 0x1A17 then some (0, .ligature yaWithVowel true) else none
  | yaWithVowel, _ => if n = 0x1A15 then some (0, .plain) else none
  | tifinagh, behindJoiner =>
    if n = 0x2D7F then some (1, .ligature tifinaghJoined true)
    else if behindJoiner && isTifinagh n then some (0, .plain)
    else none
  | tifinaghJoined, _ => if isTifinagh n then some (-1, .plain) else none
  | turkic, true => if n = 0x10C32 then some (0, .plain) else none
  | _, _ => none

end Ligature

namespace Follower

/-- What a character adds before a joined pictograph. -/
def joinedWith (n : Nat) : Option (Int × Follower) :=
  if n = 0x20E3 then some (0, joinedKeycap)
  else if isFlagLetter n then some (1, joinedLetter)
  else if isSkinTone n then some (0, skinTone)
  else if n = 0xE007F then some (0, tagLetters 0)
  else if isPictograph n then some (0, pictograph)
  else none

/-- What a character adds before the tags of a flag. -/
def taggedWith (f : Follower) (n : Nat) : Option (Int × Follower) :=
  let isLetter := 0xE0061 ≤ n && n ≤ 0xE007A
  let isDigit := 0xE0030 ≤ n && n ≤ 0xE0039
  let isFlag := n == 0x1F3F4
  match f with
  | tagLetters count =>
    if isLetter && count < 6 then some (0, tagLetters (count + 1))
    else if isDigit && count < 5 then some (0, tagDigits 1)
    else if isFlag && 3 ≤ count then some (0, pictograph)
    else none
  | tagDigits count =>
    if isDigit && count < 3 then some (0, tagDigits (count + 1))
    else if isFlag && count == 3 then some (0, pictograph)
    else none
  | _ => none

/-- What a character adds that is drawn together with what follows it. -/
def join (f : Follower) (n : Nat) : Option (Int × Follower) :=
  match f with
  | plain => none
  | ligature part behindJoiner =>
    if n = joiner then some (0, ligature part true)
    else if inRanges hiddenMarkRanges n then some (0, f)
    else part.join behindJoiner n
  | alef =>
    if isLam n then some (0, plain)
    else if inRanges widthlessRanges n && !inRanges separatingRanges n then some (0, alef)
    else none
  | skinTone =>
    if inRanges skinnedRanges n then some (0, pictograph)
    else if n = joiner then some (0, joined)
    else none
  | flagLetter => if isFlagLetter n then some (1, flagLetters) else none
  | flagLetters =>
    if isFlagLetter n then some (1, flagLetters)
    else if n = joiner then some (0, joined)
    else none
  | joined => joinedWith n
  | joinedLetter => if isFlagLetter n then some (-1, joinedFlags) else none
  | joinedFlags =>
    if isFlagLetter n then some (3, joinedFlagsLetter)
    else if n = joiner then some (0, joined)
    else none
  | joinedFlagsLetter =>
    if isFlagLetter n then some (-1, joinedFlags)
    else if n = joiner then some (0, joined)
    else none
  | tagLetters _ | tagDigits _ => f.taggedWith n
  | pictograph => if n = joiner then some (0, joined) else none
  | joinedKeycap => none

/-- What is left of it behind a selector that shows a pictograph. -/
def behindSelector (shown : Shown) (f : Follower) : Follower :=
  match shown, f with
  | _, ligature part behindJoiner => ligature part behindJoiner
  | _, alef => alef
  | .asPictograph, joined => joined
  | .asPictograph, joinedKeycap => joinedKeycap
  | _, _ => plain

/-- What is left of it when a selector before it had no character to select. -/
def withoutSelector : Follower → Follower
  | ligature part behindJoiner => ligature part behindJoiner
  | alef => alef
  | _ => plain

end Follower

/-- What stands behind a character: the follower, and the selector before it if there is one. -/
structure Behind where
  follower : Follower
  selector : Option Shown
  deriving DecidableEq, Repr

namespace Behind

/-- The end of a line. -/
def lineEnd : Behind := ⟨.plain, none⟩

/-- Whether a character is a pictograph that a selector can show as text. Letters in squares stay
as they are. -/
def showsAsText (n : Nat) : Bool :=
  inRanges selectableRanges n && inRanges pictographRanges n && !(0x1F200 ≤ n && n ≤ 0x1F2FF)

/-- What a character adds when a selector behind it selects it. -/
def select (b : Behind) (n : Nat) : Option (Int × Behind) :=
  match b.selector with
  | some .asPictograph =>
    if inRanges selectableRanges n then
      let width := if b.follower = .joined ∨ b.follower = .joinedKeycap then 0 else 2
      some (width, ⟨.pictograph, none⟩)
    else none
  | some .asText => if showsAsText n then some (1, lineEnd) else none
  | none => none

/-- The follower, rid of a selector that selected nothing. -/
def settled (b : Behind) : Follower :=
  match b.selector with
  | some _ => b.follower.withoutSelector
  | none => b.follower

/-- What a character adds to the width of what stands behind it, and what it is for the one before
it. -/
def advance (n : Nat) (b : Behind) : Int × Behind :=
  match b.select n with
  | some r => r
  | none =>
    let f := b.settled
    if n = 0xFE0F then (0, ⟨f.behindSelector .asPictograph, some .asPictograph⟩)
    else if n = 0xFE0E then (0, ⟨f.behindSelector .asText, some .asText⟩)
    else
      match f.join n with
      | some (width, f) => (width, ⟨f, none⟩)
      | none => (ownWidth n, ⟨.ofChar n, none⟩)

end Behind

/-- The width of a line and what it begins with. -/
def measure : List Char → Int × Behind
  | [] => (0, .lineEnd)
  | c :: rest =>
    let (width, b) := measure rest
    let (more, b) := b.advance c.toNat
    (width + more, b)

/-- The columns a line takes. -/
def columns (line : List Char) : Nat :=
  (measure line).1.toNat

/-- What a text that is cut ends in. -/
def cutMark : List Char := ['.', '.', '.']

/-- The text if it has at most `most` characters, else its beginning with the mark of a cut. -/
def truncated (most : Nat) (s : String) : String :=
  let cs := s.toList
  if cs.length ≤ most then s else String.ofList (cs.take (most - cutMark.length) ++ cutMark)

/-- A text that fits is left alone. -/
theorem truncated_of_length_le {most : Nat} {s : String} (h : s.toList.length ≤ most) :
    truncated most s = s := by
  simp only [truncated, h, if_true]

end ApprovalFlow.Text
