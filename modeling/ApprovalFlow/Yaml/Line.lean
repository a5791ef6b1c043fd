/-!
# Lines

Which characters break a line, which are blanks, and what the blanks and breaks between two words
amount to: blanks around a break do not count, a single break becomes a blank, and of several breaks
the first one is dropped. The two separators of lines and paragraphs are breaks that stay.
-/

namespace ApprovalFlow.Yaml

/-- Whether a character breaks a line. -/
def isBreak (c : Char) : Bool :=
  c == '\n' || c == '\r' || c.toNat == 0x85 || c.toNat == 0x2028 || c.toNat == 0x2029

/-- Whether a character is a blank. -/
def isBlank (c : Char) : Bool :=
  c == ' ' || c == '\t'

/-- Whether a character is a blank or a break. -/
def isGap (c : Char) : Bool :=
  isBlank c || isBreak c

/-- Whether what follows is a blank, a break or the end. -/
def atGap : List Char → Bool
  | [] => true
  | c :: _ => isGap c

/-- Whether three dashes or three dots stand here by themselves. At the beginning of a line they
mark where a document begins or ends. -/
def beginsMarker : List Char → Bool
  | a :: b :: c :: rest => (a == '-' || a == '.') && a == b && b == c && atGap rest
  | _ => false

/-- A break as it is kept: the separators as they are, all others as a line feed. -/
def keptBreak (c : Char) : Char :=
  if c.toNat = 0x2028 ∨ c.toNat = 0x2029 then c else '\n'

/-- The breaks among blanks and breaks, a carriage return and line feed being one. -/
def breaksOf : List Char → List Char
  | '\r' :: '\n' :: rest => '\n' :: breaksOf rest
  | c :: rest => if isBreak c then keptBreak c :: breaksOf rest else breaksOf rest
  | [] => []

/-- What the blanks and breaks between two words amount to. -/
def joinGap (gap : List Char) : List Char :=
  match breaksOf gap with
  | [] => gap
  | ['\n'] => [' ']
  | '\n' :: rest => rest
  | breaks => breaks

/-- Whether what follows blanks and breaks stands at the beginning of a line. -/
def endsLine (gap : List Char) : Bool :=
  gap.getLast?.any isBreak

end ApprovalFlow.Yaml
