/-!
# Blank characters

Names of operators and approvers are compared after blank ends have been cut off, and several
texts count as absent when nothing but blanks is in them. `Text.isBlank` is the Unicode property
`White_Space`; `Text.trim` cuts blanks off both ends and `Text.allBlank` asks whether anything
would be left.
-/

namespace ApprovalFlow.Text

/-- The characters with the Unicode property `White_Space`: five ranges and six single points. -/
def isBlank (c : Char) : Bool :=
  let n := c.toNat
  (9 ≤ n && n ≤ 13) || n == 0x20 || n == 0x85 || n == 0xA0 || n == 0x1680 ||
    (0x2000 ≤ n && n ≤ 0x200A) || n == 0x2028 || n == 0x2029 || n == 0x202F || n == 0x205F ||
    n == 0x3000

/-- Drops the blanks a list of characters begins with. -/
def trimLeft (cs : List Char) : List Char :=
  cs.dropWhile isBlank

/-- Drops the blanks at both ends of a list of characters. -/
def trimList (cs : List Char) : List Char :=
  (trimLeft (trimLeft cs).reverse).reverse

/-- Cuts the blanks off both ends of a text. -/
def trim (s : String) : String :=
  String.ofList (trimList s.toList)

/-- Whether a text holds nothing but blanks; the empty text does. -/
def allBlank (s : String) : Bool :=
  s.toList.all isBlank

/-- Cutting ends at the first character that is no blank. -/
theorem trimLeft_cons_of_not_isBlank {c : Char} (h : ¬ isBlank c = true) (cs : List Char) :
    trimLeft (c :: cs) = c :: cs := by
  rw [trimLeft, List.dropWhile_cons_of_neg h]

end ApprovalFlow.Text
