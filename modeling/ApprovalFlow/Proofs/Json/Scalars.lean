import ApprovalFlow.Json.Reader
import ApprovalFlow.Json.Writer
import Mathlib.Data.List.Basic
import Mathlib.Tactic.IntervalCases

/-!
# Texts and whole numbers are read back

A text is written character by character, and each character is read back from the piece it was
written as. A whole number is written with as many digits as it has, and whatever follows it in a
value, a comma or a closing bracket, does not go on the number.

* `readPieces_escaped` and `textOf_pieces`: the two steps of reading a text.
* `readNumeral_writeInt` and `value_numeralOf`: the two steps of reading a whole number.
-/

namespace ApprovalFlow.Json

/-! ## Characters -/

/-- The control characters that are escaped by a letter. -/
def lettered : List Char :=
  ['\x08', '\t', '\n', '\x0c', '\r']

/-- The piece that a character is written as. -/
def pieceOf (c : Char) : Piece :=
  if c.toNat < 0x20 ∧ c ∉ lettered then .unit c.toNat else .char c

theorem hexValue_hexDigit {n : Nat} (small : n < 16) : hexValue (hexDigit n) = some n := by
  interval_cases n <;> rfl

/-- A code point below the space is read back from its last two digits. -/
theorem readPiece_unit {n : Nat} (control : n < 0x20) (rest : List Char) :
    readPiece ('\\' :: 'u' :: '0' :: '0' :: hexDigit (n / 16) :: hexDigit (n % 16) :: rest) =
      some (.unit n, rest) := by
  have high := hexValue_hexDigit (show n / 16 < 16 by omega)
  have low := hexValue_hexDigit (show n % 16 < 16 by omega)
  have quad : hexQuad '0' '0' (hexDigit (n / 16)) (hexDigit (n % 16)) = some n := by
    simp only [hexQuad, high, low, show hexValue '0' = some 0 from rfl, Option.bind_eq_bind,
      Option.bind_some, Option.pure_def, Option.some.injEq]
    omega
  simp only [readPiece, quad, Option.bind_eq_bind, Option.bind_some, Option.pure_def]

theorem readPiece_plain {c : Char} (printable : ¬ c.toNat < 0x20) (plain : c ≠ '\\')
    (rest : List Char) : readPiece (c :: rest) = some (.char c, rest) := by
  unfold readPiece
  split <;> simp_all

/-- A character is read back from what it is written as. -/
theorem readPiece_escapeChar (c : Char) (rest : List Char) :
    readPiece (escapeChar c ++ rest) = some (pieceOf c, rest) := by
  by_cases quote : c = '"'
  · subst quote
    rfl
  by_cases backslash : c = '\\'
  · subst backslash
    rfl
  by_cases letter : c ∈ lettered
  · simp only [lettered, List.mem_cons, List.not_mem_nil, or_false] at letter
    rcases letter with rfl | rfl | rfl | rfl | rfl <;> rfl
  -- No letter stands for the other characters: below the space they are written by code point.
  have others := letter
  simp only [lettered, List.mem_cons, List.not_mem_nil, or_false, not_or] at others
  obtain ⟨b, t, n, f, r⟩ := others
  by_cases control : c.toNat < 0x20
  · simp only [escapeChar, if_neg quote, if_neg backslash, if_neg b, if_neg t, if_neg n, if_neg f,
      if_neg r, if_pos control, pieceOf, if_pos (And.intro control letter)]
    exact readPiece_unit control rest
  · simp only [escapeChar, if_neg quote, if_neg backslash, if_neg b, if_neg t, if_neg n, if_neg f,
      if_neg r, pieceOf, control, false_and, if_false]
    exact readPiece_plain control backslash rest

/-- What a character is written as does not begin with a quote. -/
theorem escapeChar_eq_cons (c : Char) : ∃ d ds, escapeChar c = d :: ds ∧ d ≠ '"' := by
  by_cases quote : c = '"'
  · subst quote
    exact ⟨'\\', ['"'], rfl, by decide⟩
  · unfold escapeChar
    repeat' split
    all_goals first | exact ⟨_, _, rfl, quote⟩ | exact ⟨_, _, rfl, by decide⟩

/-! ## Texts -/

/-- A text is read up to its closing quote, a piece for each character. -/
theorem readPieces_escaped (cs rest : List Char) {fuel : Nat} (enough : cs.length < fuel) :
    readPieces fuel (cs.flatMap escapeChar ++ '"' :: rest) = some (cs.map pieceOf, rest) := by
  induction cs generalizing fuel with
  | nil =>
      obtain ⟨fuel, rfl⟩ := Nat.exists_eq_add_of_lt enough
      rfl
  | cons c cs ih =>
      obtain ⟨fuel, rfl⟩ := Nat.exists_eq_succ_of_ne_zero (Nat.ne_zero_of_lt enough)
      obtain ⟨d, ds, written, noQuote⟩ := escapeChar_eq_cons c
      have piece := readPiece_escapeChar c (cs.flatMap escapeChar ++ '"' :: rest)
      have more := ih (Nat.lt_of_succ_lt_succ enough)
      rw [List.flatMap_cons, List.append_assoc]
      rw [written] at piece ⊢
      unfold readPieces
      split
      · rename_i same
        exact (noQuote (List.cons.inj same).1).elim
      · simp only [piece, more, Option.bind_eq_bind, Option.bind_some, Option.pure_def,
          List.map_cons]

theorem charsOf_unit {n : Nat} (control : n < 0x20) (pieces : List Piece) :
    charsOf (.unit n :: pieces) = (charsOf pieces).map (Char.ofNat n :: ·) := by
  have low : ¬ 0xD800 ≤ n := by omega
  have lower : ¬ 0xDC00 ≤ n := by omega
  cases pieces with
  | nil => simp [charsOf, low]
  | cons p rest =>
      cases p with
      | char c => cases charsOf rest <;> simp_all [charsOf]
      | unit m => simp [charsOf, low, lower, Option.map_eq_bind]

/-- The pieces of a text stand for its characters. -/
theorem charsOf_pieces (cs : List Char) : charsOf (cs.map pieceOf) = some cs := by
  induction cs with
  | nil => rfl
  | cons c cs ih =>
      rw [List.map_cons, pieceOf]
      split
      · rename_i control
        rw [charsOf_unit control.1, ih, Option.map_some, Char.ofNat_toNat]
      · simp only [charsOf, ih, Option.bind_eq_bind, Option.bind_some, Option.pure_def]

theorem textOf_pieces (s : String) : textOf (s.toList.map pieceOf) = some s := by
  rw [textOf, charsOf_pieces, Option.map_some, String.ofList_toList]

theorem length_le_flatMap_escapeChar (cs : List Char) :
    cs.length ≤ (cs.flatMap escapeChar).length := by
  induction cs with
  | nil => exact Nat.le_refl _
  | cons c cs ih =>
      obtain ⟨d, ds, written, -⟩ := escapeChar_eq_cons c
      rw [List.flatMap_cons, List.length_append, written]
      simp only [List.length_cons]
      omega

/-! ## Whole numbers -/

/-- The numeral that a whole number is written as. -/
def numeralOf (n : Int) : Numeral :=
  ⟨decide (n < 0), Nat.toDigits 10 n.natAbs, none, none⟩

/-- A number ends before these characters. -/
def Ends (rest : List Char) : Prop :=
  ∀ c ∈ rest.head?, isDigit c = false ∧ c ≠ '.' ∧ c ≠ 'e' ∧ c ≠ 'E'

theorem isDigit_of_mem_toDigits {n : Nat} {c : Char} (member : c ∈ Nat.toDigits 10 n) :
    isDigit c = true := by
  have digit := Nat.isDigit_of_mem_toDigits (by decide) (by decide) member
  rw [Char.isDigit, Bool.and_eq_true, decide_eq_true_eq, decide_eq_true_eq] at digit
  rw [isDigit, Bool.and_eq_true, decide_eq_true_eq, decide_eq_true_eq]
  exact digit

/-- There is always a first digit. -/
theorem toDigits_eq_cons (n : Nat) :
    ∃ d ds, Nat.toDigits 10 n = d :: ds ∧ isDigit d = true := by
  obtain ⟨d, ds, digits⟩ := List.exists_cons_of_ne_nil (Nat.toDigits_ne_nil (b := 10) (n := n))
  refine ⟨d, ds, digits, isDigit_of_mem_toDigits (n := n) ?_⟩
  rw [digits]
  exact List.mem_cons_self ..

/-- A number of more than one digit has no leading zero. -/
theorem head?_toDigits_ne_zero {n : Nat} (positive : 0 < n) :
    (Nat.toDigits 10 n).head? ≠ some '0' := by
  induction n using Nat.strongRecOn with
  | ind n ih =>
      rw [Nat.toDigits_eq_if (by decide)]
      split
      · rename_i small
        interval_cases n <;> decide
      · rename_i large
        have leading := ih (n / 10) (by omega) (by omega)
        rw [List.head?_append_of_ne_nil _ Nat.toDigits_ne_nil]
        exact leading

theorem digitsValue_eq (ds : List Char) : digitsValue ds = Nat.ofDigitChars 10 ds 0 := by
  rw [digitsValue, Nat.ofDigitChars_eq_foldl]
  simp only [digitValue, Nat.mul_comm]

theorem digitsValue_toDigits (n : Nat) : digitsValue (Nat.toDigits 10 n) = n := by
  rw [digitsValue_eq, Nat.ofDigitChars_ten_toDigits]

/-- Digits are read up to where the number ends. -/
theorem span_toDigits (n : Nat) {rest : List Char} (ends : Ends rest) :
    (Nat.toDigits 10 n ++ rest).takeWhile isDigit = Nat.toDigits 10 n ∧
      (Nat.toDigits 10 n ++ rest).dropWhile isDigit = rest := by
  have digits : ∀ c ∈ Nat.toDigits 10 n, isDigit c = true := fun _ => isDigit_of_mem_toDigits
  rw [List.takeWhile_append_of_pos digits, List.dropWhile_append_of_pos digits]
  cases rest with
  | nil => exact ⟨List.append_nil _, rfl⟩
  | cons c rest =>
      have last := (ends c rfl).1
      rw [List.takeWhile_cons_of_neg (by simp [last]), List.dropWhile_cons_of_neg (by simp [last])]
      exact ⟨List.append_nil _, rfl⟩

theorem readFraction_of_ends {rest : List Char} (ends : Ends rest) :
    readFraction rest = some (none, rest) := by
  unfold readFraction
  split
  · exact ((ends '.' rfl).2.1 rfl).elim
  · rfl

theorem readExponent_of_ends {rest : List Char} (ends : Ends rest) :
    readExponent rest = some (none, rest) := by
  unfold readExponent
  dsimp only
  split
  case h_7 => rfl
  all_goals first | exact ((ends _ rfl).2.2.1 rfl).elim | exact ((ends _ rfl).2.2.2 rfl).elim

/-- The sign of a number is read off its first character. -/
theorem sign_writeInt (n : Int) (rest : List Char) :
    ((writeInt n ++ rest).head? == some '-') = decide (n < 0) ∧
      (if n < 0 then (writeInt n ++ rest).drop 1 else writeInt n ++ rest) =
        Nat.toDigits 10 n.natAbs ++ rest := by
  unfold writeInt
  by_cases negative : n < 0
  · simp [negative]
  · obtain ⟨d, ds, digits, first⟩ := toDigits_eq_cons n.natAbs
    have noSign : d ≠ '-' := by
      intro minus
      rw [minus] at first
      cases first
    simp [negative, digits, noSign]

/-- A number is written without a leading zero. -/
theorem leading_toDigits (n : Nat) : ((Nat.toDigits 10 n).isEmpty ||
    (decide ((Nat.toDigits 10 n).length > 1) && (Nat.toDigits 10 n).head? == some '0')) =
      false := by
  rcases Nat.eq_zero_or_pos n with rfl | positive
  · rfl
  · have leading := head?_toDigits_ne_zero positive
    simp [Nat.toDigits_ne_nil, leading]

/-- A whole number is read up to where it ends. -/
theorem readNumeral_writeInt (n : Int) {rest : List Char} (ends : Ends rest) :
    readNumeral (writeInt n ++ rest) = some (numeralOf n, rest) := by
  obtain ⟨digits, remaining⟩ := span_toDigits n.natAbs ends
  obtain ⟨negative, unsigned⟩ := sign_writeInt n rest
  unfold readNumeral
  simp only [negative, unsigned, decide_eq_true_eq, digits, remaining, leading_toDigits,
    readFraction_of_ends ends, readExponent_of_ends ends, Bool.false_eq_true, if_false,
    Option.bind_eq_bind, Option.bind_some, Option.pure_def]
  rfl

/-- Whole numbers of 64 bits, signed or not, are read back exactly. -/
theorem value_numeralOf {n : Int} (low : -2 ^ 63 ≤ n) (high : n ≤ 2 ^ 64 - 1) :
    (numeralOf n).value = some (.int n) := by
  unfold numeralOf Numeral.value
  simp only [Option.isNone_none, Bool.and_self, if_true, digitsValue_toDigits, decide_eq_true_eq]
  have p63 : Nat.pow 2 63 = 2 ^ 63 := rfl
  have p64 : significandLimit = 2 ^ 64 - 1 := rfl
  rw [p63, p64]
  split
  · rw [if_pos (by omega)]
    congr 2
    omega
  · rw [if_pos (by omega)]
    congr 2
    omega

end ApprovalFlow.Json
