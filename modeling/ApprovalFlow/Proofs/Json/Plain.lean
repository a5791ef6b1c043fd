import ApprovalFlow.Proofs.Json.Records
import ApprovalFlow.Text.Blank

/-!
# What is written without loss

Most of what can be written is read for what it is. Left out are numbers that are read as floats,
containers that are nested deeper than a reader goes, and texts with half a surrogate pair.

* `Json.Written.Plain`: what is left out is not there.
* `Json.Written.Plain.exists_read`: then all of it is read.
* `Json.exists_parse_of_plain`: so a text that holds a plain object stands for one.
* `Json.plain_written`: what a value is written as is plain, unless the value has floats.
-/

namespace ApprovalFlow.Json

/-- A whole number of 64 bits, with or without sign, that is not the negative zero. -/
def Numeral.IsWhole (n : Numeral) : Prop :=
  n.fraction = none ∧ n.exponent = none ∧
    if n.negative then 0 < digitsValue n.whole ∧ digitsValue n.whole ≤ 2 ^ 63
    else digitsValue n.whole ≤ 2 ^ 64 - 1

namespace Written

/-- Numbers are whole numbers of 64 bits other than the negative zero, texts are made of whole
characters, and containers are nested no deeper than a given depth. -/
inductive Plain : Nat → Written → Prop
  | null {d : Nat} : Plain d .null
  | bool {d : Nat} (b : Bool) : Plain d (.bool b)
  | number {d : Nat} {n : Numeral} : n.IsWhole → Plain d (.number n)
  | text {d : Nat} {pieces : List Piece} : (textOf pieces).isSome → Plain d (.text pieces)
  | arr {d : Nat} {items : List Written} : (∀ w ∈ items, Plain d w) → Plain (d + 1) (.arr items)
  | obj {d : Nat} {members : List (List Piece × Written)} : (∀ m ∈ members, (textOf m.1).isSome) →
    (∀ m ∈ members, Plain d m.2) → Plain (d + 1) (.obj members)

end Written

/-! ## Reading what is plain -/

/-- A whole number is read as the whole number that it is. -/
theorem Numeral.IsWhole.exists_value {n : Numeral} (whole : n.IsWhole) :
    ∃ v : Int, -2 ^ 63 ≤ v ∧ v ≤ 2 ^ 64 - 1 ∧ n.value = some (.int v) := by
  obtain ⟨fraction, exponent, bounds⟩ := whole
  have p63 : Nat.pow 2 63 = 2 ^ 63 := rfl
  have p64 : significandLimit = 2 ^ 64 - 1 := rfl
  unfold value
  rw [fraction, exponent, p63, p64]
  simp only [Option.isNone_none, Bool.and_self, if_true]
  cases sign : n.negative with
  | true =>
      rw [sign, if_pos rfl] at bounds
      exact ⟨-(digitsValue n.whole : Int), by omega, by omega, by rw [if_pos rfl, if_pos bounds]⟩
  | false =>
      rw [sign, if_neg (by decide)] at bounds
      refine ⟨digitsValue n.whole, by omega, by omega, ?_⟩
      rw [if_neg (by decide), if_pos bounds]

namespace Written

theorem exists_readEach {d : Nat} {items : List Written}
    (all : ∀ w ∈ items, ∃ j, w.read .whole d = some j ∧ Fits d j) :
    ∃ js, readEach .whole d items = some js ∧ ∀ j ∈ js, Fits d j := by
  induction items with
  | nil => exact ⟨[], rfl, by simp⟩
  | cons w rest ih =>
      obtain ⟨⟨j, first, fits⟩, others⟩ := List.forall_mem_cons.1 all
      obtain ⟨js, later, all⟩ := ih others
      refine ⟨j :: js, ?_, List.forall_mem_cons.2 ⟨fits, all⟩⟩
      simp only [readEach, Shape.split, first, later, Option.bind_eq_bind, Option.bind_some,
        Option.pure_def]

theorem exists_readNamed {d : Nat} {members : List (List Piece × Written)}
    (keys : ∀ m ∈ members, (textOf m.1).isSome)
    (all : ∀ m ∈ members, ∃ j, m.2.read .whole d = some j ∧ Fits d j) :
    ∃ ms, readNamed .whole d members = some ms ∧ ∀ m ∈ ms, Fits d m.2 := by
  induction members with
  | nil => exact ⟨[], rfl, by simp⟩
  | cons m rest ih =>
      obtain ⟨pieces, w⟩ := m
      obtain ⟨⟨j, first, fits⟩, others⟩ := List.forall_mem_cons.1 all
      obtain ⟨key, keys⟩ := List.forall_mem_cons.1 keys
      obtain ⟨name, key⟩ := Option.isSome_iff_exists.1 key
      obtain ⟨ms, later, all⟩ := ih keys others
      refine ⟨(name, j) :: ms, ?_, List.forall_mem_cons.2 ⟨fits, all⟩⟩
      simp only [readNamed, key, Shape.member?, first, later, Option.bind_eq_bind, Option.bind_some,
        Option.pure_def]

/-- What is plain is read, and what it stands for is written without loss again. -/
theorem Plain.exists_read {d : Nat} {w : Written} (plain : Plain d w) :
    ∃ j, w.read .whole d = some j ∧ Fits d j := by
  induction plain with
  | null => exact ⟨_, by rw [read], .null⟩
  | bool b => exact ⟨_, by rw [read], .bool b⟩
  | number whole =>
      obtain ⟨v, low, high, value⟩ := whole.exists_value
      exact ⟨_, by rw [read, value], .int low high⟩
  | text characters =>
      obtain ⟨s, characters⟩ := Option.isSome_iff_exists.1 characters
      exact ⟨_, by rw [read, characters, Option.map_some], .str s⟩
  | arr _ ih =>
      obtain ⟨js, read', fits⟩ := exists_readEach ih
      exact ⟨_, by rw [read, read', Option.map_some], .arr fits⟩
  | obj keys _ ih =>
      obtain ⟨ms, read', fits⟩ := exists_readNamed keys ih
      exact ⟨_, by rw [read, read', Option.map_some], .obj fits⟩

/-- An object begins with an opening brace. -/
theorem eq_openBrace_of_readValue {fuel : Nat} {cs rest : List Char}
    {ms : List (List Piece × Written)} (value : readValue fuel cs = some (.obj ms, rest)) :
    ∃ cs', cs = openBrace :: cs' := by
  cases fuel with
  | zero => simp [readValue] at value
  | succ fuel =>
      unfold readValue at value
      split at value
      · cases value
      · cases value
      · cases value
      · obtain ⟨x, _, value⟩ := Option.bind_eq_some_iff.1 value
        cases value
      · split at value
        · cases value
        · obtain ⟨x, _, value⟩ := Option.bind_eq_some_iff.1 value
          cases value
      · exact ⟨_, rfl⟩
      · obtain ⟨x, _, value⟩ := Option.bind_eq_some_iff.1 value
        cases value

/-- A text that holds an object is not blank. -/
theorem not_allBlank_of_ofChars {s : String} {ms : List (List Piece × Written)}
    (holds : ofChars s.toList = some (.obj ms)) : Text.allBlank s = false := by
  obtain ⟨⟨w, rest⟩, value, ends⟩ := Option.bind_eq_some_iff.1 holds
  dsimp only at ends
  split at ends
  · cases ends
    obtain ⟨cs, start⟩ := eq_openBrace_of_readValue value
    have member : openBrace ∈ s.toList := by
      refine (List.dropWhile_sublist isSpace).subset ?_
      rw [show s.toList.dropWhile isSpace = _ from start]
      exact List.mem_cons_self ..
    refine Bool.eq_false_iff.2 fun blank => ?_
    exact absurd (List.all_eq_true.1 blank openBrace member) (by decide)
  · cases ends

end Written

/-- A text that holds a plain object is read as an object that is written without loss. -/
theorem exists_parse_of_plain {s : String} {ms : List (List Piece × Written)}
    (holds : Written.ofChars s.toList = some (.obj ms))
    (plain : Written.Plain depthLimit (.obj ms)) :
    ∃ members, parse s = some (.obj members) ∧ Fits depthLimit (.obj members) := by
  obtain ⟨j, value, fits⟩ := plain.exists_read
  have read : parse s = some j := by
    rw [parse, parseAs, holds]
    exact value
  rw [depthLimit, Written.read] at value
  obtain ⟨members, -, rfl⟩ := Option.map_eq_some_iff.1 value
  exact ⟨members, read, fits⟩

/-- The text of an object is not blank. -/
theorem not_allBlank_compact (members : List (String × Json)) :
    Text.allBlank (Json.obj members).compact = false := by
  rw [Text.allBlank, compact, String.toList_ofList, write]
  rfl

/-! ## What is written for a value -/

theorem isWhole_numeralOf {n : Int} (low : -2 ^ 63 ≤ n) (high : n ≤ 2 ^ 64 - 1) :
    (numeralOf n).IsWhole := by
  refine ⟨rfl, rfl, ?_⟩
  simp only [numeralOf, digitsValue_toDigits, decide_eq_true_eq]
  split <;> omega

theorem mem_writtenItems {items : List Json} {w : Written} (member : w ∈ writtenItems items) :
    ∃ j ∈ items, w = written j := by
  induction items with
  | nil => cases member
  | cons j rest ih =>
      rcases List.mem_cons.1 member with rfl | later
      · exact ⟨j, List.mem_cons_self .., rfl⟩
      · obtain ⟨j', there, same⟩ := ih later
        exact ⟨j', List.mem_cons_of_mem _ there, same⟩

theorem mem_writtenMembers {members : List (String × Json)} {m : List Piece × Written}
    (member : m ∈ writtenMembers members) :
    ∃ m' ∈ members, m = (m'.1.toList.map pieceOf, written m'.2) := by
  induction members with
  | nil => cases member
  | cons first rest ih =>
      rcases List.mem_cons.1 member with rfl | later
      · exact ⟨first, List.mem_cons_self .., rfl⟩
      · obtain ⟨m', there, same⟩ := ih later
        exact ⟨m', List.mem_cons_of_mem _ there, same⟩

/-- Whatever is written without loss is plain. -/
theorem plain_written {d : Nat} {j : Json} (fits : Fits d j) : Written.Plain d (written j) := by
  induction fits with
  | null => exact .null
  | bool b => exact .bool b
  | int low high => exact .number (isWhole_numeralOf low high)
  | str s => exact .text (by rw [textOf_pieces]; rfl)
  | arr _ ih =>
      refine .arr fun w member => ?_
      obtain ⟨j, there, rfl⟩ := mem_writtenItems member
      exact ih j there
  | obj _ ih =>
      refine .obj (fun m member => ?_) fun m member => ?_
      · obtain ⟨m', -, rfl⟩ := mem_writtenMembers member
        rw [textOf_pieces]
        rfl
      · obtain ⟨m', there, rfl⟩ := mem_writtenMembers member
        exact ih m' there

end ApprovalFlow.Json
