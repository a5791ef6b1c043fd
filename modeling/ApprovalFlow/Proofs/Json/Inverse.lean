import ApprovalFlow.Proofs.Json.Scalars

/-!
# Written values are read back

What `Json.write` makes of a value is read back as the same value, as long as there are no floats in
it, its whole numbers have 64 bits and it is nested no deeper than a reader goes. The reader first
finds out what is written, which `Json.written` says for each value, and then what that stands for.

* `Json.readValue_write`: the first step, whatever follows the value.
* `Json.read_written`: the second step.
* `Json.parse_compact`: both steps.
-/

namespace ApprovalFlow.Json

/-- No floats, whole numbers of 64 bits with or without sign, and containers nested no deeper than
a given depth. -/
inductive Fits : Nat → Json → Prop
  | null {d : Nat} : Fits d .null
  | bool {d : Nat} (b : Bool) : Fits d (.bool b)
  | int {d : Nat} {n : Int} : -2 ^ 63 ≤ n → n ≤ 2 ^ 64 - 1 → Fits d (.int n)
  | str {d : Nat} (s : String) : Fits d (.str s)
  | arr {d : Nat} {items : List Json} : (∀ j ∈ items, Fits d j) → Fits (d + 1) (.arr items)
  | obj {d : Nat} {members : List (String × Json)} : (∀ m ∈ members, Fits d m.2) →
    Fits (d + 1) (.obj members)

mutual

/-- A value as it is written. What is said of it does not concern floats. -/
def written : Json → Written
  | .null => .null
  | .bool b => .bool b
  | .int n => .number (numeralOf n)
  | .float _ => .null
  | .str s => .text (s.toList.map pieceOf)
  | .arr items => .arr (writtenItems items)
  | .obj members => .obj (writtenMembers members)

/-- Items as they are written. -/
def writtenItems : List Json → List Written
  | [] => []
  | j :: rest => written j :: writtenItems rest

/-- Members as they are written. -/
def writtenMembers : List (String × Json) → List (List Piece × Written)
  | [] => []
  | (k, j) :: rest => (k.toList.map pieceOf, written j) :: writtenMembers rest

end

/-! ## What is written -/

theorem writeItems_cons (j k : Json) (items : List Json) :
    writeItems (j :: k :: items) = write j ++ ',' :: writeItems (k :: items) :=
  rfl

theorem writeMembers_cons (key : String) (j : Json) (m : String × Json)
    (members : List (String × Json)) :
    writeMembers ((key, j) :: m :: members) =
      writeText key ++ ':' :: write j ++ ',' :: writeMembers (m :: members) :=
  rfl

theorem ends_of_mem {c : Char} (mark : c ∈ [',', ']', closeBrace]) (rest : List Char) :
    Ends (c :: rest) := by
  intro d first
  cases first
  simp only [List.mem_cons, List.not_mem_nil, or_false] at mark
  rcases mark with rfl | rfl | rfl <;> decide

/-- Blanks are skipped up to what does not begin with one. -/
theorem skipSpace_cons {c : Char} (visible : isSpace c = false) (rest : List Char) :
    skipSpace (c :: rest) = c :: rest :=
  List.dropWhile_cons_of_neg (by simp [visible])

theorem skipSpace_append {c : Char} {cs ds : List Char} (begins : cs = c :: ds)
    (visible : isSpace c = false) (rest : List Char) : skipSpace (cs ++ rest) = cs ++ rest := by
  rw [begins]
  exact skipSpace_cons visible _

/-- A value that is read back whatever follows it. It begins with a character that is no blank and
closes nothing. -/
structure IsReadBack (j : Json) : Prop where
  begins : ∃ c cs, write j = c :: cs ∧ isSpace c = false ∧ c ≠ ']'
  reads : ∀ {fuel : Nat} {rest : List Char}, 2 * (write j).length < fuel → Ends rest →
    Written.readValue fuel (write j ++ rest) = some (written j, rest)

theorem isReadBack_null : IsReadBack .null where
  begins := ⟨'n', _, rfl, rfl, by decide⟩
  reads enough _ := by
    obtain ⟨fuel, rfl⟩ := Nat.exists_eq_succ_of_ne_zero (Nat.ne_zero_of_lt enough)
    rfl

theorem isReadBack_bool (b : Bool) : IsReadBack (.bool b) := by
  cases b with
  | false =>
      refine ⟨⟨'f', _, rfl, rfl, by decide⟩, fun enough _ => ?_⟩
      obtain ⟨fuel, rfl⟩ := Nat.exists_eq_succ_of_ne_zero (Nat.ne_zero_of_lt enough)
      rfl
  | true =>
      refine ⟨⟨'t', _, rfl, rfl, by decide⟩, fun enough _ => ?_⟩
      obtain ⟨fuel, rfl⟩ := Nat.exists_eq_succ_of_ne_zero (Nat.ne_zero_of_lt enough)
      rfl

theorem isReadBack_str (s : String) : IsReadBack (.str s) where
  begins := ⟨'"', _, rfl, rfl, by decide⟩
  reads {fuel rest} enough _ := by
    obtain ⟨fuel, rfl⟩ := Nat.exists_eq_succ_of_ne_zero (Nat.ne_zero_of_lt enough)
    have long := length_le_flatMap_escapeChar s.toList
    simp only [write, writeText, List.length_append, List.length_cons] at enough
    have text := readPieces_escaped s.toList rest (show s.toList.length < fuel by omega)
    simp only [write, writeText, List.cons_append, List.append_assoc, List.nil_append,
      Written.readValue, text, written, Option.bind_eq_bind, Option.bind_some, Option.pure_def]

/-- What begins with a digit or a minus is read as a number. -/
theorem readValue_number {c : Char} (number : isDigit c = true ∨ c = '-') (fuel : Nat)
    (cs : List Char) : Written.readValue (fuel + 1) (c :: cs) =
      (readNumeral (c :: cs)).map fun x => (.number x.1, x.2) := by
  unfold Written.readValue
  split
  case h_7 => cases readNumeral (c :: cs) <;> rfl
  all_goals
    rename_i same
    rw [(List.cons.inj same).1] at number
    rcases number with digit | minus
    · cases digit
    · cases minus

theorem writeInt_eq_cons (n : Int) :
    ∃ c cs, writeInt n = c :: cs ∧ (isDigit c = true ∨ c = '-') := by
  unfold writeInt
  split
  · exact ⟨'-', _, rfl, Or.inr rfl⟩
  · obtain ⟨d, ds, digits, first⟩ := toDigits_eq_cons n.natAbs
    exact ⟨d, ds, digits, Or.inl first⟩

theorem isReadBack_int (n : Int) : IsReadBack (.int n) := by
  obtain ⟨c, cs, digits, number⟩ := writeInt_eq_cons n
  refine ⟨⟨c, cs, digits, ?_, ?_⟩, ?_⟩
  · rcases number with digit | rfl
    · cases space : isSpace c with
      | false => rfl
      | true =>
          simp only [isSpace, Bool.or_eq_true, beq_iff_eq] at space
          rcases space with ((rfl | rfl) | rfl) | rfl <;> cases digit
    · rfl
  · intro closes
    subst closes
    rcases number with digit | minus
    · cases digit
    · cases minus
  · intro fuel rest enough ends
    obtain ⟨fuel, rfl⟩ := Nat.exists_eq_succ_of_ne_zero (Nat.ne_zero_of_lt enough)
    have numeral := readNumeral_writeInt n ends
    rw [write]
    rw [digits, List.cons_append] at numeral ⊢
    rw [readValue_number number, numeral]
    rfl

/-! ## Items -/

section

variable {cs cs' rest : List Char} {fuel : Nat} {w : Written}

theorem readItems_last (value : Written.readValue fuel cs = some (w, ']' :: rest)) :
    Written.readItems (fuel + 1) cs = some ([w], rest) := by
  simp only [Written.readItems, value, Option.bind_eq_bind, Option.bind_some,
    skipSpace_cons (c := ']') rfl]

theorem readItems_more {ws : List Written}
    (value : Written.readValue fuel cs = some (w, ',' :: cs')) (visible : skipSpace cs' = cs')
    (more : Written.readItems fuel cs' = some (ws, rest)) :
    Written.readItems (fuel + 1) cs = some (w :: ws, rest) := by
  simp only [Written.readItems, value, Option.bind_eq_bind, Option.bind_some,
    skipSpace_cons (c := ',') rfl, visible, more, Option.pure_def]

theorem readValue_items {ws : List Written} (visible : skipSpace cs = cs)
    (opening : cs.head? ≠ some ']') (items : Written.readItems fuel cs = some (ws, rest)) :
    Written.readValue (fuel + 1) ('[' :: cs) = some (.arr ws, rest) := by
  simp only [Written.readValue, visible]
  split
  · exact (opening rfl).elim
  · simp only [items, Option.bind_eq_bind, Option.bind_some, Option.pure_def]

end

/-- Items begin with no blank, and not with the closing bracket. -/
theorem writeItems_eq_cons {j : Json} (read : IsReadBack j) (items : List Json) :
    ∃ c cs, writeItems (j :: items) = c :: cs ∧ isSpace c = false ∧ c ≠ ']' := by
  obtain ⟨c, cs, begins, visible, opening⟩ := read.begins
  cases items with
  | nil => exact ⟨c, cs, begins, visible, opening⟩
  | cons k items =>
      refine ⟨c, cs ++ ',' :: writeItems (k :: items), ?_, visible, opening⟩
      rw [writeItems_cons, begins, List.cons_append]

/-- Items that are read back one by one are read back up to the closing bracket. -/
theorem readItems_writeItems (j : Json) (items : List Json) (rest : List Char) {fuel : Nat}
    (all : ∀ x ∈ j :: items, IsReadBack x)
    (enough : 2 * (writeItems (j :: items)).length + 1 < fuel) :
    Written.readItems fuel (writeItems (j :: items) ++ ']' :: rest) =
      some (writtenItems (j :: items), rest) := by
  induction items generalizing j fuel with
  | nil =>
      obtain ⟨fuel, rfl⟩ := Nat.exists_eq_succ_of_ne_zero (Nat.ne_zero_of_lt enough)
      rw [writeItems] at enough ⊢
      have one := all j (List.mem_cons_self ..)
      exact readItems_last (one.reads (by omega) (ends_of_mem (by decide) rest))
  | cons k items ih =>
      obtain ⟨fuel, rfl⟩ := Nat.exists_eq_succ_of_ne_zero (Nat.ne_zero_of_lt enough)
      rw [writeItems_cons, List.length_append, List.length_cons] at enough
      rw [writeItems_cons, List.append_assoc, List.cons_append]
      have one := all j (List.mem_cons_self ..)
      have others := fun x member => all x (List.mem_cons_of_mem _ member)
      obtain ⟨c, cs, begins, visible, -⟩ := writeItems_eq_cons (others k (by simp)) items
      exact readItems_more (one.reads (by omega) (ends_of_mem (by decide) _))
        (skipSpace_append begins visible _) (ih k others (by omega))

theorem isReadBack_arr {items : List Json} (all : ∀ j ∈ items, IsReadBack j) :
    IsReadBack (.arr items) where
  begins := ⟨'[', _, rfl, rfl, by decide⟩
  reads {fuel rest} enough _ := by
    obtain ⟨fuel, rfl⟩ := Nat.exists_eq_succ_of_ne_zero (Nat.ne_zero_of_lt enough)
    cases items with
    | nil => rfl
    | cons j items =>
        obtain ⟨c, cs, begins, visible, opening⟩ :=
          writeItems_eq_cons (all j (List.mem_cons_self ..)) items
        simp only [write, List.length_append, List.length_cons] at enough
        have read : Written.readItems fuel _ = _ := readItems_writeItems j items rest all (by omega)
        rw [write, List.cons_append, List.cons_append, List.append_assoc, List.singleton_append]
        refine readValue_items (skipSpace_append begins visible _) ?_ read
        rw [begins]
        simpa using opening

/-! ## Members -/

section

variable {cs cs' rest : List Char} {fuel : Nat} {w : Written} {key : List Piece}

theorem readMembers_last (name : readPieces fuel cs = some (key, ':' :: cs'))
    (visible : skipSpace cs' = cs')
    (value : Written.readValue fuel cs' = some (w, closeBrace :: rest)) :
    Written.readMembers (fuel + 1) ('"' :: cs) = some ([(key, w)], rest) := by
  simp only [Written.readMembers, name, Option.bind_eq_bind, Option.bind_some,
    skipSpace_cons (c := ':') rfl, visible, value, skipSpace_cons (c := closeBrace) rfl]
  rfl

theorem readMembers_more {cs'' : List Char} {more : List (List Piece × Written)}
    (name : readPieces fuel cs = some (key, ':' :: cs')) (visible : skipSpace cs' = cs')
    (value : Written.readValue fuel cs' = some (w, ',' :: cs'')) (visible' : skipSpace cs'' = cs'')
    (others : Written.readMembers fuel cs'' = some (more, rest)) :
    Written.readMembers (fuel + 1) ('"' :: cs) = some ((key, w) :: more, rest) := by
  simp only [Written.readMembers, name, Option.bind_eq_bind, Option.bind_some,
    skipSpace_cons (c := ':') rfl, visible, value, skipSpace_cons (c := ',') rfl, visible', others,
    Option.pure_def]

theorem readValue_members {more : List (List Piece × Written)}
    (members : Written.readMembers fuel ('"' :: cs) = some (more, rest)) :
    Written.readValue (fuel + 1) (openBrace :: '"' :: cs) = some (.obj more, rest) := by
  simp only [openBrace, Written.readValue, skipSpace_cons (c := '"') rfl]
  split
  · rename_i same
    cases same
  · simp only [members, Option.bind_eq_bind, Option.bind_some, Option.pure_def]

end

theorem writeMembers_eq_cons (m : String × Json) (members : List (String × Json)) :
    ∃ cs, writeMembers (m :: members) = '"' :: cs := by
  cases members with
  | nil => exact ⟨_, rfl⟩
  | cons => exact ⟨_, rfl⟩

/-- A key and its value are written side by side. -/
theorem writeText_member (key : String) (cs : List Char) :
    writeText key ++ ':' :: cs = '"' :: (key.toList.flatMap escapeChar ++ '"' :: ':' :: cs) := by
  simp [writeText]

/-- Members whose values are read back one by one are read back up to the closing brace. -/
theorem readMembers_writeMembers (m : String × Json) (members : List (String × Json))
    (rest : List Char) {fuel : Nat} (all : ∀ x ∈ m :: members, IsReadBack x.2)
    (enough : 2 * (writeMembers (m :: members)).length + 1 < fuel) :
    Written.readMembers fuel (writeMembers (m :: members) ++ closeBrace :: rest) =
      some (writtenMembers (m :: members), rest) := by
  induction members generalizing m fuel with
  | nil =>
      obtain ⟨key, j⟩ := m
      obtain ⟨fuel, rfl⟩ := Nat.exists_eq_succ_of_ne_zero (Nat.ne_zero_of_lt enough)
      have one : IsReadBack j := all (key, j) (List.mem_cons_self ..)
      obtain ⟨c, cs, begins, visible, -⟩ := one.begins
      have long := length_le_flatMap_escapeChar key.toList
      rw [writeMembers, writeText_member] at enough ⊢
      simp only [List.length_cons, List.length_append] at enough
      simp only [List.cons_append, List.append_assoc]
      exact readMembers_last (readPieces_escaped key.toList _ (by omega))
        (skipSpace_append begins visible _) (one.reads (by omega) (ends_of_mem (by decide) rest))
  | cons n members ih =>
      obtain ⟨key, j⟩ := m
      obtain ⟨fuel, rfl⟩ := Nat.exists_eq_succ_of_ne_zero (Nat.ne_zero_of_lt enough)
      have one : IsReadBack j := all (key, j) (List.mem_cons_self ..)
      have others := fun x member => all x (List.mem_cons_of_mem _ member)
      obtain ⟨c, cs, begins, visible, -⟩ := one.begins
      obtain ⟨ds, next⟩ := writeMembers_eq_cons n members
      have long := length_le_flatMap_escapeChar key.toList
      rw [writeMembers_cons, List.append_assoc, List.cons_append, writeText_member] at enough ⊢
      simp only [List.length_cons, List.length_append] at enough
      simp only [List.cons_append, List.append_assoc]
      refine readMembers_more (readPieces_escaped key.toList _ (by omega))
        (skipSpace_append begins visible _) (one.reads (by omega) (ends_of_mem (by decide) _)) ?_
        (ih n others (by omega))
      rw [next]
      rfl

theorem isReadBack_obj {members : List (String × Json)} (all : ∀ m ∈ members, IsReadBack m.2) :
    IsReadBack (.obj members) where
  begins := ⟨openBrace, _, rfl, rfl, by decide⟩
  reads {fuel rest} enough _ := by
    obtain ⟨fuel, rfl⟩ := Nat.exists_eq_succ_of_ne_zero (Nat.ne_zero_of_lt enough)
    cases members with
    | nil => rfl
    | cons m members =>
        obtain ⟨cs, begins⟩ := writeMembers_eq_cons m members
        simp only [write, List.length_append, List.length_cons] at enough
        have read : Written.readMembers fuel _ = _ :=
          readMembers_writeMembers m members rest all (by omega)
        rw [write, List.cons_append, List.cons_append, List.append_assoc, List.singleton_append]
        rw [begins] at read ⊢
        exact readValue_members read

/-! ## Values -/

theorem isReadBack {d : Nat} {j : Json} (fits : Fits d j) : IsReadBack j := by
  induction fits with
  | null => exact isReadBack_null
  | bool b => exact isReadBack_bool b
  | int => exact isReadBack_int _
  | str s => exact isReadBack_str s
  | arr _ ih => exact isReadBack_arr ih
  | obj _ ih => exact isReadBack_obj ih

/-- What is written is found out, whatever follows it. -/
theorem readValue_write {d : Nat} {j : Json} (fits : Fits d j) {fuel : Nat} {rest : List Char}
    (enough : 2 * (write j).length < fuel) (ends : Ends rest) :
    Written.readValue fuel (write j ++ rest) = some (written j, rest) :=
  (isReadBack fits).reads enough ends

theorem readEach_writtenItems {d : Nat} {items : List Json}
    (all : ∀ j ∈ items, (written j).read .whole d = some j) :
    Written.readEach .whole d (writtenItems items) = some items := by
  induction items with
  | nil => rfl
  | cons j items ih =>
      have first := all j (List.mem_cons_self ..)
      have others := ih fun k member => all k (List.mem_cons_of_mem _ member)
      simp only [writtenItems, Written.readEach, Shape.split, first, others, Option.bind_eq_bind,
        Option.bind_some, Option.pure_def]

/-- Members that are looked at as wholes stand for what they were made from. -/
theorem readNamed_writtenMembers {d : Nat} {shape : Shape} {members : List (String × Json)}
    (named : ∀ m ∈ members, shape.member? m.1 = some .whole)
    (all : ∀ m ∈ members, (written m.2).read .whole d = some m.2) :
    Written.readNamed shape d (writtenMembers members) = some members := by
  induction members with
  | nil => rfl
  | cons m members ih =>
      have name := named m (List.mem_cons_self ..)
      have first := all m (List.mem_cons_self ..)
      have others := ih (fun n member => named n (List.mem_cons_of_mem _ member))
        fun n member => all n (List.mem_cons_of_mem _ member)
      simp only [writtenMembers, Written.readNamed, name, textOf_pieces, first, others,
        Option.bind_eq_bind, Option.bind_some, Option.pure_def]

/-- What is written stands for the value that it was made from. -/
theorem read_written {d : Nat} {j : Json} (fits : Fits d j) :
    (written j).read .whole d = some j := by
  induction fits with
  | null => rw [written, Written.read]
  | bool b => rw [written, Written.read]
  | int low high =>
      rw [written, Written.read]
      exact value_numeralOf low high
  | str s => rw [written, Written.read, textOf_pieces, Option.map_some]
  | arr _ ih => simp only [written, Written.read, readEach_writtenItems ih, Option.map_some]
  | @obj d members _ ih =>
      have named : ∀ m ∈ members, Shape.whole.member? m.1 = some .whole := fun _ _ => rfl
      simp only [written, Written.read, readNamed_writtenMembers named ih, Option.map_some]

/-- A record of which only certain fields are looked at stands for all of its members if each is one
of the fields. -/
theorem read_fields_written {d : Nat} {names : List String} {members : List (String × Json)}
    (fits : Fits d (.obj members)) (known : ∀ m ∈ members, m.1 ∈ names) :
    (written (.obj members)).read (.fields names) d = some (.obj members) := by
  have named : ∀ m ∈ members, (Shape.fields names).member? m.1 = some .whole := by
    intro m member
    cases found : (names.map (·, Shape.whole)).find? (·.1 == m.1) with
    | none =>
        have field := List.mem_map_of_mem (f := (·, Shape.whole)) (known m member)
        simpa using List.find?_eq_none.1 found _ field
    | some field =>
        obtain ⟨name, -, rfl⟩ := List.mem_map.1 (List.mem_of_find?_eq_some found)
        rw [Shape.fields, Shape.member?, found]
  cases fits with
  | obj all =>
      simp only [written, Written.read, Option.map_some,
        readNamed_writtenMembers named fun m member => read_written (all m member)]

/-- A text that is written for a value holds what is written, and nothing else. -/
theorem ofChars_write {d : Nat} {j : Json} (fits : Fits d j) :
    Written.ofChars (write j) = some (written j) := by
  obtain ⟨c, cs, begins, visible, -⟩ := (isReadBack fits).begins
  have value :
      Written.readValue (2 * (write j).length + 2) (write j ++ []) = some (written j, []) :=
    readValue_write fits (by omega) (fun _ none => by cases none)
  have start := skipSpace_append begins visible []
  rw [List.append_nil] at start value
  simp only [Written.ofChars, start, value, Option.bind_eq_bind, Option.bind_some]
  rfl

/-- The text of a value is read as the value. -/
theorem parse_compact {j : Json} (fits : Fits depthLimit j) : parse j.compact = some j := by
  rw [parse, parseAs, compact, String.toList_ofList, ofChars_write fits]
  exact read_written fits

/-- The text of a record is read as the record. -/
theorem parseAs_compact {names : List String} {members : List (String × Json)}
    (named : members.map (·.1) = names) (fits : Fits depthLimit (.obj members)) :
    parseAs (.fields names) (compact (.obj members)) = some (.obj members) := by
  subst named
  rw [parseAs, compact, String.toList_ofList, ofChars_write fits]
  exact read_fields_written fits fun _ => List.mem_map_of_mem

end ApprovalFlow.Json
