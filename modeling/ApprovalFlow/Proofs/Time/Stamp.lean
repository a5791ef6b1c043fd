import ApprovalFlow.Proofs.Json.Scalars
import ApprovalFlow.Proofs.Time.Calendar
import ApprovalFlow.Time.Stamp
import Mathlib.Data.List.Induction
import Mathlib.Data.List.TakeWhile

/-!
# Time stamps are read back

A time stamp is written as a row of numbers with a mark behind each, and every number is read up to
its mark. The instants that can be written and read back are the ones that can be read at all:
whatever offset and however many digits a time stamp was read from, the instant is one that is
written in UTC and read back the same.

* `Instant.readDigits_padded`: a number is read up to what follows it.
* `Instant.read_write`: a known instant is read back from what it is written as.
* `Instant.known_of_read`: only known instants are read.
* `Instant.known_of_year`: all instants of the years 0 to 9999 are known.
-/

namespace ApprovalFlow.Instant

open Text

/-! ## Numbers -/

/-- A number of a time stamp ends before these characters. -/
def Stops (rest : List Char) : Prop :=
  ∀ c ∈ rest.head?, Json.isDigit c = false

theorem stops_cons {c : Char} (mark : Json.isDigit c = false) (rest : List Char) :
    Stops (c :: rest) := by
  intro d head
  cases head
  exact mark

variable {width n : Nat} {rest : List Char}

theorem isDigit_of_mem_padded {c : Char} (member : c ∈ padded width n) :
    Json.isDigit c = true := by
  rw [padded, List.mem_append] at member
  rcases member with zero | digit
  · rw [List.eq_of_mem_replicate zero]
    rfl
  · exact Json.isDigit_of_mem_toDigits digit

theorem digitsValue_padded (width n : Nat) : Json.digitsValue (padded width n) = n := by
  rw [padded, Json.digitsValue_eq, Nat.ofDigitChars_append, Nat.ofDigitChars_replicate_zero,
    Nat.mul_zero, Nat.ofDigitChars_ten_toDigits]

theorem length_padded (positive : 0 < width) (small : n < 10 ^ width) :
    (padded width n).length = width := by
  have short := (Nat.length_toDigits_le_iff (by decide) positive).2 small
  simp only [padded, List.length_append, List.length_replicate]
  omega

theorem padded_eq_cons (width n : Nat) :
    ∃ d ds, padded width n = d :: ds ∧ Json.isDigit d = true := by
  obtain ⟨d, ds, digits⟩ := List.exists_cons_of_ne_nil (l := padded width n)
    (List.append_ne_nil_of_right_ne_nil _ Nat.toDigits_ne_nil)
  have first : d ∈ padded width n := by
    rw [digits]
    exact List.mem_cons_self ..
  exact ⟨d, ds, digits, isDigit_of_mem_padded first⟩

theorem takeWhile_eq_nil (stops : Stops rest) (k : Nat) :
    (rest.take k).takeWhile Json.isDigit = [] := by
  cases rest with
  | nil => rw [List.take_nil, List.takeWhile_nil]
  | cons c rest =>
      cases k with
      | zero => rfl
      | succ k => exact List.takeWhile_cons_of_neg (by simp [stops c rfl])

/-- A number is read up to what follows it, however many digits might have been read. -/
theorem readDigits_padded {most : Nat} (fits : (padded width n).length ≤ most)
    (stops : Stops rest) : readDigits most (padded width n ++ rest) = some (n, rest) := by
  have digits : ((padded width n ++ rest).take most).takeWhile Json.isDigit = padded width n := by
    rw [List.take_append, List.take_of_length_le fits,
      List.takeWhile_append_of_pos fun _ => isDigit_of_mem_padded, takeWhile_eq_nil stops,
      List.append_nil]
  obtain ⟨d, ds, first, -⟩ := padded_eq_cons width n
  have some_digit : (padded width n).isEmpty = false := by
    rw [first]
    rfl
  simp only [readDigits, digits, some_digit, digitsValue_padded, List.drop_left,
    Bool.false_eq_true, if_false]

theorem not_isBlank_of_isDigit {c : Char} (digit : Json.isDigit c = true) : ¬ isBlank c = true := by
  simp only [Json.isDigit, Bool.and_eq_true, decide_eq_true_eq, Char.le_def,
    UInt32.le_iff_toNat_le] at digit
  simp only [isBlank, Bool.or_eq_true, Bool.and_eq_true, decide_eq_true_eq, beq_iff_eq, Char.toNat]
  have low : '0'.val.toNat = 48 := rfl
  have high : '9'.val.toNat = 57 := rfl
  omega

theorem trimLeft_padded (width n : Nat) (rest : List Char) :
    trimLeft (padded width n ++ rest) = padded width n ++ rest := by
  obtain ⟨d, ds, digits, first⟩ := padded_eq_cons width n
  rw [digits, List.cons_append, trimLeft_cons_of_not_isBlank (not_isBlank_of_isDigit first)]

theorem readNumberIn_padded {low high : Nat} (positive : 0 < width) (small : n < 10 ^ width)
    (within : low ≤ n ∧ n ≤ high) (stops : Stops rest) :
    readNumberIn low high width (padded width n ++ rest) = some (n, rest) := by
  have number := readDigits_padded (Nat.le_of_eq (length_padded positive small)) stops
  simp only [readNumberIn, trimLeft_padded, number, if_pos within, Option.bind_eq_bind,
    Option.bind_some]

theorem readMark_cons {mark : Char} (visible : ¬ isBlank mark = true) (rest : List Char) :
    readMark mark (mark :: rest) = some rest := by
  simp only [readMark, trimLeft_cons_of_not_isBlank visible, if_true]

/-! ## Years and fractions -/

/-- A sign in front of a year is read together with all its digits. -/
theorem readYear_writeYear (year : Int) (stops : Stops rest) :
    readYear (writeYear year ++ rest) = some (year, rest) := by
  by_cases common : 0 ≤ year ∧ year ≤ 9999
  · obtain ⟨d, ds, digits, first⟩ := padded_eq_cons 4 year.toNat
    have fits : (padded 4 year.toNat).length ≤ 4 :=
      Nat.le_of_eq (length_padded (by decide) (by omega))
    have number := readDigits_padded fits stops
    have same : ((year.toNat : Nat) : Int) = year := Int.toNat_of_nonneg common.1
    rw [writeYear, if_pos common, readYear, trimLeft_padded]
    rw [digits, List.cons_append] at number ⊢
    -- The first digit is no sign.
    split
    · rename_i minus
      rw [(List.cons.inj minus).1] at first
      cases first
    · rename_i plus
      rw [(List.cons.inj plus).1] at first
      cases first
    · simp only [number, same, Option.bind_eq_bind, Option.bind_some, Option.pure_def]
  · have fits : (padded 4 year.natAbs).length ≤ (padded 4 year.natAbs ++ rest).length := by
      rw [List.length_append]
      exact Nat.le_add_right ..
    have number := readDigits_padded fits stops
    rw [writeYear, if_neg common, List.cons_append, readYear]
    by_cases negative : year < 0
    · have same : -((year.natAbs : Nat) : Int) = year := by omega
      rw [if_pos negative, trimLeft_cons_of_not_isBlank (by decide)]
      simp only [number, same, Option.bind_eq_bind, Option.bind_some, Option.pure_def]
    · have same : ((year.natAbs : Nat) : Int) = year := by omega
      rw [if_neg negative, trimLeft_cons_of_not_isBlank (by decide)]
      simp only [number, same, Option.bind_eq_bind, Option.bind_some, Option.pure_def]

/-- A fraction of at most nine digits counts by its place behind the point. -/
theorem readFraction_padded (positive : 0 < width) (few : width ≤ 9) (small : n < 10 ^ width)
    (stops : Stops rest) :
    readFraction ('.' :: padded width n ++ rest) = some (n * 10 ^ (9 - width), rest) := by
  have digits : ∀ c ∈ padded width n, Json.isDigit c = true := fun _ => isDigit_of_mem_padded
  have length := length_padded positive small
  have taken : (padded width n ++ rest).takeWhile Json.isDigit = padded width n := by
    have none := takeWhile_eq_nil stops rest.length
    rw [List.take_length] at none
    rw [List.takeWhile_append_of_pos digits, none, List.append_nil]
  have left : (padded width n ++ rest).dropWhile Json.isDigit = rest := by
    rw [List.dropWhile_append_of_pos digits]
    cases rest with
    | nil => rfl
    | cons c rest => exact List.dropWhile_cons_of_neg (by simp [stops c rfl])
  have some_digit : (padded width n).isEmpty = false := by
    obtain ⟨d, ds, first, -⟩ := padded_eq_cons width n
    rw [first]
    rfl
  rw [List.cons_append]
  simp only [readFraction, taken, left, some_digit, Bool.false_eq_true, if_false,
    List.take_of_length_le (show (padded width n).length ≤ 9 by omega), length,
    digitsValue_padded]
  rfl

theorem readFraction_writeFraction {nano : Nat} (small : nano < nanosPerSecond)
    (stops : Stops rest) (noPoint : rest.head? ≠ some '.') :
    readFraction (writeFraction nano ++ rest) = some (nano, rest) := by
  have billion : nanosPerSecond = 1000000000 := rfl
  unfold writeFraction
  split
  · rename_i whole
    subst whole
    rw [List.nil_append]
    unfold readFraction
    split
    · exact (noPoint rfl).elim
    · rfl
  split
  · rename_i milli
    rw [readFraction_padded (by decide) (by decide) (by omega) stops,
      show 10 ^ (9 - 3) = 1000000 from rfl, Nat.div_mul_cancel (Nat.dvd_of_mod_eq_zero milli)]
  split
  · rename_i micro
    rw [readFraction_padded (by decide) (by decide) (by omega) stops,
      show 10 ^ (9 - 6) = 1000 from rfl, Nat.div_mul_cancel (Nat.dvd_of_mod_eq_zero micro)]
  · rw [readFraction_padded (by decide) (by decide) (by omega) stops, Nat.sub_self, Nat.pow_zero,
      Nat.mul_one]

/-! ## Whole time stamps -/

/-- The day of an instant. -/
def dayOf (t : Instant) : Int :=
  t.second.fdiv secondsPerDay

/-- An instant that has a time stamp: its day has a date, and its fraction is one of its second or,
in the last second of a minute, one of the leap second behind it. -/
structure Known (t : Instant) : Prop where
  day : isKnownDay t.dayOf = true
  fraction : t.nano < nanosPerSecond ∨ t.nano < 2 * nanosPerSecond ∧ t.second % 60 = 59

/-- The time of day. -/
theorem exists_clock (t : Instant) : ∃ clock : Nat, clock < 86400 ∧
    t.second = t.dayOf * 86400 + clock ∧ (t.second - t.dayOf * 86400).toNat = clock := by
  have day : t.dayOf = t.second / 86400 := Date.fdiv_eq _ (by decide)
  rw [day]
  exact ⟨(t.second - t.second / 86400 * 86400).toNat, by omega, by omega, rfl⟩

theorem dayOf_eq (day : Int) (nano : Nat) {clock : Nat} (short : clock < 86400) :
    dayOf ⟨day * 86400 + clock, nano⟩ = day := by
  have whole : dayOf ⟨day * 86400 + clock, nano⟩ = (day * 86400 + clock) / 86400 :=
    Date.fdiv_eq _ (by decide)
  rw [whole]
  omega

theorem stops_writeFraction (nano : Nat) (rest : List Char) :
    Stops (writeFraction nano ++ 'Z' :: rest) := by
  unfold writeFraction
  repeat' split
  all_goals exact stops_cons (by decide) _

/-- The parts of a time stamp are read one after the other. -/
theorem read_parts {date : Date} {hour minute second nano : Nat} (valid : date.valid = true)
    (known : isKnownDay date.toDays = true) (hours : hour ≤ 23) (minutes : minute ≤ 59)
    (seconds : second ≤ 60) (small : nano < nanosPerSecond) :
    read (writeYear date.year ++ '-' :: padded 2 date.month ++ '-' :: padded 2 date.day ++
        'T' :: padded 2 hour ++ ':' :: padded 2 minute ++ ':' :: padded 2 second ++
        writeFraction nano ++ ['Z']) =
      some ⟨date.toDays * 86400 + (hour * 3600 + minute * 60 + min second 59 : Nat),
        nano + if second = 60 then nanosPerSecond else 0⟩ := by
  obtain ⟨⟨⟨first, last⟩, start⟩, finish⟩ : ((1 ≤ date.month ∧ date.month ≤ 12) ∧
      1 ≤ date.day) ∧ date.day ≤ Date.monthLength date.year date.month := by
    simpa only [Date.valid, Bool.and_eq_true, decide_eq_true_eq] using valid
  have longest : Date.monthLength date.year date.month ≤ 31 := by
    unfold Date.monthLength
    repeat' split
    all_goals decide
  have year (rest) : readYear (writeYear date.year ++ '-' :: rest) =
      some (date.year, '-' :: rest) := readYear_writeYear _ (stops_cons (by decide) _)
  have month (rest) : readNumberIn 1 12 2 (padded 2 date.month ++ '-' :: rest) =
      some (date.month, '-' :: rest) :=
    readNumberIn_padded (by decide) (by omega) ⟨first, last⟩ (stops_cons (by decide) _)
  have day (rest) : readNumberIn 1 31 2 (padded 2 date.day ++ 'T' :: rest) =
      some (date.day, 'T' :: rest) :=
    readNumberIn_padded (by decide) (by omega) (by omega) (stops_cons (by decide) _)
  have hour' (rest) : readNumberIn 0 23 2 (padded 2 hour ++ ':' :: rest) =
      some (hour, ':' :: rest) :=
    readNumberIn_padded (by decide) (by omega) (by omega) (stops_cons (by decide) _)
  have minute' (rest) : readNumberIn 0 59 2 (padded 2 minute ++ ':' :: rest) =
      some (minute, ':' :: rest) :=
    readNumberIn_padded (by decide) (by omega) (by omega) (stops_cons (by decide) _)
  have second' : readNumberIn 0 60 2 (padded 2 second ++ (writeFraction nano ++ ['Z'])) =
      some (second, writeFraction nano ++ ['Z']) :=
    readNumberIn_padded (by decide) (by omega) (by omega) (stops_writeFraction nano [])
  have fraction : readFraction (writeFraction nano ++ ['Z']) = some (nano, ['Z']) :=
    readFraction_writeFraction small (stops_cons (by decide) _) (by decide)
  have dash (rest) : readMark '-' ('-' :: rest) = some rest := readMark_cons (by decide) rest
  have colon (rest) : readMark ':' (':' :: rest) = some rest := readMark_cons (by decide) rest
  have utc : readOffset ['Z'] = some (0, []) := rfl
  have clock := dayOf_eq date.toDays nano
    (show hour * 3600 + minute * 60 + min second 59 < 86400 by omega)
  have daylight : secondsPerDay = 86400 := rfl
  simp only [List.append_assoc, List.cons_append]
  unfold read
  dsimp only [Option.bind_eq_bind]
  -- The date comes first: what separates it from the time of day is told apart behind it.
  rw [year, Option.bind_some, dash, Option.bind_some, month, Option.bind_some, dash,
    Option.bind_some, day, Option.bind_some]
  simp only [hour', minute', second', fraction, colon, utc, Option.bind_some, trimLeft,
    List.dropWhile_nil, List.isEmpty_nil, Int.sub_zero, daylight]
  simp only [dayOf, daylight] at clock
  push_cast at clock ⊢
  rw [clock]
  simp only [valid, known, and_self, if_true]

/-- A known instant is read back from what it is written as. -/
theorem read_write {t : Instant} (known : t.Known) : read t.write = some t := by
  obtain ⟨day, fraction⟩ := known
  obtain ⟨clock, short, second, time⟩ := exists_clock t
  have billion : nanosPerSecond = 1000000000 := rfl
  obtain ⟨leap, leaps⟩ : ∃ leap, leap = if t.nano < nanosPerSecond then 0 else 1 := ⟨_, rfl⟩
  have written : t.write =
      writeYear (Date.ofDays t.dayOf).year ++ '-' :: padded 2 (Date.ofDays t.dayOf).month ++
        '-' :: padded 2 (Date.ofDays t.dayOf).day ++ 'T' :: padded 2 (clock / 3600) ++
        ':' :: padded 2 (clock / 60 % 60) ++ ':' :: padded 2 (clock % 60 + leap) ++
        writeFraction (t.nano % nanosPerSecond) ++ ['Z'] := by
    rw [← time, leaps]
    rfl
  have days := Date.toDays_ofDays t.dayOf
  have bounded : leap ≤ 1 := by
    rw [leaps]
    split <;> decide
  have parts := read_parts (Date.valid_ofDays t.dayOf) (by rw [days]; exact day)
    (show clock / 3600 ≤ 23 by omega) (show clock / 60 % 60 ≤ 59 by omega)
    (show clock % 60 + leap ≤ 60 by omega) (Nat.mod_lt t.nano (show 0 < nanosPerSecond by decide))
  rw [written, parts, days]
  refine Option.some_inj.2 (?_ : _ = Instant.mk t.second t.nano)
  rw [Instant.mk.injEq]
  by_cases small : t.nano < nanosPerSecond
  · rw [if_pos small] at leaps
    rw [if_neg (by omega), billion]
    omega
  · rw [if_neg small] at leaps
    rw [if_pos (by omega), billion]
    omega

/-! ## What is read -/

theorem digitsValue_lt {ds : List Char} (digits : ∀ c ∈ ds, Json.isDigit c = true) :
    Json.digitsValue ds < 10 ^ ds.length := by
  induction ds using List.reverseRecOn with
  | nil => decide
  | append_singleton ds c ih =>
      have more := ih fun d member => digits d (List.mem_append_left _ member)
      have last := digits c (List.mem_append_right _ (List.mem_singleton_self c))
      simp only [Json.isDigit, Bool.and_eq_true, decide_eq_true_eq, Char.le_def,
        UInt32.le_iff_toNat_le] at last
      have nine : '9'.val.toNat = 57 := rfl
      have zero : '0'.toNat = 48 := rfl
      rw [Json.digitsValue] at more
      rw [Json.digitsValue, List.foldl_append, List.length_append, List.length_singleton,
        Nat.pow_succ, List.foldl_cons, List.foldl_nil, Json.digitValue, Char.toNat]
      omega

theorem readFraction_lt {cs rest : List Char} {nano : Nat}
    (fraction : readFraction cs = some (nano, rest)) : nano < nanosPerSecond := by
  unfold readFraction at fraction
  split at fraction
  · rename_i cs
    obtain ⟨kept, taken⟩ : ∃ kept, kept = (cs.takeWhile Json.isDigit).take 9 := ⟨_, rfl⟩
    have few : kept.length ≤ 9 := by
      rw [taken]
      exact List.length_take_le ..
    have small : Json.digitsValue kept < 10 ^ kept.length :=
      digitsValue_lt fun c member =>
        List.mem_takeWhile_imp (List.mem_of_mem_take (taken ▸ member))
    dsimp only at fraction
    rw [← taken] at fraction
    split at fraction
    · cases fraction
    · cases fraction
      calc Json.digitsValue kept * 10 ^ (9 - kept.length)
          < 10 ^ kept.length * 10 ^ (9 - kept.length) :=
            Nat.mul_lt_mul_of_pos_right small (Nat.pow_pos (by decide))
        _ = nanosPerSecond := by
            rw [← Nat.pow_add, Nat.add_sub_cancel' few]
            rfl
  · cases fraction
    decide

theorem readOffsetDigits_mod {cs rest : List Char} {offset : Int}
    (digits : readOffsetDigits cs = some (offset, rest)) : offset % 60 = 0 := by
  unfold readOffsetDigits at digits
  dsimp only at digits
  repeat' split at digits
  all_goals cases digits
  omega

/-- An offset is a number of minutes. -/
theorem readOffset_mod {cs rest : List Char} {offset : Int}
    (read : readOffset cs = some (offset, rest)) : offset % 60 = 0 := by
  unfold readOffset at read
  split at read
  case h_1 | h_2 =>
    cases read
    rfl
  case h_3 => exact readOffsetDigits_mod read
  case h_4 | h_5 =>
    obtain ⟨⟨n, cs⟩, digits, same⟩ := Option.bind_eq_some_iff.1 read
    have minutes := readOffsetDigits_mod digits
    cases same
    omega
  case h_6 =>
    split at read
    · cases read
      rfl
    · cases read
  case h_7 => cases read

/-- Whatever the offset, a leap second is behind the last second of a minute. -/
theorem fraction_of_parts (days : Int) (hour minute second : Nat) {nano : Nat} {offset : Int}
    (small : nano < nanosPerSecond) (minutes : offset % 60 = 0) :
    nano + (if second = 60 then nanosPerSecond else 0) < nanosPerSecond ∨
      nano + (if second = 60 then nanosPerSecond else 0) < 2 * nanosPerSecond ∧
        (days * secondsPerDay + (hour * 3600 + minute * 60 + (min second 59 : Nat)) - offset) % 60 =
          59 := by
  have daylight : secondsPerDay = 86400 := rfl
  rw [daylight]
  by_cases leap : second = 60
  · rw [if_pos leap]
    omega
  · rw [if_neg leap]
    exact Or.inl small

/-- Only known instants are read. -/
theorem known_of_read {cs : List Char} {t : Instant} (read : read cs = some t) : t.Known := by
  unfold Instant.read at read
  dsimp only [Option.bind_eq_bind] at read
  obtain ⟨⟨year, cs⟩, -, read⟩ := Option.bind_eq_some_iff.1 read
  obtain ⟨cs, -, read⟩ := Option.bind_eq_some_iff.1 read
  obtain ⟨⟨month, cs⟩, -, read⟩ := Option.bind_eq_some_iff.1 read
  obtain ⟨cs, -, read⟩ := Option.bind_eq_some_iff.1 read
  obtain ⟨⟨day, cs⟩, -, read⟩ := Option.bind_eq_some_iff.1 read
  split at read
  case h_4 => cases read
  all_goals
    rw [Option.bind_some] at read
    obtain ⟨⟨hour, cs⟩, -, read⟩ := Option.bind_eq_some_iff.1 read
    obtain ⟨cs, -, read⟩ := Option.bind_eq_some_iff.1 read
    obtain ⟨⟨minute, cs⟩, -, read⟩ := Option.bind_eq_some_iff.1 read
    obtain ⟨cs, -, read⟩ := Option.bind_eq_some_iff.1 read
    obtain ⟨⟨second, cs⟩, -, read⟩ := Option.bind_eq_some_iff.1 read
    obtain ⟨⟨nano, cs⟩, fraction, read⟩ := Option.bind_eq_some_iff.1 read
    obtain ⟨⟨offset, cs⟩, zone, read⟩ := Option.bind_eq_some_iff.1 read
    have small := readFraction_lt fraction
    have minutes := readOffset_mod zone
    split at read
    case isFalse => cases read
    case isTrue parts =>
      obtain ⟨-, -, known, -⟩ := parts
      cases read
      exact ⟨known, fraction_of_parts _ hour minute second small minutes⟩

/-- All instants of the years 0 to 9999 are known. -/
theorem known_of_year {t : Instant} (low : 0 ≤ (Date.ofDays t.dayOf).year)
    (high : (Date.ofDays t.dayOf).year ≤ 9999) (fraction : t.nano < nanosPerSecond) : t.Known := by
  obtain ⟨era, day, y, c, q, a, d, passed, sum⟩ := Date.exists_era t.dayOf
  obtain ⟨first, last⟩ := passed.bounds
  rw [sum, Date.ofDays_of_passed era passed] at low high
  obtain ⟨_, year, hc, hq, ha, hd, leapDay⟩ := passed
  have following : (Date.ofYearDay (y + era * 400) d).year = y + era * 400 ∨
      (Date.ofYearDay (y + era * 400) d).year = y + era * 400 + 1 := by
    unfold Date.ofYearDay
    exact (ite_eq_or_eq _ _ _).symm
  refine ⟨?_, Or.inl fraction⟩
  have before : firstDay = -96465292 := rfl
  have after : lastDay = 95026236 := rfl
  rw [isKnownDay, Bool.and_eq_true, decide_eq_true_eq, decide_eq_true_eq, before, after, sum]
  omega

end ApprovalFlow.Instant
