import ApprovalFlow.Time.Instant
import Mathlib.Tactic.IntervalCases

/-!
# Days and dates

A day is told by its date: every day has a date that is on the calendar, and counting the days up to
that date gives the day again. Both follow from what is over of the era that the day is in. An era
of 400 years begins in March, so the leap day is the last of a year, of a span of four years, and of
the era.

* `Date.exists_passed`: what is over of an era.
* `Date.ofDays_of_passed`: the year of a day, and the day of that year.
* `Date.toDays_ofDays` and `Date.valid_ofDays`: the date of a day.
-/

namespace ApprovalFlow.Date

/-! ## What is over of an era -/

/-- A day of an era comes after that many centuries, spans of four years, years and days, and is in
the year of the era that they make. -/
structure Passed (day year centuries spans years days : Int) : Prop where
  sum : day = 36524 * centuries + 1461 * spans + 365 * years + days
  year : year = 100 * centuries + 4 * spans + years
  fewCenturies : 0 ≤ centuries ∧ centuries ≤ 3
  fewSpans : 0 ≤ spans ∧ spans ≤ 24
  fewYears : 0 ≤ years ∧ years ≤ 3
  fewDays : 0 ≤ days ∧ days ≤ 365
  /-- A leap day ends a span of years, and the last span of a century only if it ends the era. -/
  leapDay : days = 365 → years = 3 ∧ (spans = 24 → centuries = 3)

theorem exists_passed {day : Int} (low : 0 ≤ day) (high : day ≤ 146096) :
    ∃ y c q a d, Passed day y c q a d := by
  obtain ⟨c, centuries⟩ : ∃ c, c = min (day / 36524) 3 := ⟨_, rfl⟩
  obtain ⟨q, spans⟩ : ∃ q, q = min ((day - 36524 * c) / 1461) 24 := ⟨_, rfl⟩
  obtain ⟨a, years⟩ : ∃ a, a = min ((day - 36524 * c - 1461 * q) / 365) 3 := ⟨_, rfl⟩
  refine ⟨100 * c + 4 * q + a, c, q, a, day - 36524 * c - 1461 * q - 365 * a, ?_⟩
  exact ⟨by omega, rfl, by omega, by omega, by omega, by omega, by omega⟩

variable {day y c q a d : Int}

/-- The year of a day of an era: leap days are taken out first, so that all years are alike. -/
theorem Passed.year_eq (passed : Passed day y c q a d) :
    (day - day / 1460 + day / 36524 - day / 146096) / 365 = y := by
  obtain ⟨sum, year, hc, hq, ha, hd, leapDay⟩ := passed
  by_cases last : d = 365
  · obtain ⟨rfl, ends⟩ := leapDay last
    have spans : day / 1460 = 25 * c + q + 1 := by omega
    by_cases century : q = 24
    · have era := ends century
      omega
    · have centuries : day / 36524 = c := by omega
      have eras : day / 146096 = 0 := by omega
      rw [spans, centuries, eras]
      omega
  · have centuries : day / 36524 = c := by omega
    have eras : day / 146096 = 0 := by omega
    rw [centuries, eras]
    -- The days without leap days run ahead of the spans by the time the fourth year ends.
    by_cases late : 1460 ≤ 24 * c + q + 365 * a + d
    · have spans : day / 1460 = 25 * c + q + 1 := by omega
      rw [spans]
      omega
    · have spans : day / 1460 = 25 * c + q := by omega
      rw [spans]
      omega

theorem Passed.bounds (passed : Passed day y c q a d) : 0 ≤ day ∧ day ≤ 146096 := by
  obtain ⟨sum, year, hc, hq, ha, hd, leapDay⟩ := passed
  omega

/-- The days before a year of an era. -/
theorem Passed.day_eq (passed : Passed day y c q a d) :
    y * 365 + y / 4 - y / 100 + d = day := by
  obtain ⟨sum, year, hc, hq, ha, hd, leapDay⟩ := passed
  have spans : y / 4 = 25 * c + q := by omega
  have centuries : y / 100 = c := by omega
  rw [spans, centuries]
  omega

theorem Passed.era_eq (passed : Passed day y c q a d) (era : Int) :
    (y + era * 400) / 400 = era := by
  obtain ⟨sum, year, hc, hq, ha, hd, leapDay⟩ := passed
  omega

/-- A leap day is the last of February of a leap year. -/
theorem Passed.isLeapYear (passed : Passed day y c q a d) (last : d = 365) (era : Int) :
    isLeapYear (y + era * 400 + 1) = true := by
  obtain ⟨sum, year, hc, hq, ha, hd, leapDay⟩ := passed
  obtain ⟨rfl, ends⟩ := leapDay last
  simp only [Date.isLeapYear, Bool.and_eq_true, Bool.or_eq_true, beq_iff_eq, bne_iff_ne, ne_eq]
  omega

/-! ## Years that begin in March -/

/-- The date of a day of a year that begins in March. -/
def ofYearDay (year day : Int) : Date :=
  let monthFromMarch := (5 * day + 2) / 153
  let month := if monthFromMarch < 10 then monthFromMarch + 3 else monthFromMarch - 9
  ⟨if month ≤ 2 then year + 1 else year, month.toNat,
    (day - (153 * monthFromMarch + 2) / 5 + 1).toNat⟩

/-- The months from March are twelve. -/
theorem exists_monthFromMarch (low : 0 ≤ d) (high : d ≤ 365) :
    ∃ m, m = (5 * d + 2) / 153 ∧ 0 ≤ m ∧ m ≤ 11 :=
  ⟨_, rfl, by omega, by omega⟩

/-- The year that begins in March, its month and its day are read off the date. -/
theorem parts_ofYearDay (year : Int) (low : 0 ≤ d) (high : d ≤ 365) :
    (if (ofYearDay year d).month ≤ 2 then (ofYearDay year d).year - 1
        else (ofYearDay year d).year) = year ∧
      (if (ofYearDay year d).month > 2 then ((ofYearDay year d).month : Int) - 3
        else (ofYearDay year d).month + 9) = (5 * d + 2) / 153 ∧
      (153 * ((5 * d + 2) / 153) + 2) / 5 + ((ofYearDay year d).day : Int) - 1 = d := by
  obtain ⟨m, month, first, last⟩ := exists_monthFromMarch low high
  simp only [ofYearDay, ← month]
  refine ⟨?_, ?_, by omega⟩
  · interval_cases m <;> simp
  · interval_cases m <;> simp

theorem fdiv_eq {k : Int} (n : Int) (positive : 0 ≤ k) : n.fdiv k = n / k :=
  Int.fdiv_eq_ediv_of_nonneg n positive

theorem toDays_ofYearDay (era : Int) (passed : Passed day y c q a d) :
    (ofYearDay (y + era * 400) d).toDays = era * 146097 + day - 719468 := by
  have eras := passed.era_eq era
  have count := passed.day_eq
  obtain ⟨low, high⟩ := passed.fewDays
  obtain ⟨year, month, days⟩ := parts_ofYearDay (y + era * 400) low high
  simp only [toDays, year, month, fdiv_eq _ (show (0 : Int) ≤ 400 by decide),
    fdiv_eq _ (show (0 : Int) ≤ 4 by decide), fdiv_eq _ (show (0 : Int) ≤ 100 by decide),
    fdiv_eq _ (show (0 : Int) ≤ 5 by decide), days, eras, Int.add_sub_cancel, count]

theorem valid_ofYearDay (era : Int) (passed : Passed day y c q a d) :
    (ofYearDay (y + era * 400) d).valid = true := by
  have leapYear := fun last => passed.isLeapYear last era
  obtain ⟨low, high⟩ := passed.fewDays
  obtain ⟨m, month, first, last⟩ := exists_monthFromMarch low high
  simp only [valid, ofYearDay, ← month]
  interval_cases m
  case «11» =>
      -- February has its leap day in leap years only.
      simp only [monthLength]
      cases leap : isLeapYear (y + era * 400 + 1) with
      | true => simp [leap]; omega
      | false =>
          have short : d ≠ 365 := fun long => by simp [leapYear long] at leap
          simp [leap]
          omega
  all_goals
    simp [monthLength]
    omega

/-! ## Days -/

theorem ofDays_of_passed (era : Int) (passed : Passed day y c q a d) :
    ofDays (era * 146097 + day - 719468) = ofYearDay (y + era * 400) d := by
  have days : day - (365 * y + y / 4 - y / 100) = d := by
    have count := passed.day_eq
    omega
  have eras : (era * 146097 + day - 719468 + 719468) / 146097 = era := by
    obtain ⟨low, high⟩ := passed.bounds
    omega
  have rest : era * 146097 + day - 719468 + 719468 - era * 146097 = day := by omega
  simp only [ofDays, ofYearDay, fdiv_eq _ (show (0 : Int) ≤ 146097 by decide),
    fdiv_eq _ (show (0 : Int) ≤ 1460 by decide), fdiv_eq _ (show (0 : Int) ≤ 36524 by decide),
    fdiv_eq _ (show (0 : Int) ≤ 146096 by decide), fdiv_eq _ (show (0 : Int) ≤ 365 by decide),
    fdiv_eq _ (show (0 : Int) ≤ 4 by decide), fdiv_eq _ (show (0 : Int) ≤ 100 by decide),
    fdiv_eq _ (show (0 : Int) ≤ 153 by decide), fdiv_eq _ (show (0 : Int) ≤ 5 by decide),
    eras, rest, passed.year_eq, days]

/-- Every day is in an era. -/
theorem exists_era (n : Int) : ∃ era day y c q a d, Passed day y c q a d ∧
    n = era * 146097 + day - 719468 := by
  have low : 0 ≤ (n + 719468) % 146097 := by omega
  have high : (n + 719468) % 146097 ≤ 146096 := by omega
  obtain ⟨y, c, q, a, d, passed⟩ := exists_passed low high
  exact ⟨(n + 719468) / 146097, _, y, c, q, a, d, passed, by omega⟩

/-- Counting the days up to the date of a day gives the day. -/
theorem toDays_ofDays (n : Int) : (ofDays n).toDays = n := by
  obtain ⟨era, day, y, c, q, a, d, passed, rfl⟩ := exists_era n
  rw [ofDays_of_passed era passed, toDays_ofYearDay era passed]

/-- The date of a day is on the calendar. -/
theorem valid_ofDays (n : Int) : (ofDays n).valid = true := by
  obtain ⟨era, day, y, c, q, a, d, passed, rfl⟩ := exists_era n
  rw [ofDays_of_passed era passed]
  exact valid_ofYearDay era passed

end ApprovalFlow.Date
