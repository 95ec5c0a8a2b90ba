/-
This file proves that every day number is that of an existing date: the date of a day number has the
same day number, its month has that many days, and only the year may be too far away to be stored.
-/

import WorkflowEngine.Time.Calendar
import Mathlib.Tactic.IntervalCases

namespace WorkflowEngine.Time.Date

/-- Only the last century and the last year of a span may be a day longer. -/
structure DayPlace (dayOfEra century span year day : Int) : Prop where
  placed : dayOfEra = 36524 * century + 1461 * span + 365 * year + day
  centuries : 0 ≤ century ∧ century ≤ 3
  spans : 0 ≤ span ∧ span ≤ 24
  years : 0 ≤ year ∧ year ≤ 3
  days : 0 ≤ day ∧ (day ≤ 364 ∨ day = 365 ∧ year = 3 ∧ (span < 24 ∨ century = 3))

theorem exists_dayPlace (dayOfEra : Int) (first : 0 ≤ dayOfEra) (last : dayOfEra ≤ 146096) :
    ∃ century span year day, DayPlace dayOfEra century span year day := by
  obtain ⟨century, rest, inEra, centuries, inCentury⟩ : ∃ century rest,
      dayOfEra = 36524 * century + rest ∧ (0 ≤ century ∧ century ≤ 3) ∧
      0 ≤ rest ∧ (rest ≤ 36523 ∨ century = 3 ∧ rest = 36524) :=
    ⟨min 3 (dayOfEra / 36524), dayOfEra - 36524 * min 3 (dayOfEra / 36524), by omega⟩
  obtain ⟨year, day, inSpan, years, days⟩ : ∃ year day,
      rest % 1461 = 365 * year + day ∧ (0 ≤ year ∧ year ≤ 3) ∧
      0 ≤ day ∧ (day ≤ 364 ∨ day = 365 ∧ year = 3) :=
    ⟨min 3 (rest % 1461 / 365), rest % 1461 - 365 * min 3 (rest % 1461 / 365), by omega⟩
  exact ⟨century, rest / 1461, year, day, by omega, centuries, by omega, years, by omega⟩

namespace DayPlace

variable {dayOfEra century span year day : Int}

/-- The corrections for leap days lead to the year of the place. -/
theorem yearOfEra (place : DayPlace dayOfEra century span year day) :
    (dayOfEra - dayOfEra / 1460 + dayOfEra / 36524 - dayOfEra / 146096) / 365 =
      100 * century + 4 * span + year := by
  obtain ⟨placed, centuries, spans, years, days⟩ := place
  have whole : dayOfEra / 36524 - dayOfEra / 146096 = century := by
    obtain ⟨rest, inCentury, short⟩ : ∃ rest, dayOfEra = 36524 * century + rest ∧
        0 ≤ rest ∧ (rest ≤ 36523 ∨ century = 3 ∧ rest = 36524) :=
      ⟨1461 * span + 365 * year + day, by omega, by omega⟩
    clear placed
    omega
  have leaps : dayOfEra / 1460 =
      25 * century + span + (24 * century + span + 365 * year + day) / 1460 := by
    omega
  omega

/-- The days before a year of an era leave the day of the place. -/
theorem dayOfYear (place : DayPlace dayOfEra century span year day) :
    let yearOfEra := 100 * century + 4 * span + year
    dayOfEra - (365 * yearOfEra + yearOfEra / 4 - yearOfEra / 100) = day := by
  obtain ⟨placed, centuries, spans, years, days⟩ := place
  omega

end DayPlace

/-- A day number is a place in an era. -/
theorem exists_era (days : Int) : ∃ era century span year day,
    days + 719468 = era * 146097 + (days + 719468) % 146097 ∧
    era = (days + 719468) / 146097 ∧
    DayPlace ((days + 719468) % 146097) century span year day := by
  obtain ⟨century, span, year, day, place⟩ :=
    exists_dayPlace ((days + 719468) % 146097) (by omega) (by omega)
  exact ⟨_, century, span, year, day, by omega, rfl, place⟩

/-- A year that begins in March has twelve months, and a month has at least one day. -/
theorem month_bounds (day : Int) (first : 0 ≤ day) (last : day ≤ 365) :
    (0 ≤ (5 * day + 2) / 153 ∧ (5 * day + 2) / 153 ≤ 11) ∧
    1 ≤ day - (153 * ((5 * day + 2) / 153) + 2) / 5 + 1 := by
  omega

section

variable {days era century span year day : Int}

/-- Years, months and days are counted from March on. -/
def ofPlace (era century span year day : Int) : Date :=
  let month := (5 * day + 2) / 153
  let calendarMonth := if month < 10 then month + 3 else month - 9
  ⟨100 * century + 4 * span + year + era * 400 + (if calendarMonth ≤ 2 then 1 else 0),
    calendarMonth.toNat, (day - (153 * month + 2) / 5 + 1).toNat⟩

theorem ofDays_place (inEra : era = (days + 719468) / 146097)
    (place : DayPlace ((days + 719468) % 146097) century span year day) :
    ofDays days = ofPlace era century span year day := by
  unfold ofDays ofPlace
  dsimp only
  rw [place.yearOfEra, place.dayOfYear, inEra]

/-- The date of a place has the day number of the place. -/
theorem toDays_ofPlace {dayOfEra : Int} (era : Int)
    (place : DayPlace dayOfEra century span year day) :
    (ofPlace era century span year day).toDays = era * 146097 + dayOfEra - 719468 := by
  obtain ⟨placed, centuries, spans, years, days⟩ := place
  obtain ⟨months, firstDay⟩ := month_bounds day (by omega) (by omega)
  unfold ofPlace toDays
  generalize (5 * day + 2) / 153 = month at months firstDay ⊢
  have yearOfEra : (100 * century + 4 * span + year + era * 400) / 400 = era ∧
      (100 * century + 4 * span + year + era * 400) % 400 = 100 * century + 4 * span + year := by
    omega
  by_cases sameYear : month < 10
  · have calendarMonth : ¬ (month + 3).toNat ≤ 2 := by omega
    have late : ¬ month + 3 ≤ 2 := by omega
    simp only [if_pos sameYear, if_neg calendarMonth, if_neg late, add_zero, yearOfEra]
    rw [if_pos (by omega)]
    omega
  · have calendarMonth : (month - 9).toNat ≤ 2 := by omega
    have early : month - 9 ≤ 2 := by omega
    simp only [if_neg sameYear, if_pos calendarMonth, if_pos early, add_sub_cancel_right, yearOfEra]
    rw [if_neg (by omega)]
    omega

end

/-- The date of a day number has that day number. -/
theorem toDays_ofDays (days : Int) : (ofDays days).toDays = days := by
  obtain ⟨era, century, span, year, day, total, inEra, place⟩ := exists_era days
  rw [ofDays_place inEra place, toDays_ofPlace era place]
  omega

theorem monthLength_le (year : Int) (month : Nat) : monthLength year month ≤ 31 := by
  unfold monthLength
  split
  · split <;> decide
  · split <;> decide

/-- The last year of a span ends in a leap day, with one exception a century. -/
theorem isLeapYear_last {century span : Int} (era : Int) (spans : 0 ≤ span ∧ span ≤ 24)
    (long : span < 24 ∨ century = 3) :
    isLeapYear (100 * century + 4 * span + 3 + era * 400 + 1) = true := by
  unfold isLeapYear
  simp only [Bool.and_eq_true, Bool.or_eq_true, decide_eq_true_eq]
  omega

/-- The month of the date of a day number has that day. -/
theorem ofDays_exists (days : Int) : (1 ≤ (ofDays days).month ∧ (ofDays days).month ≤ 12) ∧
    1 ≤ (ofDays days).day ∧
    (ofDays days).day ≤ monthLength (ofDays days).year (ofDays days).month := by
  obtain ⟨era, century, span, year, day, total, inEra, place⟩ := exists_era days
  rw [ofDays_place inEra place]
  obtain ⟨placed, centuries, spans, years, days⟩ := place
  obtain ⟨months, firstDay⟩ := month_bounds day (by omega) (by omega)
  have inMonth : 153 * ((5 * day + 2) / 153) ≤ 5 * day + 2 ∧
      5 * day + 2 < 153 * ((5 * day + 2) / 153) + 153 := by omega
  unfold ofPlace
  dsimp only
  generalize (5 * day + 2) / 153 = month at months firstDay inMonth ⊢
  by_cases february : month = 11
  · subst february
    by_cases leap : day = 365
    · obtain ⟨lastYear, long⟩ : year = 3 ∧ (span < 24 ∨ century = 3) := by omega
      have leapYear := isLeapYear_last era spans long
      subst lastYear leap
      simp [monthLength, leapYear]
    · have short : 28 ≤ monthLength (100 * century + 4 * span + year + era * 400 + 1) 2 := by
        unfold monthLength
        split
        · split <;> decide
        · contradiction
      change (1 ≤ 2 ∧ 2 ≤ 12) ∧ 1 ≤ (day - 337 + 1).toNat ∧ (day - 337 + 1).toNat ≤
        monthLength (100 * century + 4 * span + year + era * 400 + 1) 2
      omega
  · obtain ⟨firstMonth, lastMonth⟩ := months
    interval_cases month
    all_goals first
      | contradiction
      | simp [monthLength]
    all_goals omega

end WorkflowEngine.Time.Date
