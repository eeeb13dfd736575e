import Mathlib.Data.Int.Basic
import Logbook.Calendar.Date

/-!
# The calendar

A date is computed from its day by divisions that count eras, years and months from the first of
March. This module says what they amount to.

* `Date.next`: the date after a date, by the lengths of months alone.
* `yearStart`, `exists_year`, `yearOfEra_eq`: the years that begin in March, each with its days, and
  that the divisions find them.
* `Date.ofDay_zero`, `Date.ofDay_add_one`: the day 0 is the first of January 1970, and a day is
  followed by the next date; so each day has the date that the calendar gives it.
* `Date.toDay_ofDay`: the day of a date is found again; so no two days have one date.
-/

set_option autoImplicit false

namespace Logbook

/-- The date after a date. -/
def Date.next (date : Date) : Date :=
  if date.day < daysInMonth date.year date.month then { date with day := date.day + 1 }
  else if date.month < 12 then ⟨date.year, date.month + 1, 1⟩
  else ⟨date.year + 1, 1, 1⟩

namespace Date

theorem next_of_lt {date : Date} (h : date.day < daysInMonth date.year date.month) :
    date.next = ⟨date.year, date.month, date.day + 1⟩ :=
  if_pos h

theorem next_of_last {date : Date} (h : ¬date.day < daysInMonth date.year date.month)
    (hmonth : date.month < 12) : date.next = ⟨date.year, date.month + 1, 1⟩ :=
  (if_neg h).trans (if_pos hmonth)

theorem next_of_december {date : Date} (h : ¬date.day < daysInMonth date.year date.month)
    (hmonth : date.month = 12) : date.next = ⟨date.year + 1, 1, 1⟩ :=
  (if_neg h).trans (if_neg (by omega))

end Date

/-! ## Years from March to February -/

/-- The days from the first of March of the year 0 to that of another year. -/
def yearStart (year : Int) : Int := 365 * year + year / 4 - year / 100 + year / 400

/-- A year from March to February has a leap day where the next year is a leap year. -/
theorem yearStart_add_one (year : Int) :
    yearStart (year + 1) = yearStart year + 365 + (if isLeapYear (year + 1) then 1 else 0) := by
  simp only [yearStart, isLeapYear, Bool.and_eq_true, Bool.or_eq_true, decide_eq_true_eq,
    bne_iff_ne, ne_eq]
  split <;> omega

/-- A year has 365 or 366 days. -/
theorem yearStart_bounds (year : Int) :
    yearStart year + 365 ≤ yearStart (year + 1) ∧ yearStart (year + 1) ≤ yearStart year + 366 := by
  rw [yearStart_add_one]
  split <;> omega

theorem yearStart_add_era (year era : Int) :
    yearStart (year + era * 400) = yearStart year + era * daysPerEra := by
  simp only [yearStart, daysPerEra]
  omega

/-- The year of an era to which a day of the era belongs, as `Date.ofDay` computes it. -/
def yearOfEra (day : Int) : Int := (day - day / 1460 + day / 36524 - day / 146096) / 365

/-- The year that is computed is the one whose days the day is among. -/
theorem yearOfEra_eq {day year : Int} (hnonneg : 0 ≤ year) (hera : year < 400)
    (hstart : yearStart year ≤ day) (hstop : day < yearStart (year + 1)) :
    yearOfEra day = year := by
  simp only [yearStart, yearOfEra] at *
  -- the year by centuries, by fours within the century and by ones
  obtain ⟨c, q, r, hc, hq, hr, rfl⟩ : ∃ c q r : Int, (0 ≤ c ∧ c ≤ 3) ∧ (0 ≤ q ∧ q ≤ 24) ∧
      (0 ≤ r ∧ r ≤ 3) ∧ year = 100 * c + 4 * q + r :=
    ⟨year / 100, year % 100 / 4, year % 4, by omega, by omega, by omega, by omega⟩
  have h4 : (100 * c + 4 * q + r) / 4 = 25 * c + q := by omega
  have h100 : (100 * c + 4 * q + r) / 100 = c := by omega
  have h400 : (100 * c + 4 * q + r) / 400 = 0 := by omega
  rw [h4, h100, h400] at hstart
  -- only the last of four years has a 366th day, and not in the last four years of a century
  have hday : day - (36524 * c + 1461 * q + 365 * r) < 365 ∨
      (day - (36524 * c + 1461 * q + 365 * r) = 365 ∧ r = 3 ∧ (q < 24 ∨ c = 3)) := by
    omega
  clear hstop h4 h100 h400
  have hcentury : day < 36524 * (c + 1) ∨ (c = 3 ∧ day = 146096) := by omega
  have hcenturies : day / 36524 - day / 146096 = c := by
    rcases hcentury with hlt | ⟨rfl, rfl⟩
    · omega
    · decide
  have hfours : day / 1460 = 25 * c + q ∨ (day / 1460 = 25 * c + q + 1 ∧
      1460 ≤ 25 * c + q + (day - (36524 * c + 1461 * q))) := by
    omega
  omega

/-- Every day is among the days of a year. -/
theorem exists_year (day : Int) : ∃ year, yearStart year ≤ day ∧ day < yearStart (year + 1) := by
  induction day using Int.induction_on with
  | zero => exact ⟨0, by decide, by decide⟩
  | succ day ih =>
    obtain ⟨year, hstart, hstop⟩ := ih
    by_cases hin : (day : Int) + 1 < yearStart (year + 1)
    · exact ⟨year, by omega, hin⟩
    · obtain ⟨hlong, -⟩ := yearStart_bounds (year + 1)
      exact ⟨year + 1, by omega, by omega⟩
  | pred day ih =>
    obtain ⟨year, hstart, hstop⟩ := ih
    by_cases hin : yearStart year ≤ -(day : Int) - 1
    · exact ⟨year, hin, by omega⟩
    · obtain ⟨hlong, -⟩ := yearStart_bounds (year - 1)
      rw [Int.sub_add_cancel] at hlong
      exact ⟨year - 1, by omega, by rw [Int.sub_add_cancel]; omega⟩

/-! ## Dates of a year -/

namespace Date

/-- The date of a day of a year that begins in March, the first of March being the day 0. -/
def ofMarch (year day : Int) : Date :=
  let monthOfYear := (5 * day + 2) / 153
  let month := if monthOfYear < 10 then monthOfYear + 3 else monthOfYear - 9
  { year := year + (if month ≤ 2 then 1 else 0)
    month := month.toNat
    day := (day - (153 * monthOfYear + 2) / 5 + 1).toNat }

/-- The date of a day is the date in the year to which the day belongs. -/
theorem ofDay_eq_ofMarch {year day : Int} (hstart : yearStart year ≤ day + marchEpoch)
    (hstop : day + marchEpoch < yearStart (year + 1)) :
    ofDay day = ofMarch year (day + marchEpoch - yearStart year) := by
  obtain ⟨first, era, hfirst, rfl⟩ : ∃ first era : Int, (0 ≤ first ∧ first < 400) ∧
      year = first + era * 400 := ⟨year % 400, year / 400, by omega, by omega⟩
  rw [show first + era * 400 + 1 = first + 1 + era * 400 by omega] at hstop
  rw [yearStart_add_era] at hstart hstop
  have hfrom : 0 ≤ yearStart first := by
    simp only [yearStart]
    omega
  have hto : yearStart (first + 1) ≤ daysPerEra := by
    simp only [yearStart, daysPerEra]
    omega
  have hera : (day + marchEpoch) / daysPerEra = era := by
    simp only [daysPerEra] at *
    omega
  have hday : (day + marchEpoch) % daysPerEra = day + marchEpoch - era * daysPerEra := by
    simp only [daysPerEra] at *
    omega
  have hyear : yearOfEra (day + marchEpoch - era * daysPerEra) = first :=
    yearOfEra_eq hfirst.1 hfirst.2 (by omega) (by omega)
  have hrest : day + marchEpoch - era * daysPerEra - (365 * first + first / 4 - first / 100) =
      day + marchEpoch - yearStart (first + era * 400) := by
    rw [yearStart_add_era, yearStart]
    omega
  simp only [yearOfEra] at hyear
  simp only [ofDay, ofMarch, hera, hday, hyear, hrest]

/-- The lengths of the months, counted from March: each runs from one multiple of 30.6 days to the
next, but the last ends with the year. -/
theorem daysInMonth_ofMarch {year day month : Int} (hmonth : (5 * day + 2) / 153 = month)
    (hnonneg : 0 ≤ month) (hle : month ≤ 11) :
    (daysInMonth (ofMarch year day).year (ofMarch year day).month : Int) =
      min ((153 * (month + 1) + 2) / 5) (yearStart (year + 1) - yearStart year) -
        (153 * month + 2) / 5 := by
  obtain ⟨hlong, hshort⟩ := yearStart_bounds year
  simp only [ofMarch, hmonth]
  by_cases hlast : month = 11
  · subst hlast
    rw [Int.min_eq_right (by omega), yearStart_add_one]
    show ((if isLeapYear (year + 1) then 29 else 28 : Nat) : Int) = _
    split <;> omega
  · rw [Int.min_eq_left (by omega)]
    obtain rfl | rfl | rfl | rfl | rfl | rfl | rfl | rfl | rfl | rfl | rfl : month = 0 ∨
        month = 1 ∨ month = 2 ∨ month = 3 ∨ month = 4 ∨ month = 5 ∨ month = 6 ∨ month = 7 ∨
        month = 8 ∨ month = 9 ∨ month = 10 := by omega
    all_goals rfl

theorem day_ofMarch {year day month : Int} (hmonth : (5 * day + 2) / 153 = month) :
    (ofMarch year day).day = (day - (153 * month + 2) / 5 + 1).toNat := by
  simp only [ofMarch, hmonth]

theorem month_ofMarch {year day month : Int} (hmonth : (5 * day + 2) / 153 = month) :
    (ofMarch year day).month = (if month < 10 then month + 3 else month - 9).toNat := by
  simp only [ofMarch, hmonth]

/-- The date after a date of the year is that of the day after, as long as the year lasts. -/
theorem ofMarch_add_one {year day : Int} (hnonneg : 0 ≤ day)
    (hlast : day + 1 < yearStart (year + 1) - yearStart year) :
    ofMarch year (day + 1) = (ofMarch year day).next := by
  obtain ⟨-, hshort⟩ := yearStart_bounds year
  obtain ⟨month, hmonth⟩ : ∃ month, (5 * day + 2) / 153 = month := ⟨_, rfl⟩
  have hlength := @daysInMonth_ofMarch year _ _ hmonth (by omega) (by omega)
  have hday := @day_ofMarch year _ _ hmonth
  have hnumber := @month_ofMarch year _ _ hmonth
  by_cases hsame : (5 * (day + 1) + 2) / 153 = month
  · rw [next_of_lt (by omega)]
    simp only [ofMarch, hmonth, hsame, mk.injEq, true_and]
    omega
  · have hnext : (5 * (day + 1) + 2) / 153 = month + 1 := by omega
    by_cases hdecember : month = 9
    · rw [next_of_december (by omega) (by omega)]
      simp only [ofMarch, hmonth, hnext, hdecember, mk.injEq]
      omega
    · rw [next_of_last (by omega) (by omega)]
      simp only [ofMarch, hmonth, hnext, mk.injEq]
      omega

/-- After the last date of a year comes the first of the next. -/
theorem ofMarch_zero (year : Int) :
    ofMarch (year + 1) 0 = (ofMarch year (yearStart (year + 1) - yearStart year - 1)).next := by
  obtain ⟨hlong, hshort⟩ := yearStart_bounds year
  obtain ⟨last, hlast⟩ : ∃ last, yearStart (year + 1) - yearStart year - 1 = last := ⟨_, rfl⟩
  rw [hlast]
  have hmonth : (5 * last + 2) / 153 = 11 := by omega
  have hlength := @daysInMonth_ofMarch year _ _ hmonth (by decide) (by decide)
  have hday := @day_ofMarch year _ _ hmonth
  have hnumber := @month_ofMarch year _ _ hmonth
  rw [next_of_last (by omega) (by omega)]
  simp only [ofMarch, hmonth, mk.injEq]
  omega

/-- Month and day of a date of the year are in their bounds. -/
theorem bounds_ofMarch {year day : Int} (hnonneg : 0 ≤ day)
    (hlast : day < yearStart (year + 1) - yearStart year) :
    (1 ≤ (ofMarch year day).month ∧ (ofMarch year day).month ≤ 12) ∧ 1 ≤ (ofMarch year day).day ∧
      (ofMarch year day).day ≤ daysInMonth (ofMarch year day).year (ofMarch year day).month := by
  obtain ⟨-, hshort⟩ := yearStart_bounds year
  obtain ⟨month, hmonth⟩ : ∃ month, (5 * day + 2) / 153 = month := ⟨_, rfl⟩
  have hlength := @daysInMonth_ofMarch year _ _ hmonth (by omega) (by omega)
  have hday := @day_ofMarch year _ _ hmonth
  have hnumber := @month_ofMarch year _ _ hmonth
  exact ⟨by omega, by omega, by omega⟩

theorem toDay_ofMarch {year day : Int} (hnonneg : 0 ≤ day) (hle : day ≤ 365) :
    (ofMarch year day).toDay = yearStart year + day - marchEpoch := by
  obtain ⟨month, hmonth⟩ : ∃ month, (5 * day + 2) / 153 = month := ⟨_, rfl⟩
  have hdate : ofMarch year day = ⟨year + (if month < 10 then 0 else 1),
      (if month < 10 then month + 3 else month - 9).toNat,
      (day - (153 * month + 2) / 5 + 1).toNat⟩ := by
    simp only [ofMarch, hmonth, mk.injEq, and_true]
    omega
  rw [hdate]
  simp only [toDay, yearStart, daysPerEra]
  by_cases hlate : month < 10
  · rw [if_pos hlate, if_pos hlate, if_neg (by omega), if_neg (by omega)]
    omega
  · rw [if_neg hlate, if_neg hlate, if_pos (by omega), if_pos (by omega)]
    omega

/-! ## Dates of days -/

/-- The day 0 is the first of January 1970. -/
theorem ofDay_zero : ofDay 0 = ⟨1970, 1, 1⟩ := rfl

/-- **A day is followed by the next date.** -/
theorem ofDay_add_one (day : Int) : ofDay (day + 1) = (ofDay day).next := by
  obtain ⟨year, hstart, hstop⟩ := exists_year (day + marchEpoch)
  rw [ofDay_eq_ofMarch hstart hstop]
  by_cases hlast : day + 1 + marchEpoch < yearStart (year + 1)
  · rw [ofDay_eq_ofMarch (by omega) hlast, ← ofMarch_add_one (by omega) (by omega)]
    congr 1
    omega
  · obtain ⟨hlong, -⟩ := yearStart_bounds (year + 1)
    have hstart' : yearStart (year + 1) ≤ day + 1 + marchEpoch := by omega
    rw [ofDay_eq_ofMarch hstart' (by omega)]
    rw [show day + 1 + marchEpoch - yearStart (year + 1) = 0 by omega, ofMarch_zero]
    congr 2
    omega

theorem bounds_ofDay (day : Int) :
    (1 ≤ (ofDay day).month ∧ (ofDay day).month ≤ 12) ∧ 1 ≤ (ofDay day).day ∧
      (ofDay day).day ≤ daysInMonth (ofDay day).year (ofDay day).month := by
  obtain ⟨year, hstart, hstop⟩ := exists_year (day + marchEpoch)
  rw [ofDay_eq_ofMarch hstart hstop]
  exact bounds_ofMarch (by omega) (by omega)

/-- The day of a date is found again. -/
theorem toDay_ofDay (day : Int) : (ofDay day).toDay = day := by
  obtain ⟨year, hstart, hstop⟩ := exists_year (day + marchEpoch)
  obtain ⟨-, hshort⟩ := yearStart_bounds year
  rw [ofDay_eq_ofMarch hstart hstop, toDay_ofMarch (by omega) (by omega)]
  omega

theorem ofDay_injective : Function.Injective ofDay := by
  intro day other h
  rw [← toDay_ofDay day, h, toDay_ofDay]

end Date

end Logbook
