import Logbook.Number.Digits

/-!
# Dates

The Gregorian calendar, continued without change into the past and the future. A day is counted by
an integer, the first of January 1970 being day 0; a date names the same day by year, month and day
of the month. Years run from -262143 to 262142.

The conversion counts in years that begin on the first of March, so that a leap day is the last day
of its year, and in eras of 400 years, after which the calendar repeats.
-/

set_option autoImplicit false

namespace Logbook

/-- A year, a month from 1 and a day of the month from 1. -/
structure Date where
  year : Int
  month : Nat
  day : Nat
deriving DecidableEq, Repr

/-- A year with a 29th of February. -/
def isLeapYear (year : Int) : Bool := year % 4 = 0 && (year % 100 != 0 || year % 400 = 0)

/-- The number of days of a month. -/
def daysInMonth (year : Int) (month : Nat) : Nat :=
  match month with
  | 2 => if isLeapYear year then 29 else 28
  | 4 | 6 | 9 | 11 => 30
  | _ => 31

/-- The first and the last year of the calendar. -/
def firstYear : Int := -262143

@[inherit_doc firstYear]
def lastYear : Int := 262142

/-- The days of an era of 400 years. -/
def daysPerEra : Int := 146097

/-- The days from the first of March of the year 0 to the first of January 1970. -/
def marchEpoch : Int := 719468

namespace Date

/-- The year, month and day exist in the calendar. -/
def isValid (date : Date) : Bool :=
  firstYear ≤ date.year && date.year ≤ lastYear && 1 ≤ date.month && date.month ≤ 12 &&
    1 ≤ date.day && date.day ≤ daysInMonth date.year date.month

/-- The date of a day. -/
def ofDay (day : Int) : Date :=
  let shifted := day + marchEpoch
  let era := shifted / daysPerEra
  let dayOfEra := shifted % daysPerEra
  let yearOfEra := (dayOfEra - dayOfEra / 1460 + dayOfEra / 36524 - dayOfEra / 146096) / 365
  let dayOfYear := dayOfEra - (365 * yearOfEra + yearOfEra / 4 - yearOfEra / 100)
  let monthOfYear := (5 * dayOfYear + 2) / 153
  let month := if monthOfYear < 10 then monthOfYear + 3 else monthOfYear - 9
  { year := yearOfEra + era * 400 + (if month ≤ 2 then 1 else 0)
    month := month.toNat
    day := (dayOfYear - (153 * monthOfYear + 2) / 5 + 1).toNat }

/-- The day of a date. -/
def toDay (date : Date) : Int :=
  let year := if date.month ≤ 2 then date.year - 1 else date.year
  let era := year / 400
  let yearOfEra := year % 400
  let monthOfYear : Int := if date.month ≤ 2 then date.month + 9 else date.month - 3
  let dayOfYear := (153 * monthOfYear + 2) / 5 + date.day - 1
  let dayOfEra := yearOfEra * 365 + yearOfEra / 4 - yearOfEra / 100 + dayOfYear
  era * daysPerEra + dayOfEra - marchEpoch

/-- The year in a date: at least four digits, with a sign where it is negative or has more. -/
def yearChars (year : Int) : List Char :=
  if 0 ≤ year ∧ year ≤ 9999 then paddedDigits 4 year.natAbs
  else (if year < 0 then '-' else '+') :: paddedDigits 4 year.natAbs

/-- Year, month and day between points. -/
def chars (date : Date) : List Char :=
  yearChars date.year ++ '.' :: paddedDigits 2 date.month ++ '.' :: paddedDigits 2 date.day

end Date

/-- The first day of the calendar. -/
def firstDay : Int := Date.toDay ⟨firstYear, 1, 1⟩

/-- The last day of the calendar. -/
def lastDay : Int := Date.toDay ⟨lastYear, 12, 31⟩

/-- The day is one of the calendar's. -/
def inCalendar (day : Int) : Bool := firstDay ≤ day && day ≤ lastDay

end Logbook
