import Logbook.Calendar.Instant
import Logbook.Text.Scanner

/-!
# Timestamps as text

Two forms of one notation, `yyyy-MM-ddTHH:mm:ss.SSS` and an offset, are read. The *strict* form has
fixed widths, an offset `+hh:mm` or `Z`, and a `T`, `t` or blank in the middle. The *loose* form
allows blanks in front of each number, shorter numbers and longer years with a sign, and any
colons and blanks inside the offset, but no `Z`. In both, second 60 is the second after 59, and
digits of a second beyond the third are cut off.
-/

set_option autoImplicit false

namespace Logbook

/-- The parts of a timestamp as they are written. -/
structure Timestamp where
  date : Date
  hour : Nat
  minute : Nat
  second : Nat
  milli : Nat
  offset : Offset
deriving DecidableEq, Repr

namespace Timestamp

/-- The parts name an instant: the date exists, and so does the time of day. -/
def isValid (t : Timestamp) : Bool :=
  t.date.isValid && t.hour ≤ 23 && t.minute ≤ 59 && t.second ≤ 60

/-- The instant that the parts name. -/
def toInstant (t : Timestamp) : Int :=
  t.date.toDay * millisPerDay + 3600000 * t.hour + 60000 * t.minute + 1000 * t.second + t.milli -
    t.offset.millis

/-- The day of the instant. Second 60 is on the day of second 59. -/
def day (t : Timestamp) : Int := dayOf { t with second := min t.second 59 }.toInstant

/-- The instant, where the parts name one inside the calendar. -/
def instant? (t : Timestamp) : Option Int :=
  if t.isValid && inCalendar t.day then some t.toInstant else none

open Scanner

/-- The milliseconds behind a point: digits after the ninth are passed over. -/
def fraction : Scanner Nat := do
  if ← accept '.' then
    let ds ← takeWhile Char.isDigit
    guard (!ds.isEmpty)
    return digitsValue ((ds ++ ['0', '0']).take 3)
  else
    return 0

/-- The sign of an offset: a hyphen or a minus sign, or a plus. -/
def offsetSign : Scanner Bool := do
  match ← next with
  | '+' => return false
  | '-' | '\u2212' => return true
  | _ => failure

/-- An offset of two digits of hours and two of minutes, with `between` in the middle. -/
def offsetWith (between : Scanner Unit) : Scanner Offset := do
  let negative ← offsetSign
  let hours ← number 2 2
  between
  let minutes ← number 2 2
  StateT.lift (Offset.ofParts? negative hours minutes)

/-- An offset of the strict form. -/
def strictOffset : Scanner Offset := fun cs =>
  match cs with
  | 'Z' :: rest | 'z' :: rest => some (Offset.utc, rest)
  | _ => (offsetWith (char ':')).run cs

/-- A timestamp of the strict form. -/
def strict : Scanner Timestamp := do
  let year ← number 4 4
  char '-'
  let month ← number 2 2
  char '-'
  let day ← number 2 2
  let _ ← satisfy fun c => c == 'T' || c == 't' || c == ' '
  let hour ← number 2 2
  char ':'
  let minute ← number 2 2
  char ':'
  let second ← number 2 2
  let milli ← fraction
  let offset ← strictOffset
  return ⟨⟨year, month, day⟩, hour, minute, second, milli, offset⟩

/-- A number of one or two digits behind any blanks. -/
def looseNumber : Scanner Nat := do
  skipWhile isBlank
  number 1 2

/-- A year behind any blanks: up to four digits, or any number of them with a sign. -/
def looseYear : Scanner Int := do
  skipWhile isBlank
  if ← accept '-' then
    return -(← digitRun : Int)
  else if ← accept '+' then
    return (← digitRun : Int)
  else
    return (← number 1 4 : Int)
where
  /-- All digits up to the next other character. -/
  digitRun : Scanner Nat := do
    let ds ← takeWhile Char.isDigit
    guard (!ds.isEmpty)
    return digitsValue ds

/-- A timestamp of the loose form. -/
def loose : Scanner Timestamp := do
  let year ← looseYear
  char '-'
  let month ← looseNumber
  char '-'
  let day ← looseNumber
  char 'T'
  let hour ← looseNumber
  char ':'
  let minute ← looseNumber
  char ':'
  let second ← looseNumber
  let milli ← fraction
  skipWhile isBlank
  let offset ← offsetWith (skipWhile fun c => c == ':' || isBlank c)
  return ⟨⟨year, month, day⟩, hour, minute, second, milli, offset⟩

end Timestamp

/-- The instant of a text in the strict form. -/
def strictInstant? (text : String) : Option Int :=
  (Timestamp.strict.all? text).bind Timestamp.instant?

/-- The instant of a text in the strict form, or else in the loose one. -/
def instantOfText? (text : String) : Option Int :=
  (strictInstant? text).orElse fun _ => (Timestamp.loose.all? text).bind Timestamp.instant?

end Logbook
