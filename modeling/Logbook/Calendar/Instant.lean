import Logbook.Calendar.Date
import Logbook.Calendar.Offset

/-!
# Instants

An instant is a number of milliseconds since the beginning of 1970 in universal time. Seen from an
offset it falls on a local day.
-/

set_option autoImplicit false

namespace Logbook

/-- The milliseconds of a day. -/
def millisPerDay : Int := 86400000

/-- The day of an instant in universal time. -/
def dayOf (instant : Int) : Int := instant / millisPerDay

/-- The local day of an instant. -/
def localDay (offset : Offset) (instant : Int) : Int := dayOf (instant + offset.millis)

/-- The local day of an instant, where the instant and that day are both in the calendar. -/
def localDay? (offset : Offset) (instant : Int) : Option Int :=
  let day := localDay offset instant
  if inCalendar (dayOf instant) && inCalendar day then some day else none

/-- Whether an instant of the calendar is on a local day outside it: such a day has no date. -/
def leavesCalendar (offset : Offset) (instant : Int) : Bool :=
  inCalendar (dayOf instant) && !inCalendar (localDay offset instant)

end Logbook
