import Logbook.Calendar.Instant
import Logbook.Overflow

/-!
# Daily partitions

Documents are kept in one partition per local day, named by a label, a hyphen and the date. A
scheme holds the label and the offset in which days are computed, and gives the partitions of
instants and time ranges.
-/

set_option autoImplicit false

namespace Logbook

/-- What partition names depend on. -/
structure PartitionScheme where
  label : String
  offset : Offset
deriving DecidableEq, Repr

namespace PartitionScheme

/-- The name of the partition of a day. -/
def nameOfDay (scheme : PartitionScheme) (day : Int) : String :=
  scheme.label ++ "-" ++ String.ofList (Date.ofDay day).chars

/-- The pattern that every partition name matches. -/
def everyPartition (scheme : PartitionScheme) : String := scheme.label ++ "-*"

/-- The days from a first to a last one. A day counts as long as the calendar has one after it. -/
def daysBetween (first last : Int) : List Int :=
  let stop := min last (lastDay - 1)
  (List.range (stop + 1 - first).toNat).map fun k : Nat => first + k

/-- The partitions of the local days from one instant to another, oldest first. There are none
where an instant lies outside the calendar or the days are in the wrong order. -/
def namesBetween (scheme : PartitionScheme) (start stop : Int64) : List String :=
  match localDay? scheme.offset start.toInt, localDay? scheme.offset stop.toInt with
  | some first, some last => (daysBetween first last).map scheme.nameOfDay
  | _, _ => []

/-- The partitions from one instant to another. An instant of the calendar has to have a date. -/
def partitionsFor (scheme : PartitionScheme) (start stop : Int64) :
    Except Overflow (List String) :=
  if leavesCalendar scheme.offset start.toInt || leavesCalendar scheme.offset stop.toInt then
    .error .date
  else .ok (scheme.namesBetween start stop)

/-- The partition of the local day of an instant. -/
def partitionAt? (scheme : PartitionScheme) (now : Int64) : Option String :=
  (localDay? scheme.offset now.toInt).map scheme.nameOfDay

end PartitionScheme

end Logbook
