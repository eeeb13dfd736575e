import Logbook.Number.Layout
import Logbook.Overflow
import Logbook.Query.Series

/-!
# Questions

A query asks one question of the documents that pass a filter. Values that a caller can get wrong
are built by functions that may refuse; what they refuse for is a `QueryFault`.
-/

set_option autoImplicit false

namespace Logbook

/-- Why a query is refused. -/
inductive QueryFault where
  | inverted (start stop : Int64)
  | zeroInterval
  | noTimeRange
  | zeroPage
  | zeroSize
deriving DecidableEq, Repr

namespace QueryFault

/-- The wording of a fault. -/
def message : QueryFault → String
  | inverted start stop =>
    "time range starts after it ends (" ++ intText start.toInt ++ " > " ++ intText stop.toInt ++ ")"
  | zeroInterval => "interval must be positive"
  | noTimeRange => "date histogram requires a time range"
  | zeroPage => "page numbers start at 1"
  | zeroSize => "page size must be positive"

end QueryFault

/-! ## Ranges -/

/-- The instants from a first to a last one, in milliseconds. -/
structure TimeRange where
  start : Int64
  stop : Int64
deriving DecidableEq, Repr

namespace TimeRange

/-- The range is refused where it starts after it ends. -/
def check (range : TimeRange) : Except QueryFault Unit :=
  if range.stop < range.start then .error (.inverted range.start range.stop) else .ok ()

/-- The range between two instants in order. -/
def between (start stop : Int64) : Except QueryFault TimeRange := do
  check ⟨start, stop⟩
  return ⟨start, stop⟩

/-- The range of a given width up to an instant. Where it would start before the first instant
there is it starts there; a negative width counts as none. -/
def upTo (width now : Int64) : TimeRange :=
  ⟨clampInt64 (now.toInt - max width.toInt 0), now⟩

/-- The width of a range. -/
def width (range : TimeRange) : Except Overflow Int64 := timeBetween range.start range.stop

end TimeRange

/-- The width of the steps of a histogram, in milliseconds. -/
structure Interval where
  millis : UInt64
  positive : millis ≠ 0
deriving DecidableEq, Repr

namespace Interval

/-- The interval of a positive number of milliseconds. -/
def ofMillis (millis : UInt64) : Except QueryFault Interval :=
  if h : millis = 0 then .error .zeroInterval else .ok ⟨millis, h⟩

end Interval

/-- The numbers from a lower bound up to, and without, an upper one. -/
structure NumberRange where
  low : Binary64
  high : Binary64
deriving DecidableEq, Repr

namespace NumberRange

/-- Bounds that are not written as integers have no exponent and no mark on whole numbers. -/
def boundLayout : Layout := ⟨none, "", .up⟩

/-- The bound has no fraction and is below `10 ^ 15`. -/
def isWholeBound : Binary64 → Bool
  | .finite x => x.steps % stepsPerUnit = 0 ∧ x.steps < 10 ^ 15 * stepsPerUnit
  | .infinite _ | .nan => false

/-- A bound in a key. Where it is written as an integer, zero has no sign. -/
def boundText (x : Binary64) : String :=
  if isWholeBound x then intText x.toInt64.toInt else boundLayout.text x

/-- The key of a range: its bounds with a hyphen between them. -/
def key (range : NumberRange) : String := boundText range.low ++ "-" ++ boundText range.high

end NumberRange

/-! ## Filters -/

/-- One entity to which a query is restricted: the value of a field. -/
structure Scope where
  field : String
  id : String
deriving DecidableEq, Repr

/-- Which documents a query is about. -/
structure Filter where
  range : Option TimeRange
  scope : Option Scope
  text : Option String
deriving DecidableEq, Repr

namespace Filter

/-- All documents. -/
def all : Filter := ⟨none, none, none⟩

end Filter

/-! ## Choices -/

/-- The direction of an order. -/
inductive Direction where
  | ascending
  | descending
deriving DecidableEq, Repr

namespace Direction

/-- The name of a direction. -/
def name : Direction → String
  | ascending => "asc"
  | descending => "desc"

/-- The names of the directions. -/
def names : List (String × Direction) := [("asc", ascending), ("desc", descending)]

end Direction

/-- What health checks are grouped by. -/
inductive HealthGroup where
  | endpoint
  | gateway
deriving DecidableEq, Repr

namespace HealthGroup

/-- The field of a group. -/
def name : HealthGroup → String
  | endpoint => "endpoint"
  | gateway => "gateway"

/-- The names of the groups. -/
def names : List (String × HealthGroup) := [("endpoint", endpoint), ("gateway", gateway)]

end HealthGroup

/-- The kinds of documents in a partition. -/
inductive DocumentKind where
  | request
  | health
  | log
  | monitor
deriving DecidableEq, Repr

namespace DocumentKind

/-- The name of a kind. -/
def name : DocumentKind → String
  | request => "request"
  | health => "health"
  | log => "log"
  | monitor => "monitor"

/-- The names of the kinds. -/
def names : List (String × DocumentKind) :=
  [("request", request), ("health", health), ("log", log), ("monitor", monitor)]

end DocumentKind

/-! ## Queries -/

/-- An order of groups by the average of a numeric field. -/
structure GroupOrder where
  field : String
  direction : Direction
deriving DecidableEq, Repr

/-- What is asked. -/
inductive Question where
  /-- How many documents there are. -/
  | count
  /-- How many there are for each value of a field, or for each of some ranges. -/
  | groups (field : String) (ranges : List NumberRange) (order : Option GroupOrder)
  /-- How some series develop in time. -/
  | histogram (interval : Interval) (series : List SeriesSpec)
  /-- How large a share of the health checks succeeded. -/
  | availability (group : HealthGroup)
  /-- How long the health checks took. -/
  | responseTime (group : HealthGroup)
  /-- The documents themselves, newest first, by pages counted from 1. -/
  | logs (page size : UInt32)
deriving DecidableEq, Repr

/-- A question about the documents that pass a filter. -/
structure Query where
  filter : Filter
  question : Question
deriving DecidableEq, Repr

namespace Question

/-- The name of the kind of a question. -/
def name : Question → String
  | count => "count"
  | groups .. => "group_by"
  | histogram .. => "date_histogram"
  | availability _ => "availability"
  | responseTime _ => "average_response_time"
  | logs .. => "logs"

end Question

namespace Query

/-- The default window of questions about health checks: thirty days. -/
def healthWindow : Int64 := 2592000000

/-- A query with the default window up to `now` where it has no time range. -/
def withDefaultWindow (query : Query) (now : Int64) : Query :=
  match query.filter.range with
  | some _ => query
  | none =>
    { query with
      filter := { query.filter with range := some (TimeRange.upTo healthWindow now) } }

end Query

end Logbook
