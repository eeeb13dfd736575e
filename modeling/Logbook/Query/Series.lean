import Logbook.Text.Split

/-!
# Series and their names

A series is a group of a response that a question asks for. Its name tells what it is: `by_` and a
field where values are counted, the same with `_range` behind it where they are counted by ranges,
and `min_`, `max_` or `avg_` and a field where a number is computed. Names are read at the first
underscore, so that a field may hold underscores of its own.
-/

set_option autoImplicit false

namespace Logbook

/-- A number computed from the values of a field. -/
inductive Metric where
  | min
  | max
  | avg
deriving DecidableEq, Repr

namespace Metric

/-- The names of the metrics. -/
def names : List (String × Metric) := [("min", min), ("max", max), ("avg", avg)]

/-- The name of a metric. -/
def name : Metric → String
  | min => "min"
  | max => "max"
  | avg => "avg"

end Metric

/-- What a series is. -/
inductive SeriesName where
  /-- Counts by the values of a field. -/
  | values (field : String)
  /-- Counts by ranges of a numeric field. -/
  | ranges (field : String)
  /-- A number computed from a field. -/
  | metric (metric : Metric) (field : String)
deriving DecidableEq, Repr

namespace SeriesName

/-- The field that a series is about. -/
def field : SeriesName → String
  | values field => field
  | ranges field => field
  | metric _ field => field

/-- The series is a number. -/
def isMetric : SeriesName → Bool
  | metric _ _ => true
  | _ => false

/-- How the names of counts by ranges end. -/
def rangesEnd : String := "_range"

/-- The text of a name. -/
def text : SeriesName → String
  | values field => "by_" ++ field
  | ranges field => "by_" ++ field ++ rangesEnd
  | metric m field => m.name ++ "_" ++ field

/-- The counts that a field behind `by_` stands for: by ranges where the field ends so, unless it
is nothing but that end. -/
def ofCounted (field : List Char) : SeriesName :=
  match beforeEnd? rangesEnd.toList field with
  | none | some [] => values (String.ofList field)
  | some inner => ranges (String.ofList inner)

/-- The name that a text writes. -/
def ofText? (text : String) : Option SeriesName :=
  match splitAt? (· == '_') text.toList with
  | none => none
  | some (_, []) => none
  | some (tag, field) =>
    if tag = "by".toList then some (ofCounted field)
    else
      (Metric.names.lookup (String.ofList tag)).map fun m => metric m (String.ofList field)

end SeriesName

/-- What a series measures: how often each value of its field occurs, or a metric of the field. -/
inductive Measure where
  | counts
  | metric (metric : Metric)
deriving DecidableEq, Repr

namespace Measure

/-- The names of the measures. -/
def names : List (String × Measure) :=
  ("field", counts) :: Metric.names.map fun entry => (entry.1, metric entry.2)

/-- The name of a measure. -/
def name : Measure → String
  | counts => "field"
  | metric m => m.name

/-- The metric, if it is one. -/
def metric? : Measure → Option Metric
  | counts => none
  | metric m => some m

end Measure

/-- A series that a histogram is asked for. -/
structure SeriesSpec where
  measure : Measure
  field : String
deriving DecidableEq, Repr

namespace SeriesSpec

/-- The name under which the series is asked for. -/
def seriesName (spec : SeriesSpec) : SeriesName :=
  match spec.measure with
  | .counts => .values spec.field
  | .metric m => .metric m spec.field

end SeriesSpec

end Logbook
