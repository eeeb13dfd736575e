import Logbook.Json.Basic
import Logbook.Query.Json
import Logbook.Search.Basic

/-!
# Descriptions of searches

A search described field by field, for a record of what was asked.
-/

set_option autoImplicit false

namespace Logbook

namespace Clause

/-- The description of a condition. -/
def toJson : Clause → Json
  | within field start stop =>
    .record [("range", .record
      [("field", .string field), ("gte", .ofInt64 start), ("lte", .ofInt64 stop)])]
  | equals field value =>
    .record [("term", .record [("field", .string field), ("value", .string value)])]
  | text query => .record [("query_string", .string query)]
  | ids values => .record [("ids", .ofList .string values)]

end Clause

namespace GroupSort

/-- The description of an order of groups. -/
def toJson (order : GroupSort) : Json :=
  .record [("aggregation", .string order.series), ("direction", .string order.direction.name)]

end GroupSort

namespace RangeGroup

/-- The description of a group of numbers. -/
def toJson (group : RangeGroup) : Json :=
  .record [("key", .string group.key), ("from", .ofBinary64 group.range.low),
    ("to", .ofBinary64 group.range.high)]

end RangeGroup

namespace Window

/-- The description of a window of time. -/
def toJson (window : Window) : Json :=
  .record [("key", .string window.key), ("from", .string window.start)]

end Window

namespace Grouping

/-- The description of a way of grouping: its type and its own fields. -/
def describe : Grouping → List (String × Json)
  | histogram interval start stop offset =>
    [("type", .string "date_histogram"), ("interval_ms", .ofUInt64 interval),
      ("min_bound", .ofInt64 start), ("max_bound", .ofInt64 stop), ("time_zone", .string offset)]
  | values size order =>
    [("type", .string "terms"), ("size", .ofOption (fun n : UInt32 => .int n.toNat) size),
      ("order", .ofOption GroupSort.toJson order)]
  | ranges groups =>
    [("type", .string "range"), ("ranges", .ofList RangeGroup.toJson groups)]
  | windows groups =>
    [("type", .string "date_range"), ("ranges", .ofList Window.toJson groups)]

end Grouping

namespace Aggregation

mutual

/-- The description of an aggregation. -/
def toJson : Aggregation → Json
  | metric name m field =>
    .record [("type", .string "metric"), ("name", .string name), ("kind", .string m.name),
      ("field", .string field)]
  | groups name field grouping children =>
    .record (("name", .string name) :: ("field", .string field) ::
      ("children", .array (toJsons children)) :: grouping.describe)

/-- The descriptions of aggregations. -/
def toJsons : List Aggregation → List Json
  | [] => []
  | child :: children => child.toJson :: toJsons children

end

end Aggregation

namespace HitSort

/-- The description of an order of hits. -/
def toJson (order : HitSort) : Json :=
  .record [("field", .string order.field), ("direction", .string order.direction.name)]

end HitSort

namespace Search

/-- The description of a search. -/
def toJson (search : Search) : Json :=
  .record [("document_kind", .string search.kind.name),
    ("partitions", .ofList .string search.partitions),
    ("filter", .single "clauses" (.ofList Clause.toJson search.clauses)),
    ("aggregation", .ofOption Aggregation.toJson search.aggregation),
    ("from", .int search.skip.toNat), ("size", .int search.size.toNat),
    ("sort", .ofOption HitSort.toJson search.order),
    ("source_excludes", .ofList .string search.excludes)]

end Search

end Logbook
