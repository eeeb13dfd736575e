import Logbook.Json.Basic
import Logbook.Search.Basic

/-!
# Search bodies

The body of a search is the JSON document that a node is sent. Aggregations stand in an object under
their names, so of two with one name the later is asked for.
-/

set_option autoImplicit false

namespace Logbook

namespace Clause

/-- A condition in a body. -/
def toBody : Clause → Json
  | within field start stop =>
    .single "range" (.single field (.record
      [("gte", .int start.toInt), ("lte", .int stop.toInt), ("format", .string "epoch_millis")]))
  | equals field value => .single "term" (.single field (.string value))
  | text query => .single "query_string" (.single "query" (.string query))
  | ids values => .single "ids" (.single "values" (.ofList .string values))

end Clause

/-- A field that is written only where there is a value. -/
def optionalField {α : Type} (key : String) (write : α → Json) (value : Option α) :
    List (String × Json) :=
  (value.map fun value => (key, write value)).toList

namespace GroupSort

/-- An order of groups in a body. -/
def toBody (order : GroupSort) : Json := .single order.series (.string order.direction.name)

end GroupSort

namespace RangeGroup

/-- A group of numbers in a body. -/
def toBody (group : RangeGroup) : Json :=
  .record [("key", .string group.key), ("from", .ofBinary64 group.range.low),
    ("to", .ofBinary64 group.range.high)]

end RangeGroup

namespace Window

/-- A window of time in a body. -/
def toBody (window : Window) : Json :=
  .record [("key", .string window.key), ("from", .string window.start)]

end Window

namespace Grouping

/-- The name of a way of grouping. -/
def name : Grouping → String
  | histogram .. => "date_histogram"
  | values .. => "terms"
  | ranges _ => "range"
  | windows _ => "date_range"

/-- What a way of grouping needs beside the field. -/
def toFields : Grouping → List (String × Json)
  | histogram interval start stop offset =>
    [("interval", .string (natText interval.toNat ++ "ms")), ("min_doc_count", .int 0),
      ("extended_bounds", .record [("min", .int start.toInt), ("max", .int stop.toInt)]),
      ("time_zone", .string offset)]
  | values size order =>
    optionalField "size" (fun size : UInt32 => .int size.toNat) size ++
      optionalField "order" GroupSort.toBody order
  | ranges groups => [("ranges", .ofList RangeGroup.toBody groups)]
  | windows groups => [("ranges", .ofList Window.toBody groups)]

end Grouping

namespace Aggregation

mutual

/-- An aggregation in a body, without its name. -/
def toBody : Aggregation → Json
  | metric _ m field => .single m.name (.single "field" (.string field))
  | groups _ field grouping children =>
    .record ((grouping.name, .record (("field", .string field) :: grouping.toFields)) ::
      match children with
      | [] => []
      | child :: children =>
        [("aggregations", .record ((child.name, child.toBody) :: toBodies children))])

/-- Aggregations under their names. -/
def toBodies : List Aggregation → List (String × Json)
  | [] => []
  | child :: children => (child.name, child.toBody) :: toBodies children

end

end Aggregation

namespace HitSort

/-- An order of hits in a body. -/
def toBody (order : HitSort) : Json :=
  .array [.single order.field (.single "order" (.string order.direction.name))]

end HitSort

namespace Search

/-- The conditions of a search in a body; without any, all documents match. -/
def conditions (search : Search) : Json :=
  if search.clauses.isEmpty then .single "match_all" (.object [])
  else .single "bool" (.single "filter" (.ofList Clause.toBody search.clauses))

/-- The body of a search. -/
def toBody (search : Search) : Json :=
  .record ([("size", .int search.size.toNat), ("query", search.conditions)] ++
    (if search.skip = 0 then [] else [("from", .int search.skip.toNat)]) ++
    optionalField "sort" HitSort.toBody search.order ++
    (if search.excludes.isEmpty then []
      else [("_source", .single "excludes" (.ofList .string search.excludes))]) ++
    optionalField "aggregations"
      (fun aggregation : Aggregation => .single aggregation.name aggregation.toBody)
      search.aggregation)

end Search

end Logbook
