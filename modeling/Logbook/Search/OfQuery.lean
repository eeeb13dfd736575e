import Logbook.Partition
import Logbook.Search.Basic

/-!
# From queries to searches

A query names documents by time; the search names the partitions that hold them. Where a range of
time lies outside the calendar, or there is none, all partitions are searched.
-/

set_option autoImplicit false

namespace Logbook

/-- The field that holds the instant of a document. -/
def timestampField : String := "@timestamp"

/-- The name of the groups of a histogram. -/
def histogramName : String := "by_date"

/-- How many groups by value are wanted. -/
def groupLimit : UInt32 := 20

/-! ## Health checks -/

/-- The name of the groups by endpoint or gateway. -/
def healthGroupsName : String := "terms"

/-- The name of the groups by window of time. -/
def healthWindowsName : String := "ranges"

/-- The name of what is measured in a window. -/
def healthResultsName : String := "results"

/-- The windows of time, each measured back from now. -/
def healthWindows : List Window :=
  [⟨"1m", "now-1m"⟩, ⟨"1h", "now-1h"⟩, ⟨"1d", "now-1d"⟩, ⟨"1w", "now-1w"⟩, ⟨"1M", "now-1M"⟩]

namespace HealthGroup

/-- For each value of the field and for each window, what `results` measures. -/
def aggregation (group : HealthGroup) (results : Aggregation) : Aggregation :=
  .groups healthGroupsName group.name (.values none none)
    [.groups healthWindowsName timestampField (.windows healthWindows) [results]]

end HealthGroup

/-- How many checks succeeded and how many failed. -/
def outcomeCounts : Aggregation := .groups healthResultsName "available" (.values none none) []

/-- How long checks took on average. -/
def averageTime : Aggregation := .metric healthResultsName .avg "response-time"

/-! ## Aggregations -/

namespace SeriesSpec

/-- The aggregation of a series, under its name. -/
def aggregation (spec : SeriesSpec) : Aggregation :=
  match spec.measure with
  | .counts => .groups spec.seriesName.text spec.field (.values none none) []
  | .metric m => .metric spec.seriesName.text m spec.field

end SeriesSpec

namespace NumberRange

/-- The group of a range of numbers. -/
def group (range : NumberRange) : RangeGroup := ⟨range.key, range⟩

end NumberRange

namespace Question

/-- The groups by the values of a field, or by ranges where there are any. -/
def groupsAggregation (field : String) (ranges : List NumberRange) (order : Option GroupOrder) :
    Aggregation :=
  if ranges.isEmpty then
    match order with
    | none => .groups (SeriesName.values field).text field (.values (some groupLimit) none) []
    | some order =>
      let average := (SeriesName.metric .avg order.field).text
      .groups (SeriesName.values field).text field
        (.values (some groupLimit) (some ⟨average, order.direction⟩))
        [.metric average .avg order.field]
  else
    .groups (SeriesName.ranges field).text field (.ranges (ranges.map NumberRange.group)) []

/-- The aggregation that a question asks for. -/
def aggregation? (question : Question) (scheme : PartitionScheme) (range : Option TimeRange) :
    Except QueryFault (Option Aggregation) :=
  match question with
  | count => .ok none
  | groups field ranges order => .ok (groupsAggregation field ranges order)
  | histogram interval series =>
    match range with
    | none => .error .noTimeRange
    | some range =>
      .ok (Aggregation.groups histogramName timestampField
        (.histogram interval.millis range.start range.stop scheme.offset.text)
        (series.map SeriesSpec.aggregation))
  | availability group => .ok (group.aggregation outcomeCounts)
  | responseTime group => .ok (group.aggregation averageTime)
  | logs page size =>
    if page = 0 then .error .zeroPage
    else if size = 0 then .error .zeroSize
    else .ok none

end Question

namespace Filter

/-- The conditions that a filter puts on a document; a blank text puts none. -/
def clauses (filter : Filter) : List Clause :=
  (filter.range.map fun range => .within timestampField range.start range.stop).toList ++
    (filter.scope.map fun scope => .equals scope.field scope.id).toList ++
    ((filter.text.filter fun text => trim text ≠ "").map .text).toList

end Filter

namespace PartitionScheme

/-- The partitions for a range of time; all of them where none can be named. -/
def partitionsOf (scheme : PartitionScheme) : Option TimeRange → Except Overflow (List String)
  | none => .ok [scheme.everyPartition]
  | some range => do
    let names ← scheme.partitionsFor range.start range.stop
    return if names.isEmpty then [scheme.everyPartition] else names

end PartitionScheme

namespace Search

/-- The newest documents first. -/
def newestFirst : HitSort := ⟨timestampField, .descending⟩

/-- The fields that hold the content of recorded exchanges. -/
def payloads : List String := ["*.client", "*.proxy"]

/-- How many hits come before a page; as many as can be said where they are too many. -/
def skipped (page size : UInt32) : UInt32 :=
  UInt32.ofNat (min ((page.toNat - 1) * size.toNat) (UInt32.size - 1))

/-- The search of a query, or why there is none. The time range is checked before its partitions are
named, and what is asked after that. -/
def ofQuery (scheme : PartitionScheme) (kind : DocumentKind) (query : Query) :
    Except (Halt QueryFault) Search := do
  if let some range := query.filter.range then
    range.check.mapError .fault
  let partitions ← (scheme.partitionsOf query.filter.range).mapError .overflow
  let aggregation ←
    (query.question.aggregation? scheme query.filter.range).mapError .fault
  let search : Search :=
    { kind
      partitions
      clauses := query.filter.clauses
      aggregation
      skip := 0
      size := 0
      order := none
      excludes := [] }
  match query.question with
  | .logs page size =>
    return { search with
      skip := skipped page size
      size
      order := some newestFirst
      excludes := if kind = .request ∨ kind = .log then payloads else [] }
  | _ => return search

/-- The search of one document by its identifier, in all partitions. -/
def byId (scheme : PartitionScheme) (kind : DocumentKind) (id : String) : Search :=
  { kind
    partitions := [scheme.everyPartition]
    clauses := [if kind = .request ∨ kind = .log then .equals "id" id else .ids [id]]
    aggregation := none
    skip := 0
    size := 1
    order := none
    excludes := [] }

/-- The search of the latest monitoring document of a gateway, in today's partition. -/
def latestMonitoring (scheme : PartitionScheme) (gateway : String) (now : Int64) :
    Except Overflow Search :=
  match scheme.partitionAt? now with
  | none => .error .date
  | some today =>
    .ok
      { kind := .monitor
        partitions := [today]
        clauses := [.equals "gateway" gateway]
        aggregation := none
        skip := 0
        size := 1
        order := some newestFirst
        excludes := [] }

end Search

end Logbook
