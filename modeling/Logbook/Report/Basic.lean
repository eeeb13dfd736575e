import Logbook.Document.HealthCheck
import Logbook.Document.RequestLog
import Logbook.Response.Series

/-!
# Reports

A report is the answer to a question, made from the response to its search. A response without
outcomes makes an empty report.
-/

set_option autoImplicit false

namespace Logbook

/-! ## Groups -/

/-- A value for each group. -/
structure GroupsReport where
  field : String
  values : List (String × Binary64)

namespace GroupsReport

/-- The report of a response without groups. -/
def empty : GroupsReport := ⟨"", []⟩

/-- The value of a group by itself: what was computed in it if anything was, else its count. There
is no value where what was computed has none. -/
def valueOf? (count : Binary64) (group : Group) : Option Binary64 :=
  match group.outcomes.find? fun entry => (SeriesName.ofText? entry.1).isSome with
  | some (_, outcome) => outcome.value?
  | none => some count

/-- The first count of a key in a series. -/
def countOf (series : Option Series) (key : String) : Binary64 :=
  match series.bind fun series => (series.points.find? key).bind List.head? with
  | some point => point.value
  | none => .finite (Finite64.zero false)

/-- The report of a response: the groups of its first outcome, in their order. -/
def ofResponse (response : Response) : Except Overflow GroupsReport :=
  match response.outcomes.bind fun outcomes => outcomes.toList.head? with
  | none => .ok empty
  | some (text, outcome) =>
    match SeriesName.ofText? text with
    | none => .ok empty
    | some name => do
      let series ← response.series
      let count (group : Group) := countOf (series.find? text) group.keyText
      let values :=
        match name with
        | .ranges _ => outcome.groupList.map fun group => (group.keyText, count group)
        | .values _ =>
          outcome.groupList.filterMap fun group =>
            (valueOf? (count group) group).map fun value => (group.keyText, value)
        | .metric _ _ => []
      return ⟨name.field, values⟩

end GroupsReport

/-! ## Histograms -/

/-- Instants and, for each series asked for, its points if it has any. -/
structure HistogramReport where
  instants : List Int64
  series : List (Option Series)

namespace HistogramReport

/-- The report of a response for the series asked for. -/
def ofResponse (response : Response) (specs : List SeriesSpec) (mode : CountMode) :
    Except Overflow HistogramReport := do
  if response.hasNoOutcomes then return ⟨[], []⟩
  else
    let histogram ← response.histogram mode
    return ⟨histogram.instants, specs.map fun spec =>
      histogram.series.find? spec.seriesName.text⟩

end HistogramReport

/-! ## Health -/

/-- A value for a window of time. -/
structure WindowValue (α : Type) where
  key : String
  start : Int64
  value : α

/-- The values of one endpoint or gateway. -/
structure EndpointValues (α : Type) where
  key : String
  values : List (WindowValue α)

/-- The value of a window, where there is one. -/
def WindowValue.checked {ε α : Type} (window : WindowValue (Except ε α)) :
    Except ε (WindowValue α) := do
  return ⟨window.key, window.start, ← window.value⟩

namespace EndpointValues

variable {ε α : Type}

/-- The values of an endpoint, where all its windows have one. -/
def checked (endpoint : EndpointValues (Except ε α)) : Except ε (EndpointValues α) := do
  return ⟨endpoint.key, ← endpoint.values.mapM WindowValue.checked⟩

/-- The values of a group, window by window, each given by `value`. -/
def ofGroup (value : Group → α) (group : Group) : EndpointValues α :=
  let windows := ((group.outcome? healthWindowsName).map Outcome.groupList).getD []
  ⟨group.keyText, windows.map fun window =>
    ⟨window.keyText, (window.low.map Binary64.toInt64).getD 0, value window⟩⟩

/-- The values of all endpoints in a response. -/
def ofResponse (value : Group → α) (response : Response) : List (EndpointValues α) :=
  match response.outcome? healthGroupsName with
  | none => []
  | some outcome => outcome.groupList.map (ofGroup value)

end EndpointValues

/-- The availability in a window. -/
def windowAvailability (window : Group) : Except Overflow Binary64 :=
  availabilityOf (((window.outcome? healthResultsName).map Outcome.groupList).getD [])

/-- The average time in a window, in whole milliseconds; zero where there is none. -/
def windowTime (window : Group) : Int64 :=
  (((window.outcome? healthResultsName).bind Outcome.value?).map Binary64.roundToInt64).getD 0

/-- The availabilities in a response. -/
def availabilities (response : Response) : Except Overflow (List (EndpointValues Binary64)) :=
  (EndpointValues.ofResponse windowAvailability response).mapM EndpointValues.checked

/-- The average times in a response; an endpoint without any is left out. -/
def averageTimes (response : Response) : List (EndpointValues Int64) :=
  (EndpointValues.ofResponse windowTime response).filter fun endpoint =>
    endpoint.values.any fun window => window.value != 0

/-! ## Reports of all kinds -/

/-- The answer to a question. -/
inductive Report where
  | count (total : UInt64)
  | groups (report : GroupsReport)
  | histogram (report : HistogramReport)
  | availability (endpoints : List (EndpointValues Binary64))
  | responseTime (endpoints : List (EndpointValues Int64))
  | requestLogs (total : UInt64) (logs : List RequestLog)
  | healthLogs (total : UInt64) (logs : List HealthSummary)

namespace Report

/-- The request logs in a response; the first that cannot be read is reported. -/
def requestLogsOf (response : Response) : Except DocumentFault Report := do
  let logs ← response.hits.mapM fun hit => RequestLog.ofDocument hit.source
  return requestLogs response.total logs

/-- The health checks in a response; the first that cannot be read is reported. -/
def healthLogsOf (response : Response) : Except DocumentFault Report := do
  let logs ← response.hits.mapM HealthSummary.ofHit
  return healthLogs response.total logs

end Report

/-! ## Writing -/

namespace EndpointValues

variable {α : Type}

/-- The values of an endpoint as JSON. -/
def toJson (write : α → Json) (endpoint : EndpointValues α) : Json :=
  .record [("key", .string endpoint.key),
    ("values", .ofList (fun window : WindowValue α =>
      .record [("key", .string window.key), ("from", .ofInt64 window.start),
        ("value", write window.value)]) endpoint.values)]

end EndpointValues

namespace Report

/-- A report as JSON. -/
def toJson : Report → Json
  | count total => .single "count" (.ofUInt64 total)
  | groups report =>
    .record [("field", .string report.field),
      ("values", .ofList (fun entry : String × Binary64 =>
        .record [("key", .string entry.1), ("value", .ofBinary64 entry.2)]) report.values)]
  | histogram report =>
    .record [("timestamps", .ofList .ofInt64 report.instants),
      ("values", .ofList (Json.ofOption Series.toJson) report.series)]
  | availability endpoints =>
    .single "endpoints" (.ofList (EndpointValues.toJson .ofBinary64) endpoints)
  | responseTime endpoints =>
    .single "endpoints" (.ofList (EndpointValues.toJson .ofInt64) endpoints)
  | requestLogs total logs =>
    .record [("total", .ofUInt64 total), ("logs", .ofList RequestLog.toJson logs)]
  | healthLogs total logs =>
    .record [("total", .ofUInt64 total), ("logs", .ofList HealthSummary.toJson logs)]

end Report

end Logbook
