import Logbook.Query.Series
import Logbook.Response.Basic
import Logbook.Search.OfQuery

/-!
# Series out of responses

The outcomes of a response are gathered into series of points by their names alone. An outcome whose
name is no series name, or whose shape is not that of its name, adds nothing.
-/

set_option autoImplicit false

namespace Logbook

/-- A value at an instant. -/
structure Point where
  instant : Int64
  value : Binary64
deriving DecidableEq, Repr

/-- The points gathered under one name, by key. -/
structure Series where
  name : String
  field : String
  points : Keyed (List Point)

namespace Series

/-- A series with one more point under a key. -/
def add (series : Series) (key : String) (point : Point) : Series :=
  { series with
    points := series.points.insert key ((series.points.find? key).getD [] ++ [point]) }

/-- A series with more points, each under its key. -/
def addAll (series : Series) (points : List (String × Point)) : Series :=
  points.foldl (fun series entry => series.add entry.1 entry.2) series

end Series

/-! ## Availability -/

/-- Totals of successes and failures with what one more group counts. -/
def addOutcome (totals : UInt64 × UInt64) (group : Group) : Except Overflow (UInt64 × UInt64) := do
  if group.keyLabel = "true" then return (← addCounts totals.1 group.count, totals.2)
  else return (totals.1, ← addCounts totals.2 group.count)

/-- How many successes and how many failures groups with the label `true` and others count. -/
def outcomeTotals (groups : List Group) : Except Overflow (UInt64 × UInt64) :=
  groups.foldlM addOutcome (0, 0)

/-- The share of successes in percent; all of it where nothing was counted. -/
def availability (success failure : UInt64) : Except Overflow Binary64 := do
  let total ← addCounts success failure
  if total = 0 then return Binary64.ofNat 100
  else
    return ((Binary64.ofNat success.toNat).div (Binary64.ofNat total.toNat)).mul
      (Binary64.ofNat 100)

/-- The share of successes in what groups count. -/
def availabilityOf (groups : List Group) : Except Overflow Binary64 := do
  let (success, failure) ← outcomeTotals groups
  availability success failure

/-! ## Gathering -/

/-- What becomes of counts by value. -/
inductive CountMode where
  /-- Each value has points of its own. -/
  | counts
  /-- The values are outcomes of checks, and become one share of successes. -/
  | availability
deriving DecidableEq, Repr

namespace SeriesName

/-- The points of an outcome at an instant, where its shape is that of the name. -/
def points? (name : SeriesName) (mode : CountMode) (instant : Int64) (outcome : Outcome) :
    Option (Except Overflow (List (String × Point))) :=
  match name, outcome with
  | metric _ _, .number _ =>
    some (.ok (outcome.value?.map fun value => (name.text, ⟨instant, value⟩)).toList)
  | values _, .groups groups | ranges _, .groups groups =>
    match mode with
    | .counts =>
      some (.ok (groups.map fun group =>
        (group.keyText, ⟨instant, Binary64.ofNat group.count.toNat⟩)))
    | .availability =>
      if groups.isEmpty then some (.ok [])
      else some ((availabilityOf groups).map fun share => [(name.text, ⟨instant, share⟩)])
  | _, _ => none

end SeriesName

/-- Series with the points of one more outcome. -/
def gather (mode : CountMode) (instant : Int64) (series : Keyed Series)
    (entry : String × Outcome) : Except Overflow (Keyed Series) :=
  match SeriesName.ofText? entry.1 with
  | none => .ok series
  | some name =>
    match name.points? mode instant entry.2 with
    | none => .ok series
    | some points =>
      let old := (series.find? entry.1).getD ⟨entry.1, name.field, .empty⟩
      points.map fun points => series.insert entry.1 (old.addAll points)

namespace Response

/-- The series of the outcomes of a response; their points have no instant of their own. -/
def series (response : Response) : Except Overflow (Keyed Series) :=
  match response.outcomes with
  | none => .ok .empty
  | some outcomes => outcomes.toList.foldlM (gather .counts 0) .empty

end Response

/-- The development of some series: the instants of a histogram, and the series by name. -/
structure Histogram where
  instants : List Int64
  series : Keyed Series

namespace Response

/-- The groups of the histogram that have an instant, each with it. -/
def histogramGroups (response : Response) : List (Int64 × Group) :=
  match response.outcome? histogramName with
  | none => []
  | some outcome =>
    outcome.groupList.filterMap fun group => group.keyInstant?.map fun instant => (instant, group)

/-- The histogram in a response. -/
def histogram (response : Response) (mode : CountMode) : Except Overflow Histogram := do
  let groups := response.histogramGroups
  let series ← groups.foldlM (fun series entry =>
    entry.2.outcomes.foldlM (gather mode entry.1) series) .empty
  return ⟨groups.map Prod.fst, series⟩

end Response

/-! ## Writing -/

namespace Point

/-- A point as JSON. -/
def toJson (point : Point) : Json :=
  .record [("timestamp", .ofInt64 point.instant), ("value", .ofBinary64 point.value)]

end Point

namespace Series

/-- A series as JSON. -/
def toJson (series : Series) : Json :=
  .record [("name", .string series.name), ("field", .string series.field),
    ("data", .ofMap (Json.ofList Point.toJson) series.points)]

end Series

end Logbook
