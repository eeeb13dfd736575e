import Logbook.Json.Parser
import Logbook.Json.Reader

/-!
# Responses

The answer to a search: how many documents there are, the hits that were asked for, and the outcomes
of the aggregations. Inside a group only what every group has is typed; the rest is kept as it came
and read when it is asked for, so that a field which nobody knows never spoils a response.
-/

set_option autoImplicit false

namespace Logbook

/-- One of the groups that an aggregation formed. -/
structure Group where
  key : Json
  label : Option String
  count : UInt64
  low : Option Binary64
  high : Option Binary64
  /-- Everything else by name, as it came. -/
  inner : Keyed Json

/-- What came of an aggregation. -/
inductive Outcome where
  | groups (members : List Group)
  /-- A number, or none where there was nothing to compute it from. -/
  | number (value : Option Binary64)
  /-- Neither. -/
  | other (value : Json)

/-- One document that a search found. -/
structure Hit where
  index : Option String
  type : Option String
  id : Option String
  source : Json

/-- The answer to a search. -/
structure Response where
  took : Option UInt64
  timedOut : Bool
  total : UInt64
  hits : List Hit
  outcomes : Option (Keyed Outcome)

/-! ## Reading -/

namespace Group

/-- The fields that every group has. -/
def knownFields : List String := ["key", "key_as_string", "doc_count", "from", "to"]

/-- Reads a group. -/
def read : Reader Group
  | .object fields => do
    let inner := fields.filter fun field => !knownFields.contains field.1
    let known : FieldReader (Keyed Json → Group) :=
      mk <$> .withDefault "key" Reader.json .null <*>
        .optional "key_as_string" Reader.string <*>
        .withDefault "doc_count" Reader.uint64 0 <*>
        .optional "from" Reader.binary64 <*>
        .optional "to" Reader.binary64
    return (← known.readFields fields) (Keyed.ofList (Json.canonicalFields inner))
  | value => .error (.mistyped value "struct ResponseBucket")

end Group

namespace Outcome

/-- Reads an object with a list of groups. -/
def readGroups : Reader Outcome :=
  FieldReader.objectOnly "Buckets" (groups <$> .required "buckets" (Reader.list Group.read))

/-- Reads an object with a number, which may be absent. -/
def readNumber : Reader Outcome :=
  FieldReader.objectOnly "Value" (number <$> .nullable "value" Reader.binary64)

/-- The outcome that a value stands for: groups if it has any, else a number if it may have one,
else neither. -/
def ofJson (value : Json) : Outcome :=
  match readGroups value with
  | .ok outcome => outcome
  | .error _ =>
    match readNumber value with
    | .ok outcome => outcome
    | .error _ => other value.canonical

end Outcome

namespace Hit

/-- Reads a hit. -/
def read : Reader Hit :=
  FieldReader.record "SearchHit"
    (mk <$> .optional "_index" Reader.string <*> .optional "_type" Reader.string <*>
      .optional "_id" Reader.string <*> .withDefault "_source" Reader.json .null)

end Hit

namespace Response

/-- Reads a total: a number, or an object that holds one. -/
def readTotal : Reader UInt64 := fun value =>
  match Reader.uint64 value with
  | .ok total => .ok total
  | .error _ =>
    match FieldReader.objectOnly "Object" (.required "value" Reader.uint64) value with
    | .ok total => .ok total
    | .error _ => .error (.noAlternative "Total")

/-- Reads the total and the hits. -/
def readHits : Reader (UInt64 × List Hit) :=
  FieldReader.record "SearchHits"
    (Prod.mk <$> .withDefault "total" readTotal 0 <*>
      .withDefault "hits" (Reader.list Hit.read) [])

/-- Reads a response. -/
def read : Reader Response :=
  FieldReader.record "SearchResponse"
    ((fun took timedOut hits outcomes => ⟨took, timedOut, hits.1, hits.2, outcomes⟩) <$>
      .optional "took" Reader.uint64 <*>
      .withDefault "timed_out" Reader.bool false <*>
      .withDefault "hits" readHits (0, []) <*>
      .optional "aggregations" (Reader.keyed fun value => .ok (Outcome.ofJson value)))

/-- What of a response is read. -/
def outline : Json.Outline :=
  let hit : Json.Outline :=
    .record [("_index", .whole), ("_type", .whole), ("_id", .whole), ("_source", .whole)]
  .record [("took", .whole), ("timed_out", .whole),
    ("hits", .record [("total", .whole), ("hits", .list hit)]), ("aggregations", .whole)]

/-- The response that a text holds. -/
def ofText? (text : String) : Option Response := do
  let value ← Json.parseWithin? outline text
  (read value).toOption

/-- A response that has nothing but a total. -/
def ofTotal (total : UInt64) : Response := ⟨none, false, total, [], none⟩

/-- There are no outcomes. -/
def hasNoOutcomes (response : Response) : Bool :=
  match response.outcomes with
  | none => true
  | some outcomes => outcomes.isEmpty

/-- The outcome of a name. -/
def outcome? (response : Response) (name : String) : Option Outcome :=
  response.outcomes.bind (·.find? name)

end Response

/-! ## Writing -/

namespace Group

/-- A group as JSON. -/
def toJson (group : Group) : Json :=
  .record ([("key", group.key), ("key_as_string", .ofOption .string group.label),
    ("doc_count", .ofUInt64 group.count), ("from", .ofOption .ofBinary64 group.low),
    ("to", .ofOption .ofBinary64 group.high)] ++ group.inner.toList)

end Group

namespace Outcome

/-- An outcome as JSON. -/
def toJson : Outcome → Json
  | groups members => .single "buckets" (.ofList Group.toJson members)
  | number value => .single "value" (.ofOption .ofBinary64 value)
  | other value => value

end Outcome

namespace Hit

/-- A hit as JSON. -/
def toJson (hit : Hit) : Json :=
  .record [("_index", .ofOption .string hit.index), ("_type", .ofOption .string hit.type),
    ("_id", .ofOption .string hit.id), ("_source", hit.source)]

end Hit

namespace Response

/-- A response as JSON. -/
def toJson (response : Response) : Json :=
  .record [("took", .ofOption .ofUInt64 response.took), ("timed_out", .bool response.timedOut),
    ("hits", .record
      [("total", .ofUInt64 response.total), ("hits", .ofList Hit.toJson response.hits)]),
    ("aggregations", .ofOption (Json.ofMap Outcome.toJson) response.outcomes)]

end Response

/-! ## Looking inside -/

namespace Outcome

/-- The groups; none where the outcome is something else. -/
def groupList : Outcome → List Group
  | groups members => members
  | _ => []

/-- The outcome is a list of groups. -/
def isGroups : Outcome → Bool
  | groups _ => true
  | _ => false

/-- The outcome is a number, present or not. -/
def isNumber : Outcome → Bool
  | number _ => true
  | _ => false

/-- The number, where there is a finite one. -/
def value? : Outcome → Option Binary64
  | number value => value.filter Binary64.isFinite
  | _ => none

end Outcome

namespace Group

/-- The key as text: a text as it is, nothing for `null`, and anything else in its JSON form. -/
def keyText (group : Group) : String :=
  match group.key with
  | .string text => text
  | .null => ""
  | value => value.print

/-- The label, or the text of the key where there is none. -/
def keyLabel (group : Group) : String := group.label.getD group.keyText

/-- The instant that a numeric key stands for. An integer beyond 64 bits with a sign is taken for
the nearest floating-point number, and those are cut to whole numbers. -/
def keyInstant? (group : Group) : Option Int64 :=
  match group.key with
  | .int n =>
    if Int64.minValue.toInt ≤ n ∧ n ≤ Int64.maxValue.toInt then some (Int64.ofInt n)
    else some (Binary64.ofInt n).toInt64
  | .float x => some (Binary64.finite x).toInt64
  | _ => none

/-- The outcome of a name inside a group; only objects are outcomes. -/
def outcome? (group : Group) (name : String) : Option Outcome :=
  (group.inner.find? name).bind fun value =>
    if value.isObject then some (Outcome.ofJson value) else none

/-- All outcomes inside a group, in the order of their names. -/
def outcomes (group : Group) : List (String × Outcome) :=
  group.inner.toList.filterMap fun entry =>
    if entry.2.isObject then some (entry.1, Outcome.ofJson entry.2) else none

end Group

end Logbook
