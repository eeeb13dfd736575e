import Logbook.Document.Exchange
import Logbook.Response.Basic

/-!
# Health checks

A health check is a sequence of steps. New documents keep what was sent and received in each step;
old ones keep only the address, the method and the status, on the step itself. Nothing in a step
ever makes a check unreadable: what cannot be made out is unknown.
-/

set_option autoImplicit false

namespace Logbook

/-- What a check has beside its steps. -/
structure HealthCheck where
  id : String
  instant : Int64
  gateway : Option String
  endpoint : Option String
  responseTime : Int64
  available : Bool
  state : Int64
  success : Bool
deriving DecidableEq

/-- What was sent and received in a step. -/
structure Exchange where
  request : SeenRequest
  response : SeenResponse
deriving DecidableEq

/-- A step of a check. -/
structure HealthStep where
  success : Bool
  text : Option String
  exchange : Exchange
deriving DecidableEq

namespace Exchange

/-- An exchange of which nothing is known. -/
def unknown : Exchange := ⟨.unknown, .unknown⟩

/-- The value of a field that is an object. -/
def objectField? (step : Json) (name : String) : Option Json :=
  (step.field? name).filter Json.isObject

/-- The exchange of a new step. -/
def ofNested? (step : Json) : Option Exchange := do
  let request ← (SeenRequest.read (← objectField? step "request")).toOption
  match objectField? step "response" with
  | some response => return ⟨request, ← (SeenResponse.read response).toOption⟩
  | none => return ⟨request, .unknown⟩

/-- The fields of an old step. -/
def flatFields : FieldReader Exchange :=
  (fun uri method status => ⟨⟨uri, method, none, .empty⟩, ⟨status, none, .empty⟩⟩) <$>
    .optional "uri" Reader.string ["url"] <*> .optional "method" Method.read <*>
    .optional "status" Reader.uint16

/-- The exchange of an old step. -/
def ofFlat? (step : Json) : Option Exchange :=
  (FieldReader.record "LegacyStep" flatFields step).toOption

/-- The exchange of a step of either kind. -/
def ofStep (step : Json) : Exchange :=
  ((ofNested? step).orElse fun _ => ofFlat? step).getD unknown

end Exchange

namespace HealthStep

/-- The step that a value describes. -/
def ofJson (step : Json) : HealthStep :=
  { success := match step.field? "success" with
      | some (.bool success) => success
      | _ => false
    text := match step.field? "message" with
      | some (.string text) => some text
      | _ => none
    exchange := .ofStep step }

/-- A step as JSON. -/
def toJson (step : HealthStep) : Json :=
  .record [("success", .bool step.success), ("message", .ofOption .string step.text),
    ("request", step.exchange.request.toJson), ("response", step.exchange.response.toJson)]

end HealthStep

namespace HealthCheck

/-- The fields of a check in a document, with its steps. -/
def fields (id : String) : FieldReader (HealthCheck × List Json) :=
  (fun instant gateway endpoint responseTime available state success steps =>
      (⟨id, instant, gateway, endpoint, responseTime, available, state, success⟩, steps)) <$>
    .required "@timestamp" readInstant <*>
    .optional "gateway" Reader.string <*>
    .optional "endpoint" Reader.string <*>
    .withDefault "response-time" Reader.int64 0 <*>
    .withDefault "available" Reader.bool false <*>
    .withDefault "state" Reader.int64 0 <*>
    .withDefault "success" Reader.bool false <*>
    .withDefault "steps" (Reader.list Reader.json) []

/-- The check in a hit, with its steps. -/
def ofHit (hit : Hit) : Except DocumentFault (HealthCheck × List Json) :=
  match hit.id with
  | none => .error .unnamedCheck
  | some id =>
    (FieldReader.record "RawHealth" (fields id)).part ("health-check log " ++ id) hit.source

/-- The fields of a check as it is written. -/
def toFields (check : HealthCheck) : List (String × Json) :=
  [("id", .string check.id), ("timestamp", .ofInt64 check.instant),
    ("gateway", .ofOption .string check.gateway), ("endpoint", .ofOption .string check.endpoint),
    ("response_time", .ofInt64 check.responseTime), ("available", .bool check.available),
    ("state", .ofInt64 check.state), ("success", .bool check.success)]

end HealthCheck

/-- The summary of a check: of its steps only the first is kept, and little of that. -/
structure HealthSummary where
  check : HealthCheck
  uri : Option String
  method : Option Method
  status : Option UInt16
deriving DecidableEq

namespace HealthSummary

/-- The summary of the check in a hit. -/
def ofHit (hit : Hit) : Except DocumentFault HealthSummary := do
  let (check, steps) ← HealthCheck.ofHit hit
  let exchange := (steps.head?.map Exchange.ofStep).getD .unknown
  return ⟨check, exchange.request.uri, exchange.request.method, exchange.response.status⟩

/-- A summary as JSON. -/
def toJson (summary : HealthSummary) : Json :=
  .record (summary.check.toFields ++ [("uri", .ofOption .string summary.uri),
    ("method", .ofOption (fun method : Method => .string method.name) summary.method),
    ("status", .ofOption (fun n : UInt16 => .int n.toNat) summary.status)])

end HealthSummary

/-- A check with all its steps. -/
structure FullHealthCheck where
  check : HealthCheck
  steps : List HealthStep
deriving DecidableEq

namespace FullHealthCheck

/-- The check in a hit. -/
def ofHit (hit : Hit) : Except DocumentFault FullHealthCheck := do
  let (check, steps) ← HealthCheck.ofHit hit
  return ⟨check, steps.map HealthStep.ofJson⟩

/-- A check as JSON. -/
def toJson (full : FullHealthCheck) : Json :=
  .record (full.check.toFields ++ [("steps", .ofList HealthStep.toJson full.steps)])

end FullHealthCheck

end Logbook
