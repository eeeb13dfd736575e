import Logbook.Document.Exchange

/-!
# Request logs

A gateway logs each request that passes through it. The summary of a log has a fixed schema; the
full log adds what was seen of the exchange on the side of the client and on that of the endpoint.
Old documents keep nothing but headers there.
-/

set_option autoImplicit false

namespace Logbook

/-- The summary of a request. -/
structure RequestLog where
  id : String
  transaction : String
  instant : Int64
  uri : String
  path : Option String
  method : Method
  endpoint : String
  status : UInt16
  responseTime : Int64
  apiResponseTime : Option Int64
  requestLength : Option UInt64
  responseLength : Option UInt64
  localAddress : Option String
  remoteAddress : Option String
  tenant : Option String
  application : Option String
  api : Option String
  plan : Option String
  user : Option String
  apiKey : Option String
  gateway : Option String
  text : Option String
deriving DecidableEq

namespace RequestLog

/-- The fields of a log in a document. -/
def fields : FieldReader RequestLog :=
  mk <$> .required "id" Reader.string <*>
    .required "transaction" Reader.string <*>
    .required "@timestamp" readInstant <*>
    .required "uri" Reader.string <*>
    .optional "path" Reader.string <*>
    .required "method" Method.read <*>
    .required "endpoint" Reader.string <*>
    .required "status" Reader.uint16 <*>
    .required "response-time" Reader.int64 <*>
    .optional "api-response-time" Reader.int64 <*>
    .optional "request-content-length" Reader.uint64 <*>
    .optional "response-content-length" Reader.uint64 <*>
    .optional "local-address" Reader.string <*>
    .optional "remote-address" Reader.string <*>
    .optional "tenant" Reader.string <*>
    .optional "application" Reader.string <*>
    .optional "api" Reader.string <*>
    .optional "plan" Reader.string <*>
    .optional "user" Reader.string <*>
    .optional "api-key" Reader.string <*>
    .optional "gateway" Reader.string <*>
    .optional "message" Reader.string

/-- The log in a document. -/
def ofDocument (source : Json) : Except DocumentFault RequestLog :=
  (FieldReader.record "LogRecord" fields).part "request log" source

/-- The fields of a log as it is written. -/
def toFields (log : RequestLog) : List (String × Json) :=
  let text : Option String → Json := .ofOption .string
  [("id", .string log.id), ("transaction_id", .string log.transaction),
    ("timestamp", .ofInt64 log.instant), ("uri", .string log.uri), ("path", text log.path),
    ("method", .string log.method.name), ("endpoint", .string log.endpoint),
    ("status", .int log.status.toNat), ("response_time", .ofInt64 log.responseTime),
    ("api_response_time", .ofOption .ofInt64 log.apiResponseTime),
    ("request_content_length", .ofOption .ofUInt64 log.requestLength),
    ("response_content_length", .ofOption .ofUInt64 log.responseLength),
    ("local_address", text log.localAddress), ("remote_address", text log.remoteAddress),
    ("tenant", text log.tenant), ("application", text log.application), ("api", text log.api),
    ("plan", text log.plan), ("user", text log.user), ("api_key", text log.apiKey),
    ("gateway", text log.gateway), ("message", text log.text)]

/-- A log as JSON. -/
def toJson (log : RequestLog) : Json := .record log.toFields

end RequestLog

/-- A request log with what was seen on both sides. -/
structure FullRequestLog where
  summary : RequestLog
  clientRequest : Option SeenRequest
  proxyRequest : Option SeenRequest
  clientResponse : Option SeenResponse
  proxyResponse : Option SeenResponse

/-- A value in a document that is there and not `null`. -/
def present? (source : Json) (name : String) : Option Json :=
  (source.field? name).filter fun value => !value.isNull

/-- One leg of an exchange in a document: the object of its name if there is one, or else what is
known from its headers alone. -/
def leg {α : Type} (read : Reader α) (ofHeaders : Headers → α) (source : Json) (name : String) :
    Except DocumentFault (Option α) :=
  match present? source name with
  | some nested => (read.part name nested).map some
  | none =>
    let flat := name ++ "-headers"
    match present? source flat with
    | some headers => (Headers.read.part flat headers).map fun headers => some (ofHeaders headers)
    | none => .ok none

namespace FullRequestLog

/-- The full log in a document. -/
def ofDocument (source : Json) : Except DocumentFault FullRequestLog := do
  return {
    summary := ← RequestLog.ofDocument source
    clientRequest := ← leg SeenRequest.read SeenRequest.ofHeaders source "client-request"
    proxyRequest := ← leg SeenRequest.read SeenRequest.ofHeaders source "proxy-request"
    clientResponse := ← leg SeenResponse.read SeenResponse.ofHeaders source "client-response"
    proxyResponse := ← leg SeenResponse.read SeenResponse.ofHeaders source "proxy-response" }

/-- A full log as JSON. -/
def toJson (log : FullRequestLog) : Json :=
  .record (log.summary.toFields ++
    [("client_request", .ofOption SeenRequest.toJson log.clientRequest),
      ("proxy_request", .ofOption SeenRequest.toJson log.proxyRequest),
      ("client_response", .ofOption SeenResponse.toJson log.clientResponse),
      ("proxy_response", .ofOption SeenResponse.toJson log.proxyResponse)])

end FullRequestLog

end Logbook
