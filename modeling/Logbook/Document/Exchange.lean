import Logbook.Document.Basic

/-!
# Recorded exchanges

What a gateway saw of a request and of a response. Every part of it may be absent.
-/

set_option autoImplicit false

namespace Logbook

/-- The values sent under each header. -/
abbrev Headers := Keyed (List String)

/-- Headers as JSON. -/
def Headers.toJson (headers : Headers) : Json := .ofMap (Json.ofList .string) headers

/-- Reads headers. -/
def Headers.read : Reader Headers := Reader.keyed (Reader.list Reader.string)

/-- Reads headers that may be `null`, which means none. -/
def Headers.readNullable : Reader Headers := fun value =>
  (Reader.optional Headers.read value).map fun headers => headers.getD .empty

/-- A recorded request. -/
structure SeenRequest where
  uri : Option String
  method : Option Method
  body : Option String
  headers : Headers
deriving DecidableEq

namespace SeenRequest

/-- A request of which nothing is known but the headers. -/
def ofHeaders (headers : Headers) : SeenRequest := ⟨none, none, none, headers⟩

/-- A request of which nothing is known. -/
def unknown : SeenRequest := ofHeaders .empty

/-- Reads a request. -/
def read : Reader SeenRequest :=
  FieldReader.record "HttpRequestSnapshot"
    (mk <$> .optional "uri" Reader.string <*> .optional "method" Method.read <*>
      .optional "body" Reader.string <*> .withDefault "headers" Headers.readNullable .empty)

/-- A request as JSON. -/
def toJson (request : SeenRequest) : Json :=
  .record [("uri", .ofOption .string request.uri),
    ("method", .ofOption (fun method : Method => .string method.name) request.method),
    ("body", .ofOption .string request.body), ("headers", request.headers.toJson)]

end SeenRequest

/-- A recorded response. -/
structure SeenResponse where
  status : Option UInt16
  body : Option String
  headers : Headers
deriving DecidableEq

namespace SeenResponse

/-- A response of which nothing is known but the headers. -/
def ofHeaders (headers : Headers) : SeenResponse := ⟨none, none, headers⟩

/-- A response of which nothing is known. -/
def unknown : SeenResponse := ofHeaders .empty

/-- Reads a response. -/
def read : Reader SeenResponse :=
  FieldReader.record "HttpResponseSnapshot"
    (mk <$> .optional "status" Reader.uint16 <*> .optional "body" Reader.string <*>
      .withDefault "headers" Headers.readNullable .empty)

/-- A response as JSON. -/
def toJson (response : SeenResponse) : Json :=
  .record [("status", .ofOption (fun n : UInt16 => .int n.toNat) response.status),
    ("body", .ofOption .string response.body), ("headers", response.headers.toJson)]

end SeenResponse

end Logbook
