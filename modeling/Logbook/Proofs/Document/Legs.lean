import Logbook.Proofs.Document.RequestLog

/-!
# The legs of an exchange

A full request log is the summary with what was seen of each leg. `Leg.HasOrigin` says where a
document has that: in the object of the leg, or else in its bare headers, or nowhere.
`full_logs_read_summary_and_legs`: the full log is read where the summary is and every leg is from
its origin; otherwise the fault is that of the summary, or else that of the first leg at fault. The
bare headers of a leg with an object play no part.
-/

set_option autoImplicit false

namespace Logbook

open Fallible

/-- The legs of an exchange in the order in which they are read. -/
inductive Leg where
  | clientRequest
  | proxyRequest
  | clientResponse
  | proxyResponse
deriving DecidableEq

/-- What was seen of a leg. -/
inductive Seen where
  | request (request : SeenRequest)
  | response (response : SeenResponse)

/-- What a document has of a leg. -/
inductive Origin where
  | nested (value : Json)
  | headers (value : Json)
  | nothing

/-- A document has nothing under a name, or `null`. -/
def Lacks (source : Json) (name : String) : Prop :=
  source.field? name = none ∨ source.field? name = some .null

namespace Leg

def all : List Leg := [clientRequest, proxyRequest, clientResponse, proxyResponse]

def name : Leg → String
  | clientRequest => "client-request"
  | proxyRequest => "proxy-request"
  | clientResponse => "client-response"
  | proxyResponse => "proxy-response"

/-- The name under which old documents keep the headers of a leg. -/
def headersName (leg : Leg) : String := leg.name ++ "-headers"

/-- Where a document has what was seen of a leg. -/
inductive HasOrigin (source : Json) (leg : Leg) : Origin → Prop
  | nested {value : Json} (found : source.field? leg.name = some value) (notNull : value ≠ .null) :
    HasOrigin source leg (.nested value)
  | headers {value : Json} (lacks : Lacks source leg.name)
    (found : source.field? leg.headersName = some value) (notNull : value ≠ .null) :
    HasOrigin source leg (.headers value)
  | nothing (lacks : Lacks source leg.name) (lacksHeaders : Lacks source leg.headersName) :
    HasOrigin source leg .nothing

/-- A leg of which nothing was seen but the headers. -/
def ofHeaders : Leg → Headers → Seen
  | clientRequest, headers | proxyRequest, headers => .request ⟨none, none, none, headers⟩
  | clientResponse, headers | proxyResponse, headers => .response ⟨none, none, headers⟩

/-- Reads the object of a leg. -/
def readSeen : Leg → Reader Seen
  | clientRequest, value | proxyRequest, value => (SeenRequest.read value).map .request
  | clientResponse, value | proxyResponse, value => (SeenResponse.read value).map .response

/-- Reads what was seen of a leg from where it is. -/
def readOrigin (leg : Leg) : Origin → Except DocumentFault (Option Seen)
  | .nested value => (leg.readSeen.part leg.name value).map some
  | .headers value =>
    (Headers.read.part leg.headersName value).map fun headers => some (leg.ofHeaders headers)
  | .nothing => .ok none

end Leg

/-- What a full log has of a leg. -/
def FullRequestLog.seen (log : FullRequestLog) : Leg → Option Seen
  | .clientRequest => log.clientRequest.map .request
  | .proxyRequest => log.proxyRequest.map .request
  | .clientResponse => log.clientResponse.map .response
  | .proxyResponse => log.proxyResponse.map .response

/-! ## The origin of a leg -/

section
variable {source : Json} {name : String}

theorem lacks_iff : Lacks source name ↔ present? source name = none := by
  unfold Lacks present?
  cases source.field? name with
  | none => simp
  | some value => cases value <;> simp [Json.isNull]

theorem present?_eq_some_iff {value : Json} :
    present? source name = some value ↔ source.field? name = some value ∧ value ≠ .null := by
  unfold present?
  rw [Option.filter_eq_some_iff]
  cases value <;> simp [Json.isNull]

end

namespace Leg

/-- The origin of a leg as it is looked for. -/
def originIn (source : Json) (leg : Leg) : Origin :=
  match present? source leg.name, present? source leg.headersName with
  | some value, _ => .nested value
  | none, some value => .headers value
  | none, none => .nothing

variable {source source' : Json} {leg : Leg}

theorem hasOrigin_iff {origin : Origin} :
    leg.HasOrigin source origin ↔ origin = leg.originIn source := by
  refine ⟨fun h => ?_, ?_⟩
  · unfold originIn
    cases h with
    | nested found notNull => rw [present?_eq_some_iff.2 ⟨found, notNull⟩]
    | headers lacks found notNull =>
      rw [lacks_iff.1 lacks, present?_eq_some_iff.2 ⟨found, notNull⟩]
    | nothing lacks lacksHeaders => rw [lacks_iff.1 lacks, lacks_iff.1 lacksHeaders]
  · rintro rfl
    unfold originIn
    split
    · rename_i hnested
      obtain ⟨hfound, hnull⟩ := present?_eq_some_iff.1 hnested
      exact .nested hfound hnull
    · rename_i hnested hheaders
      obtain ⟨hfound, hnull⟩ := present?_eq_some_iff.1 hheaders
      exact .headers (lacks_iff.2 hnested) hfound hnull
    · rename_i hnested hheaders
      exact .nothing (lacks_iff.2 hnested) (lacks_iff.2 hheaders)

/-- What was seen of a leg as it is read from where the document has it. -/
def readIn (source : Json) (leg : Leg) : Except DocumentFault (Option Seen) :=
  leg.readOrigin (leg.originIn source)

section
variable {α : Type} {read : Reader α} {ofHeaders : Headers → α} {wrap : α → Seen}
  (hread : leg.readSeen = fun value => (read value).map wrap)
  (hheaders : ∀ headers, leg.ofHeaders headers = wrap (ofHeaders headers))
include hread hheaders

theorem readIn_eq : leg.readIn source =
    (Logbook.leg read ofHeaders source leg.name).map (Option.map wrap) := by
  have hpart (value : Json) :
      leg.readSeen.part leg.name value = (read.part leg.name value).map wrap := by
    rw [hread]
    unfold Reader.part
    dsimp only
    cases read value <;> rfl
  have hflat : leg.name ++ "-headers" = leg.headersName := rfl
  unfold readIn originIn Logbook.leg
  dsimp only
  rw [hflat]
  cases present? source leg.name with
  | some value =>
    dsimp only [readOrigin]
    rw [hpart]
    cases read.part leg.name value <;> rfl
  | none =>
    cases present? source leg.headersName with
    | none => rfl
    | some value =>
      dsimp only [readOrigin]
      simp only [hheaders]
      cases Headers.read.part leg.headersName value <;> rfl

end

theorem readIn_clientRequest : clientRequest.readIn source =
    (Logbook.leg SeenRequest.read SeenRequest.ofHeaders source "client-request").map
      (Option.map .request) := readIn_eq rfl fun _ => rfl

theorem readIn_proxyRequest : proxyRequest.readIn source =
    (Logbook.leg SeenRequest.read SeenRequest.ofHeaders source "proxy-request").map
      (Option.map .request) := readIn_eq rfl fun _ => rfl

theorem readIn_clientResponse : clientResponse.readIn source =
    (Logbook.leg SeenResponse.read SeenResponse.ofHeaders source "client-response").map
      (Option.map .response) := readIn_eq rfl fun _ => rfl

theorem readIn_proxyResponse : proxyResponse.readIn source =
    (Logbook.leg SeenResponse.read SeenResponse.ofHeaders source "proxy-response").map
      (Option.map .response) := readIn_eq rfl fun _ => rfl

end Leg

/-! ## The full log -/

namespace FullRequestLog

open Leg

variable {source : Json}

/-- A full log is read where the summary and all legs are. -/
theorem ofDocument_eq_ok_iff {full : FullRequestLog} : ofDocument source = .ok full ↔
    RequestLog.ofDocument source = .ok full.summary ∧
      ∀ leg : Leg, leg.readIn source = .ok (full.seen leg) := by
  refine ⟨fun h => ?_, ?_⟩
  · obtain ⟨summary, hsummary, h⟩ := bind_eq_ok_iff.1 h
    obtain ⟨clientRequest, hclientRequest, h⟩ := bind_eq_ok_iff.1 h
    obtain ⟨proxyRequest, hproxyRequest, h⟩ := bind_eq_ok_iff.1 h
    obtain ⟨clientResponse, hclientResponse, h⟩ := bind_eq_ok_iff.1 h
    obtain ⟨proxyResponse, hproxyResponse, h⟩ := bind_eq_ok_iff.1 h
    cases h
    refine ⟨hsummary, fun leg => ?_⟩
    cases leg with
    | clientRequest => rw [readIn_clientRequest, hclientRequest]; rfl
    | proxyRequest => rw [readIn_proxyRequest, hproxyRequest]; rfl
    | clientResponse => rw [readIn_clientResponse, hclientResponse]; rfl
    | proxyResponse => rw [readIn_proxyResponse, hproxyResponse]; rfl
  · rintro ⟨hsummary, hlegs⟩
    have hrequest : (Option.map Seen.request).Injective :=
      Option.map_injective fun _ _ => Seen.request.inj
    have hresponse : (Option.map Seen.response).Injective :=
      Option.map_injective fun _ _ => Seen.response.inj
    have hclientRequest := eq_ok_of_map hrequest (readIn_clientRequest ▸ hlegs .clientRequest)
    have hproxyRequest := eq_ok_of_map hrequest (readIn_proxyRequest ▸ hlegs .proxyRequest)
    have hclientResponse := eq_ok_of_map hresponse (readIn_clientResponse ▸ hlegs .clientResponse)
    have hproxyResponse := eq_ok_of_map hresponse (readIn_proxyResponse ▸ hlegs .proxyResponse)
    unfold ofDocument
    rw [hsummary, hclientRequest, hproxyRequest, hclientResponse, hproxyResponse]
    rfl

/-- The fault of a full log is that of the summary, or else that of the first leg at fault. -/
theorem fault?_ofDocument : fault? (ofDocument source) =
    (fault? (RequestLog.ofDocument source)).or
      (Leg.all.findSome? fun leg => fault? (leg.readIn source)) := by
  simp only [Leg.all, List.findSome?_cons, List.findSome?_nil, readIn_clientRequest,
    readIn_proxyRequest, readIn_clientResponse, readIn_proxyResponse]
  unfold ofDocument
  cases RequestLog.ofDocument source with
  | error fault => rfl
  | ok summary =>
    cases leg SeenRequest.read SeenRequest.ofHeaders source "client-request" with
    | error fault => rfl
    | ok clientRequest =>
      cases leg SeenRequest.read SeenRequest.ofHeaders source "proxy-request" with
      | error fault => rfl
      | ok proxyRequest =>
        cases leg SeenResponse.read SeenResponse.ofHeaders source "client-response" with
        | error fault => rfl
        | ok clientResponse =>
          cases leg SeenResponse.read SeenResponse.ofHeaders source "proxy-response" <;> rfl

end FullRequestLog

/-! ## Headers beside an object -/

/-- The names of the bare headers are none of those that a leg or the summary goes by. -/
theorem Leg.headersName_ne (leg other : Leg) : leg.headersName ≠ other.name := by
  cases leg <;> cases other <;> decide

theorem Leg.headersName_not_mem_schema (leg : Leg) :
    leg.headersName ∉ RequestLog.schema.map Entry.name := by
  cases leg <;> decide

theorem Leg.headersName_injective : Function.Injective Leg.headersName := by
  intro leg other h
  cases leg <;> cases other <;> first | rfl | exact absurd h (by decide)

/-- An object is read alike when it differs from another one in the bare headers of legs that have
an object. -/
theorem FullRequestLog.ofDocument_congr {source other : Keyed Json}
    (hsame : ∀ key, source.find? key = other.find? key ∨ ∃ leg : Leg, key = leg.headersName ∧
      ∃ value, source.find? leg.name = some value ∧ value ≠ .null) :
    ofDocument (.object source.toList) = ofDocument (.object other.toList) := by
  have hname (key : String) (hkey : ∀ leg : Leg, key ≠ leg.headersName) :
      source.find? key = other.find? key :=
    (hsame key).resolve_right fun ⟨leg, h, _⟩ => hkey leg h
  have hsummary : RequestLog.ofDocument (.object source.toList) =
      RequestLog.ofDocument (.object other.toList) := by
    refine RequestLog.ofDocument_congr fun entry hentry => hname _ fun leg h => ?_
    refine leg.headersName_not_mem_schema ?_
    rw [← h]
    exact List.mem_map_of_mem hentry
  have hlegs (leg : Leg) :
      leg.originIn (.object source.toList) = leg.originIn (.object other.toList) := by
    have hnested : present? (.object source.toList) leg.name =
        present? (.object other.toList) leg.name :=
      congrArg (Option.filter _) (hname _ fun other => (other.headersName_ne leg).symm)
    unfold Leg.originIn
    rw [← hnested]
    cases hvalue : present? (.object source.toList) leg.name with
    | some value => rfl
    | none =>
      have hheaders : source.find? leg.headersName = other.find? leg.headersName := by
        refine (hsame _).resolve_right ?_
        rintro ⟨leg', hleg, value, hfound, hnull⟩
        obtain rfl := Leg.headersName_injective hleg
        have hpresent : present? (.object source.toList) leg.name = some value :=
          present?_eq_some_iff.2 ⟨hfound, hnull⟩
        rw [hpresent] at hvalue
        cases hvalue
      have hpresent : present? (.object source.toList) leg.headersName =
          present? (.object other.toList) leg.headersName := congrArg (Option.filter _) hheaders
      rw [hpresent]
  have hread (leg : Leg) :
      leg.readIn (.object source.toList) = leg.readIn (.object other.toList) :=
    congrArg leg.readOrigin (hlegs leg)
  refine eq_of_same (fun full => ?_) ?_
  · simp only [ofDocument_eq_ok_iff, hsummary, hread]
  · simp only [fault?_ofDocument, hsummary, hread]

/-- **The full reading of a request log agrees with its summary, and each leg has one origin.** A
full log is read where its summary is and each leg is from the object under its name, or else from
its bare headers, or else as absent; otherwise the fault is that of the summary, or else that of the
first leg at fault. Bare headers have no influence on a leg that has an object. -/
theorem full_logs_read_summary_and_legs (source : Json) :
    (∀ leg : Leg, ∃! origin, leg.HasOrigin source origin) ∧
    (∀ full, FullRequestLog.ofDocument source = .ok full ↔
      RequestLog.ofDocument source = .ok full.summary ∧
        ∀ (leg : Leg) (origin : Origin), leg.HasOrigin source origin →
          leg.readOrigin origin = .ok (full.seen leg)) ∧
    (∀ fault, RequestLog.ofDocument source = .error fault →
      FullRequestLog.ofDocument source = .error fault) ∧
    (∀ log fault, RequestLog.ofDocument source = .ok log →
      (FullRequestLog.ofDocument source = .error fault ↔
        ∃ before leg after origin, Leg.all = before ++ leg :: after ∧
          leg.HasOrigin source origin ∧ leg.readOrigin origin = .error fault ∧
            ∀ earlier ∈ before, ∀ origin, earlier.HasOrigin source origin →
              ∃ seen, earlier.readOrigin origin = .ok seen)) ∧
    ∀ object other : Keyed Json, (∀ key, object.find? key = other.find? key ∨
      ∃ leg : Leg, key = leg.headersName ∧
        ∃ value, object.find? leg.name = some value ∧ value ≠ .null) →
      FullRequestLog.ofDocument (.object object.toList) =
        FullRequestLog.ofDocument (.object other.toList) := by
  have hread {leg : Leg} {origin : Origin} (h : leg.HasOrigin source origin) :
      leg.readOrigin origin = leg.readIn source := congrArg leg.readOrigin (Leg.hasOrigin_iff.1 h)
  have horigin (leg : Leg) : leg.HasOrigin source (leg.originIn source) := Leg.hasOrigin_iff.2 rfl
  have hfault : fault? (FullRequestLog.ofDocument source) = _ := FullRequestLog.fault?_ofDocument
  refine ⟨fun leg => ⟨_, horigin leg, fun origin => Leg.hasOrigin_iff.1⟩, fun full => ?_,
    fun fault h => ?_, fun log fault h => ?_, fun object other => FullRequestLog.ofDocument_congr⟩
  · rw [FullRequestLog.ofDocument_eq_ok_iff]
    refine and_congr_right fun _ => forall_congr' fun leg =>
      ⟨fun h origin horigin => ?_, fun h => ?_⟩
    · rw [hread horigin, h]
    · exact h _ (horigin leg)
  · rw [← fault?_eq_some_iff, hfault, h]
    rfl
  · rw [← fault?_eq_some_iff, hfault, h, fault?, Option.none_or, List.findSome?_eq_some_iff]
    refine exists_congr fun before => exists_congr fun leg => exists_congr fun after => ⟨?_, ?_⟩
    · rintro ⟨hsplit, hleg, hbefore⟩
      refine ⟨_, hsplit, horigin leg, fault?_eq_some_iff.1 hleg, fun earlier hmem origin h => ?_⟩
      rw [hread h]
      exact fault?_eq_none_iff.1 (hbefore earlier hmem)
    · rintro ⟨origin, hsplit, hleg, hfailed, hbefore⟩
      rw [hread hleg] at hfailed
      exact ⟨hsplit, fault?_eq_some_iff.2 hfailed, fun earlier hmem =>
        fault?_eq_none_iff.2 (hbefore earlier hmem _ (horigin earlier))⟩

/-- A log whose client request has an object, with bare headers beside it that no one could read:
it is read as without them. -/
theorem full_log_beside_spoiled_headers :
    let document (headers : Json) : Json := .object
      [("@timestamp", .int 0), ("client-request", .object [("uri", .string "/")]),
        ("client-request-headers", headers), ("endpoint", .string "http://h/"),
        ("id", .string "r-1"), ("method", .string "get"), ("response-time", .int 3),
        ("status", .int 200), ("transaction", .string "t-1"), ("uri", .string "/")]
    ∃ full, FullRequestLog.ofDocument (document (.string "no map")) = .ok full ∧
      FullRequestLog.ofDocument (document .null) = .ok full ∧
        full.clientRequest = some ⟨some "/", none, none, .empty⟩ := by
  intro document
  have hkeys : ["@timestamp", "client-request", "client-request-headers", "endpoint", "id",
      "method", "response-time", "status", "transaction", "uri"].Pairwise (· < ·) := by decide
  let source (headers : Json) : Keyed Json := ⟨[("@timestamp", .int 0),
    ("client-request", .object [("uri", .string "/")]), ("client-request-headers", headers),
    ("endpoint", .string "http://h/"), ("id", .string "r-1"), ("method", .string "get"),
    ("response-time", .int 3), ("status", .int 200), ("transaction", .string "t-1"),
    ("uri", .string "/")], List.pairwise_map.1 hkeys⟩
  have hsame : FullRequestLog.ofDocument (document (.string "no map")) =
      FullRequestLog.ofDocument (document .null) := by
    refine (full_logs_read_summary_and_legs .null).2.2.2.2 (source (.string "no map"))
      (source .null) fun key => ?_
    by_cases hkey : key = "client-request-headers"
    · exact .inr ⟨.clientRequest, hkey, _, rfl, nofun⟩
    · simp [source, Keyed.find?, Keyed.lookup_cons, hkey]
  have hread : ((FullRequestLog.ofDocument (document .null)).toOption.map (·.clientRequest)) =
      some (some ⟨some "/", none, none, .empty⟩) := by decide +kernel
  obtain ⟨full, hfull, hrequest⟩ := Option.map_eq_some_iff.1 hread
  rw [toOption_eq_some_iff] at hfull
  exact ⟨full, hsame.trans hfull, hfull, hrequest⟩

end Logbook
