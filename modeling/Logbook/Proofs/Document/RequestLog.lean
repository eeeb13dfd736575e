import Logbook.Proofs.Document.Instant
import Logbook.Proofs.Json.Schema

/-!
# The schema of request logs

`RequestLog.schema` lists the fields of a request log with the forms of their values.
`request_logs_follow_schema`: an object is read as the log that it carries, where it carries one;
otherwise the fault is the one that the schema finds. Other fields of the object play no part.
-/

set_option autoImplicit false

namespace Logbook

open Fallible FieldReader

/-! ## Instants and methods -/

/-- A method is found by its name in any case. -/
theorem Method.ofName?_eq_some_iff {text : String} {method : Method} :
    Method.ofName? text = some method ↔ text.map Char.toUpper = method.name := by
  unfold Method.ofName?
  refine ⟨fun h => ?_, fun h => ?_⟩
  · exact (of_decide_eq_true (List.find?_some h :)).symm
  · rw [h]
    cases method <;> rfl

namespace Form

/-- Instants: numbers of milliseconds, or texts that name one. -/
def instant : Form Int64 where
  Means value instant :=
    value = .ofInt64 instant ∨ ∃ text, value = .string text ∧ readInstantText text = .ok instant
  fault
    | .string text => .refused (DocumentFault.noInstant text).message
    | _ => Reader.twoForms

/-- Methods: codes, or names in any case. -/
def method : Form Method where
  Means value method :=
    (∃ code : Nat, value = .int code ∧ Method.all[code]? = some method) ∨
      ∃ text, value = .string text ∧ text.map Char.toUpper = method.name
  fault
    | .string text => .refused (DocumentFault.noMethod text).message
    | .int code =>
      if 0 ≤ code ∧ code < 2 ^ 64 then .refused ("unknown HTTP method code " ++ natText code.toNat)
      else Reader.twoForms
    | _ => Reader.twoForms

namespace IsReadBy

theorem instant : Form.instant.IsReadBy readInstant where
  ok {value a} := by
    unfold readInstant
    cases hint : Reader.int64 value with
    | ok n =>
      have hvalue : value = .ofInt64 n := int64.ok.1 hint
      subst hvalue
      constructor
      · intro h
        cases h
        exact .inl rfl
      · rintro (h | ⟨text, h, -⟩)
        · rw [h, Reader.int64_ofInt64] at hint
          rw [hint]
        · cases h
    | error fault =>
      have hnumber : value ≠ .ofInt64 a := by
        rintro rfl
        rw [Reader.int64_ofInt64] at hint
        cases hint
      cases value with
      | string text =>
        simp only [Form.instant, hnumber, false_or, Json.string.injEq, exists_eq_left']
        cases readInstantText text <;> simp
      | null | bool | int | float | array | object => simp [Form.instant, hnumber]
  error {value fault} h := by
    unfold readInstant at h
    cases hint : Reader.int64 value with
    | ok n =>
      rw [hint] at h
      cases h
    | error fault' =>
      rw [hint] at h
      cases value with
      | string text =>
        simp only [readInstantText] at h
        cases hinstant : instantOfText? text with
        | some instant =>
          rw [hinstant] at h
          cases h
        | none =>
          rw [hinstant] at h
          cases h
          rfl
      | null | bool | int | float | array | object =>
        cases h
        rfl

theorem method : Form.method.IsReadBy Method.read where
  ok {value method} := by
    unfold Method.read
    cases hcode : Reader.uint64 value with
    | ok n =>
      have hvalue : value = .int n.toNat := uint64.ok.1 hcode
      subst hvalue
      have hmeans : Form.method.Means (.int n.toNat) method ↔
          Method.ofCode? n.toNat = some method := by
        simp [Form.method, Method.ofCode?]
      rw [hmeans]
      dsimp only
      cases Method.ofCode? n.toNat <;> simp
    | error fault =>
      cases value with
      | string text =>
        have hmeans : Form.method.Means (.string text) method ↔
            Method.ofName? text = some method := by
          simp [Form.method, Method.ofName?_eq_some_iff]
        rw [hmeans]
        dsimp only
        unfold Method.ofText
        cases Method.ofName? text <;> simp
      | int code =>
        -- a code that is no word of 64 bits is no method's
        refine ⟨nofun, ?_⟩
        rintro (⟨n, hn, hmethod⟩ | ⟨text, htext, -⟩)
        · obtain ⟨hlt, -⟩ := List.getElem?_eq_some_iff.1 hmethod
          have hten : n < 10 := hlt
          rw [hn, Reader.uint64, Reader.integer_int _ (by omega) (by omega)] at hcode
          cases hcode
        · cases htext
      | null | bool | float | array | object => simp [Form.method]
  error {value fault} h := by
    unfold Method.read at h
    cases hcode : Reader.uint64 value with
    | ok n =>
      have hvalue : value = .int n.toNat := uint64.ok.1 hcode
      subst hvalue
      rw [hcode] at h
      dsimp only at h
      split at h
      · cases h
      · cases h
        have hword := n.toNat_lt
        have hrange : (0 : Int) ≤ n.toNat ∧ (n.toNat : Int) < 2 ^ 64 := by omega
        simp only [Form.method, Int.toNat_natCast]
        rw [if_pos hrange]
    | error fault' =>
      rw [hcode] at h
      cases value with
      | string text =>
        simp only [Method.ofText] at h
        cases hmethod : Method.ofName? text with
        | some method =>
          rw [hmethod] at h
          cases h
        | none =>
          rw [hmethod] at h
          cases h
          rfl
      | int code =>
        have hrange : ¬(0 ≤ code ∧ code < 2 ^ 64) := by
          rintro ⟨hlow, hhigh⟩
          rw [Reader.uint64, Reader.integer_int _ hlow hhigh] at hcode
          cases hcode
        cases h
        simp only [Form.method]
        rw [if_neg hrange]
      | null | bool | float | array | object =>
        cases h
        rfl

end IsReadBy

end Form

/-! ## The schema -/

namespace RequestLog

/-- The fields of a request log in the order of their declaration. -/
def schema : List (Entry RequestLog) :=
  [.required "id" .text id,
    .required "transaction" .text transaction,
    .required "@timestamp" .instant instant,
    .required "uri" .text uri,
    .optional "path" .text path,
    .required "method" .method method,
    .required "endpoint" .text endpoint,
    .required "status" .uint16 status,
    .required "response-time" .int64 responseTime,
    .optional "api-response-time" .int64 apiResponseTime,
    .optional "request-content-length" .uint64 requestLength,
    .optional "response-content-length" .uint64 responseLength,
    .optional "local-address" .text localAddress,
    .optional "remote-address" .text remoteAddress,
    .optional "tenant" .text tenant,
    .optional "application" .text application,
    .optional "api" .text api,
    .optional "plan" .text plan,
    .optional "user" .text user,
    .optional "api-key" .text apiKey,
    .optional "gateway" .text gateway,
    .optional "message" .text text]

theorem nodup_names_schema : (schema.map Entry.name).Nodup := by decide

theorem follows_schema : fields.Follows schema := by
  have hfields : fields.Follows _ :=
    ((Follows.required .text id).map mk).seq (.required .text transaction)
      |>.seq (.required .instant instant)
      |>.seq (.required .text uri)
      |>.seq (.optional .text path)
      |>.seq (.required .method method)
      |>.seq (.required .text endpoint)
      |>.seq (.required .uint16 status)
      |>.seq (.required .int64 responseTime)
      |>.seq (.optional .int64 apiResponseTime)
      |>.seq (.optional .uint64 requestLength)
      |>.seq (.optional .uint64 responseLength)
      |>.seq (.optional .text localAddress)
      |>.seq (.optional .text remoteAddress)
      |>.seq (.optional .text tenant)
      |>.seq (.optional .text application)
      |>.seq (.optional .text api)
      |>.seq (.optional .text plan)
      |>.seq (.optional .text user)
      |>.seq (.optional .text apiKey)
      |>.seq (.optional .text gateway)
      |>.seq (.optional .text text)
  exact hfields

/-- The fields are read as the log that has what stands under their names. -/
theorem ofFields_eq_ok_iff {source : Keyed Json} {log : RequestLog} :
    fields.ofFields source.toList = .ok log ↔ ∀ entry ∈ schema, entry.Carries source log := by
  simp only [schema, List.forall_mem_cons, carries_required_iff .text,
    carries_required_iff .instant, carries_required_iff .method, carries_required_iff .uint16,
    carries_required_iff .int64, carries_optional_iff .text, carries_optional_iff .int64,
    carries_optional_iff .uint64]
  refine ⟨?_, ?_⟩
  · revert log
    unfold fields
    iterate 21 apply forall_ofFields_seq
    apply forall_ofFields_map
    intro id hid transaction htransaction instant hinstant uri huri path hpath method hmethod
      endpoint hendpoint status hstatus time htime apiTime hapiTime requestLength hrequestLength
      responseLength hresponseLength localAddress hlocal remoteAddress hremote tenant htenant
      application happlication api hapi plan hplan user huser key hkey gateway hgateway text htext
    exact ⟨hid, htransaction, hinstant, huri, hpath, hmethod, hendpoint, hstatus, htime, hapiTime,
      hrequestLength, hresponseLength, hlocal, hremote, htenant, happlication, hapi, hplan, huser,
      hkey, hgateway, htext, nofun⟩
  · rintro ⟨hid, htransaction, hinstant, huri, hpath, hmethod, hendpoint, hstatus, htime, hapiTime,
      hrequestLength, hresponseLength, hlocal, hremote, htenant, happlication, hapi, hplan, huser,
      hkey, hgateway, htext, -⟩
    unfold fields
    cases log
    iterate 21 refine ofFields_seq_ok ?_ (by assumption)
    exact ofFields_map_ok hid

/-- What a schema does not know plays no part in a request log. -/
theorem ofDocument_congr {source source' : Keyed Json}
    (hsame : ∀ entry ∈ schema, source.find? entry.name = source'.find? entry.name) :
    ofDocument (.object source.toList) = ofDocument (.object source'.toList) := by
  have hread := follows_schema.readFields_congr nodup_names_schema hsame
  simp only [ofDocument, Reader.part, record, hread]

end RequestLog

/-- **A request log is read by its schema.** An object is read as the log that carries what stands
under the names of the schema. That there is one takes no more than that every field is as the
schema allows; otherwise the fault is the one that the schema finds. What the object has under other
names changes nothing. -/
theorem request_logs_follow_schema (source : Keyed Json) :
    (∀ log, RequestLog.ofDocument (.object source.toList) = .ok log ↔
      ∀ entry ∈ RequestLog.schema, entry.Carries source log) ∧
    ((∃ log, RequestLog.ofDocument (.object source.toList) = .ok log) ↔
      ∀ entry ∈ RequestLog.schema, entry.Allows source) ∧
    (∀ fault, RequestLog.ofDocument (.object source.toList) = .error fault ↔
      ∃ cause, Reported RequestLog.schema source cause ∧
        fault = .unreadable "request log" cause) ∧
    ∀ other : Keyed Json,
      (∀ entry ∈ RequestLog.schema, source.find? entry.name = other.find? entry.name) →
        RequestLog.ofDocument (.object source.toList) =
          RequestLog.ofDocument (.object other.toList) := by
  have hfollows := RequestLog.follows_schema
  have hnames := RequestLog.nodup_names_schema
  have hok (log : RequestLog) : RequestLog.ofDocument (.object source.toList) = .ok log ↔
      RequestLog.fields.readFields source.toList = .ok log := part_eq_ok_iff
  refine ⟨fun log => ?_, ?_, fun fault => ?_, fun other => RequestLog.ofDocument_congr⟩
  · rw [hok, readFields_eq_ok_iff hfollows.byName source.nodup_keys, RequestLog.ofFields_eq_ok_iff]
  · simp only [hok]
    exact hfollows.exists_readFields_iff hnames
  · refine part_eq_error_iff.trans ?_
    simp only [← hfollows.readFields_eq_error_iff hnames]
    rfl

/-- Of two bad values the one of the lesser key is reported, though its field is declared later and
others are missing; an unknown field before it is passed over. -/
theorem request_log_of_bad_values :
    RequestLog.ofDocument
        (.object [("about", .null), ("api-key", .int 5), ("status", .int 70000)]) =
      .error (.unreadable "request log" (.mistyped (.int 5) "a string")) := by
  let source : Keyed Json :=
    ⟨[("about", .null), ("api-key", .int 5), ("status", .int 70000)], by decide⟩
  refine ((request_logs_follow_schema source).2.2.1 _).2 ⟨_, ?_, rfl⟩
  have hknown : Entry.optional "api-key" .text RequestLog.apiKey ∈ RequestLog.schema := by
    simp [RequestLog.schema]
  refine .misfit hknown ⟨rfl, ?_⟩ fun other hother value' hmisfit => ?_
  · rintro ⟨_ | key, h⟩
    · cases h
    · cases h.2
  · have hmem := Keyed.mem_toList_iff.2 hmisfit.1
    have hname : other.name ∈ RequestLog.schema.map Entry.name := List.mem_map_of_mem hother
    have hunknown : "about" ∉ RequestLog.schema.map Entry.name := by decide
    simp only [source, List.mem_cons, Prod.mk.injEq, List.not_mem_nil, or_false] at hmem
    rcases hmem with ⟨h, -⟩ | ⟨h, -⟩ | ⟨h, -⟩
    · rw [h] at hname
      exact absurd hname hunknown
    · rw [h]
      exact String.le_refl _
    · rw [h]
      decide

end Logbook
