import Logbook.Document.HealthCheck
import Logbook.Document.Monitoring
import Logbook.Document.RequestLog
import Logbook.Proofs.Calendar.Timestamp
import Logbook.Proofs.Json.Fields
import Logbook.Proofs.Json.Written

/-!
# Instants in documents

A document says under `@timestamp` when it was written, as a number of milliseconds or as text.

* `ReadAlike`: two documents of which every reader makes the same; documents that differ in two
  values under `@timestamp` that name one instant (`readAlike_of_readInstant`).
* `Dates`: whatever record is read from a document has a given instant; the one that the value
  under `@timestamp` names (`dates_of_readInstant`).
* `timestamps_read_back`: an instant that is written from an offset, with a local year of four
  digits, is read back, by itself and in documents.
-/

set_option autoImplicit false

namespace Logbook

open Fallible FieldReader

/-- Every reader of documents makes the same of two of them. -/
structure ReadAlike (source source' : Json) : Prop where
  requestLog : RequestLog.ofDocument source = RequestLog.ofDocument source'
  fullRequestLog : FullRequestLog.ofDocument source = FullRequestLog.ofDocument source'
  monitoring : Monitoring.ofDocument source = Monitoring.ofDocument source'
  healthCheck : ∀ hit : Hit,
    HealthCheck.ofHit { hit with source } = HealthCheck.ofHit { hit with source := source' }
  healthSummary : ∀ hit : Hit,
    HealthSummary.ofHit { hit with source } = HealthSummary.ofHit { hit with source := source' }
  fullHealthCheck : ∀ hit : Hit,
    FullHealthCheck.ofHit { hit with source } = FullHealthCheck.ofHit { hit with source := source' }

/-- Every record that is read from a document has the instant. -/
structure Dates (source : Json) (instant : Int64) : Prop where
  requestLog : ∀ log, RequestLog.ofDocument source = .ok log → log.instant = instant
  fullRequestLog : ∀ log, FullRequestLog.ofDocument source = .ok log →
    log.summary.instant = instant
  monitoring : ∀ report, Monitoring.ofDocument source = .ok report → report.instant = instant
  healthSummary : ∀ (hit : Hit) (summary : HealthSummary),
    HealthSummary.ofHit { hit with source } = .ok summary → summary.check.instant = instant
  fullHealthCheck : ∀ (hit : Hit) (full : FullHealthCheck),
    FullHealthCheck.ofHit { hit with source } = .ok full → full.check.instant = instant

/-! ## Two values for one instant -/

section
variable {value value' : Json} (h : readInstant value = readInstant value')
include h

theorem takesAlike_requestLog : RequestLog.fields.TakesAlike "@timestamp" value value' := by
  unfold RequestLog.fields
  iterate 13 refine .seq ?_ (.optional fun hname => absurd hname (by decide))
  iterate 4 refine .seq ?_ (.required fun hname => absurd hname (by decide))
  refine .seq ?_ (.optional fun hname => absurd hname (by decide))
  refine .seq ?_ (.required fun hname => absurd hname (by decide))
  refine .seq ?_ (.required fun _ => h)
  refine .seq ?_ (.required fun hname => absurd hname (by decide))
  exact .map _ (.required fun hname => absurd hname (by decide))

theorem takesAlike_healthCheck (id : String) :
    (HealthCheck.fields id).TakesAlike "@timestamp" value value' := by
  unfold HealthCheck.fields
  iterate 5 refine .seq ?_ (.withDefault fun hname => absurd hname (by decide))
  iterate 2 refine .seq ?_ (.optional fun hname => absurd hname (by decide))
  exact .map _ (.required fun _ => h)

variable (before after : List (String × Json))

theorem monitoring_read_eq :
    Monitoring.read (.object (before ++ ("@timestamp", value) :: after)) =
      Monitoring.read (.object (before ++ ("@timestamp", value') :: after)) := by
  unfold Monitoring.read
  refine TakesAlike.readFields ?_
  iterate 3 refine .seq ?_ (.withDefault fun hname => absurd hname (by decide))
  refine .seq ?_ (.optional fun hname => absurd hname (by decide))
  refine .seq ?_ (.required fun _ => h)
  exact .map _ (.required fun hname => absurd hname (by decide))

theorem readAlike_of_readInstant :
    ReadAlike (.object (before ++ ("@timestamp", value) :: after))
      (.object (before ++ ("@timestamp", value') :: after)) := by
  have hlog : RequestLog.ofDocument (.object (before ++ ("@timestamp", value) :: after)) =
      RequestLog.ofDocument (.object (before ++ ("@timestamp", value') :: after)) := by
    simp only [RequestLog.ofDocument, Reader.part, record, (takesAlike_requestLog h).readFields]
  have hleg {α : Type} (read : Reader α) (ofHeaders : Headers → α) (name : String)
      (hname : name ≠ "@timestamp" ∧ name ++ "-headers" ≠ "@timestamp") :
      leg read ofHeaders (.object (before ++ ("@timestamp", value) :: after)) name =
        leg read ofHeaders (.object (before ++ ("@timestamp", value') :: after)) name := by
    simp only [leg, present?, Json.field?, Keyed.lookup_append_cons_of_ne _ hname.1,
      Keyed.lookup_append_cons_of_ne _ hname.2]
  have hcheck (hit : Hit) :
      HealthCheck.ofHit { hit with source := .object (before ++ ("@timestamp", value) :: after) } =
        HealthCheck.ofHit
          { hit with source := .object (before ++ ("@timestamp", value') :: after) } := by
    unfold HealthCheck.ofHit
    cases hit.id with
    | none => rfl
    | some id => simp only [Reader.part, record, (takesAlike_healthCheck h id).readFields]
  refine ⟨hlog, ?_, ?_, hcheck, fun hit => ?_, fun hit => ?_⟩
  · simp only [FullRequestLog.ofDocument, hlog]
    rw [hleg _ _ "client-request" (by decide), hleg _ _ "proxy-request" (by decide),
      hleg _ _ "client-response" (by decide), hleg _ _ "proxy-response" (by decide)]
  · simp only [Monitoring.ofDocument, Reader.part, monitoring_read_eq h]
  · simp only [HealthSummary.ofHit, hcheck hit]
  · simp only [FullHealthCheck.ofHit, hcheck hit]

end

/-! ## The instant of a record -/

section
variable {fields : List (String × Json)}

theorem readInstant_of_requestLog : ∀ log, RequestLog.fields.ofFields fields = .ok log →
    ∃ value, fields.lookup "@timestamp" = some value ∧ readInstant value = .ok log.instant := by
  unfold RequestLog.fields
  iterate 21 apply forall_ofFields_seq
  apply forall_ofFields_map
  intro id _ transaction _ instant hinstant
  intros
  exact ofFields_required_eq_ok_iff.1 hinstant

theorem readInstant_of_healthCheck (id : String) :
    ∀ read, (HealthCheck.fields id).ofFields fields = .ok read →
      ∃ value, fields.lookup "@timestamp" = some value ∧
        readInstant value = .ok read.1.instant := by
  unfold HealthCheck.fields
  iterate 7 apply forall_ofFields_seq
  apply forall_ofFields_map
  intro instant hinstant
  intros
  exact ofFields_required_eq_ok_iff.1 hinstant

theorem readInstant_of_monitoring (report : Monitoring)
    (h : Monitoring.read (.object fields) = .ok report) :
    ∃ value, fields.lookup "@timestamp" = some value ∧ readInstant value = .ok report.instant := by
  obtain ⟨-, -, hreport⟩ := Fallible.bind_eq_ok_iff.1 h
  clear h
  revert report
  iterate 5 apply forall_ofFields_seq
  apply forall_ofFields_map
  intro gateway _ instant hinstant
  intros
  exact ofFields_required_eq_ok_iff.1 hinstant

theorem part_eq_ok_iff {α : Type} {name : String} {read : Reader α} {value : Json} {a : α} :
    read.part name value = .ok a ↔ read value = .ok a := by
  unfold Reader.part
  split <;> simp [*]

theorem part_eq_error_iff {α : Type} {name : String} {read : Reader α} {value : Json}
    {fault : DocumentFault} : read.part name value = .error fault ↔
      ∃ cause, read value = .error cause ∧ fault = .unreadable name cause := by
  unfold Reader.part
  split <;> simp [*, eq_comm]

/-- Whatever is read from a document has the instant that the document names. -/
theorem dates_of_readInstant {value : Json} {instant : Int64}
    (hvalue : fields.lookup "@timestamp" = some value) (hread : readInstant value = .ok instant) :
    Dates (.object fields) instant := by
  have hsame {other : Int64} (h : ∃ value', fields.lookup "@timestamp" = some value' ∧
      readInstant value' = .ok other) : other = instant := by
    obtain ⟨value', hvalue', hread'⟩ := h
    rw [hvalue, Option.some.injEq] at hvalue'
    rw [← hvalue', hread, Except.ok.injEq] at hread'
    exact hread'.symm
  have hlog (log : RequestLog) (h : RequestLog.ofDocument (.object fields) = .ok log) :
      log.instant = instant := by
    obtain ⟨-, -, h⟩ := Fallible.bind_eq_ok_iff.1 (part_eq_ok_iff.1 h)
    exact hsame (readInstant_of_requestLog log h)
  have hcheck (hit : Hit) (read : HealthCheck × List Json)
      (h : HealthCheck.ofHit { hit with source := .object fields } = .ok read) :
      read.1.instant = instant := by
    unfold HealthCheck.ofHit at h
    split at h
    · cases h
    · obtain ⟨-, -, h⟩ := Fallible.bind_eq_ok_iff.1 (part_eq_ok_iff.1 h)
      exact hsame (readInstant_of_healthCheck _ read h)
  refine ⟨hlog, fun log h => ?_, fun report h => ?_, fun hit summary h => ?_,
    fun hit full h => ?_⟩
  · obtain ⟨summary, hsummary, h⟩ := Fallible.bind_eq_ok_iff.1 h
    obtain ⟨_, -, h⟩ := Fallible.bind_eq_ok_iff.1 h
    obtain ⟨_, -, h⟩ := Fallible.bind_eq_ok_iff.1 h
    obtain ⟨_, -, h⟩ := Fallible.bind_eq_ok_iff.1 h
    obtain ⟨_, -, h⟩ := Fallible.bind_eq_ok_iff.1 h
    cases h
    exact hlog summary hsummary
  · exact hsame (readInstant_of_monitoring report (part_eq_ok_iff.1 h))
  · obtain ⟨read, hread, h⟩ := Fallible.bind_eq_ok_iff.1 h
    cases h
    exact hcheck hit read hread
  · obtain ⟨read, hread, h⟩ := Fallible.bind_eq_ok_iff.1 h
    cases h
    exact hcheck hit read hread

end

/-! ## Written instants -/

/-- A number names the instant it is. -/
theorem readInstant_ofInt64 (instant : Int64) : readInstant (.ofInt64 instant) = .ok instant := by
  unfold readInstant
  rw [Reader.int64_ofInt64]

theorem readInstant_string {text : String} {instant : Int64}
    (h : readInstantText text = .ok instant) : readInstant (.string text) = .ok instant := by
  obtain ⟨fault, hfault⟩ : ∃ fault, Reader.int64 (.string text) = .error fault := ⟨_, rfl⟩
  unfold readInstant
  rw [hfault]
  dsimp only
  rw [h]

theorem readInstantText_timestampText {instant : Int64} {offset : Offset} {zone : List Char}
    (hfour : (Date.ofDay (localDay offset instant.toInt)).HasFourDigits)
    (hzone : offset.Spells zone) :
    readInstantText (timestampText offset zone instant.toInt) = .ok instant := by
  rw [readInstantText, instantOfText?_timestampText hfour hzone]
  exact congrArg Except.ok instant.ofInt_toInt

/-- **Written instants are read back exactly.** An instant that falls in a year of four digits, as
seen from an offset, and is written with a spelling of that offset, is read as itself, so that all
its spellings from all such offsets are read alike. A document is read alike whether it names the
instant by this text or by the number, and what is read has the instant. -/
theorem timestamps_read_back {instant : Int64} {offset : Offset} {zone : List Char}
    (hfour : (Date.ofDay (localDay offset instant.toInt)).HasFourDigits)
    (hzone : offset.Spells zone) :
    let text := timestampText offset zone instant.toInt
    readInstantText text = .ok instant ∧
    (∀ (other : Offset) (spelling : List Char),
      (Date.ofDay (localDay other instant.toInt)).HasFourDigits → other.Spells spelling →
        readInstantText (timestampText other spelling instant.toInt) = readInstantText text) ∧
    (∀ before after : List (String × Json),
      ReadAlike (.object (before ++ ("@timestamp", .string text) :: after))
        (.object (before ++ ("@timestamp", .ofInt64 instant) :: after))) ∧
    ∀ fields : List (String × Json), fields.lookup "@timestamp" = some (.string text) ∨
      fields.lookup "@timestamp" = some (.ofInt64 instant) → Dates (.object fields) instant := by
  intro text
  have hread : readInstantText text = .ok instant := readInstantText_timestampText hfour hzone
  have htext := readInstant_string hread
  have hnumber := readInstant_ofInt64 instant
  refine ⟨hread, fun other spelling hfour' hspelling => ?_, fun before after => ?_,
    fun fields h => ?_⟩
  · rw [hread, readInstantText_timestampText hfour' hspelling]
  · exact readAlike_of_readInstant (htext.trans hnumber.symm) before after
  · rcases h with h | h
    · exact dates_of_readInstant h htext
    · exact dates_of_readInstant h hnumber

/-- A millisecond before the beginning of 1970, written in the next year from an offset of five and
a half hours and in the old one with `Z`, and a request log with that instant in both forms. -/
theorem timestamps_read_back_at_new_year :
    let text := "1970-01-01T05:29:59.999+0530"
    let document (value : Json) : Json := .object [("id", .string "r-1"),
      ("transaction", .string "t-1"), ("@timestamp", value), ("uri", .string "/"),
      ("method", .string "GET"), ("endpoint", .string "http://h/"), ("status", .int 200),
      ("response-time", .int 3)]
    readInstantText text = .ok (-1) ∧
    readInstantText "1969-12-31T23:59:59.999Z" = .ok (-1) ∧
    ∃ log, RequestLog.ofDocument (document (.string text)) = .ok log ∧
      RequestLog.ofDocument (document (.int (-1))) = .ok log ∧ log.instant = -1 := by
  intro text document
  let offset : Offset := ⟨330, by decide, by decide⟩
  have htext : timestampText offset (Offset.signedChars false 5 [] 30) (-1) = text := by cbv
  have hutc : timestampText Offset.utc ['Z'] (-1) = "1969-12-31T23:59:59.999Z" := by cbv
  have hspelled : offset.Spells (Offset.signedChars false 5 [] 30) :=
    .signed (by decide) (by decide) (.inr rfl) rfl
  obtain ⟨hread, hother, halike, hdates⟩ :=
    @timestamps_read_back (-1) offset _ ⟨by decide, by decide⟩ hspelled
  have hsame := hother Offset.utc ['Z'] ⟨by decide, by decide⟩ (.letter rfl)
  have hminus : (-1 : Int64).toInt = -1 := rfl
  rw [hminus] at hread hother halike hdates hsame
  rw [htext] at hread halike hdates hsame
  rw [hutc, hread] at hsame
  have hsome : (RequestLog.ofDocument (document (.int (-1)))).toOption.isSome = true := by
    decide +kernel
  obtain ⟨log, hlog⟩ := Option.isSome_iff_exists.1 hsome
  rw [toOption_eq_some_iff] at hlog
  refine ⟨hread, hsame, log, ?_, hlog, ?_⟩
  · rw [← hlog]
    exact (halike [("id", .string "r-1"), ("transaction", .string "t-1")] _).requestLog
  · exact (hdates _ (.inr rfl)).requestLog log hlog

end Logbook
