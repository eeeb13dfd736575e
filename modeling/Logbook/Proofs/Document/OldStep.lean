import Logbook.Document.HealthCheck
import Logbook.Proofs.Document.RequestLog

/-!
# Old steps of health checks

An old step keeps the address, the method and the status on itself, and its address goes by two
names. `OldStep.schema` lists what it may say under each of its keys.

* `OldStep.readFields_of_one_name`: where one of the two names is absent, the step is read as what
  it says; `OldStep.readFields_of_both_names`: where both are there, it is not read at all.
* `old_steps_keep_their_data`: the exchange of a step has what the step says, or nothing.
-/

set_option autoImplicit false

namespace Logbook

open Fallible FieldReader

/-- What an old step says under each of its keys. -/
structure OldStep where
  uri : Option String
  url : Option String
  method : Option Method
  status : Option UInt16

namespace OldStep

/-- The keys of an old step. -/
def schema : List (Entry OldStep) :=
  [.optional "uri" .text uri, .optional "url" .text url, .optional "method" .method method,
    .optional "status" .uint16 status]

/-- The exchange of a step that has one of the two names of the address. -/
def exchange (old : OldStep) : Exchange :=
  ⟨⟨old.uri.or old.url, old.method, none, .empty⟩, ⟨old.status, none, .empty⟩⟩

open Exchange (flatFields)

/-! ## The keys of the fields -/

section
variable {key : String} {slot : Slot} (h : flatFields.slots.find? (·.answersTo key) = some slot)
include h

/-- A known key is the name of its field, or the other name of the address. -/
theorem key_of_known : key = slot.name ∨ key = "url" ∧ slot.name = "uri" := by
  have hmem := List.mem_of_find?_eq_some h
  have hanswers : slot.answersTo key = true := by simpa using List.find?_some h
  change slot ∈ [⟨"uri", ["url"], _⟩, ⟨"method", [], _⟩, ⟨"status", [], _⟩] at hmem
  simp only [List.mem_cons, List.not_mem_nil, or_false] at hmem
  rcases hmem with rfl | rfl | rfl
  · simpa [Slot.answersTo, eq_comm (a := key), or_comm] using hanswers
  · simpa [Slot.answersTo, eq_comm (a := key)] using hanswers
  · simpa [Slot.answersTo, eq_comm (a := key)] using hanswers

/-- The field of a known key takes what the schema has under the key. -/
theorem entry_of_known : ∃ entry ∈ schema, entry.name = key ∧
    ∀ {value}, entry.form.Fits value → slot.check value = .ok () := by
  have hmem := List.mem_of_find?_eq_some h
  have hkey := key_of_known h
  change slot ∈ [⟨"uri", ["url"], _⟩, ⟨"method", [], _⟩, ⟨"status", [], _⟩] at hmem
  simp only [List.mem_cons, List.not_mem_nil, or_false] at hmem
  rcases hmem with rfl | rfl | rfl
  · rcases hkey with rfl | ⟨rfl, -⟩
    · exact ⟨.optional "uri" .text uri, by simp [schema], rfl,
        Form.IsReadBy.text.orNull.check_of_fits⟩
    · exact ⟨.optional "url" .text url, by simp [schema], rfl,
        Form.IsReadBy.text.orNull.check_of_fits⟩
  · rcases hkey with rfl | ⟨-, hname⟩
    · exact ⟨.optional "method" .method method, by simp [schema], rfl,
        Form.IsReadBy.method.orNull.check_of_fits⟩
    · exact absurd hname (by decide)
  · rcases hkey with rfl | ⟨-, hname⟩
    · exact ⟨.optional "status" .uint16 status, by simp [schema], rfl,
        Form.IsReadBy.uint16.orNull.check_of_fits⟩
    · exact absurd hname (by decide)

/-- Two known keys of one field are the same, or the two names of the address. -/
theorem eq_or_both_names_of_known {key' : String} {slot' : Slot}
    (h' : flatFields.slots.find? (·.answersTo key') = some slot') (hname : slot.name = slot'.name) :
    key = key' ∨ key = "uri" ∧ key' = "url" ∨ key = "url" ∧ key' = "uri" := by
  rcases key_of_known h with hkey | ⟨hkey, huri⟩
  · rcases key_of_known h' with hkey' | ⟨hkey', huri'⟩
    · exact .inl (by rw [hkey, hkey', hname])
    · exact .inr (.inl ⟨by rw [hkey, hname, huri'], hkey'⟩)
  · rcases key_of_known h' with hkey' | ⟨hkey', -⟩
    · exact .inr (.inr ⟨hkey, by rw [hkey', ← hname, huri]⟩)
    · exact .inl (by rw [hkey, hkey'])

end

/-! ## Reading a step -/

variable {step : Keyed Json} {old : OldStep}

/-- A field stands twice in a step where both names of the address do. -/
theorem nodup_knownNames_flatFields_iff : (knownNames flatFields.slots step.toList).Nodup ↔
    ¬(step.contains "uri" ∧ step.contains "url") := by
  rw [nodup_knownNames_iff step.nodup_keys]
  constructor
  · rintro honce ⟨huri, hurl⟩
    obtain ⟨uri, huri⟩ := Option.isSome_iff_exists.1 huri
    obtain ⟨url, hurl⟩ := Option.isSome_iff_exists.1 hurl
    have hsame :=
      honce _ (Keyed.mem_toList_iff.2 huri) _ (Keyed.mem_toList_iff.2 hurl) "uri" rfl rfl
    exact absurd (Prod.mk.inj hsame).1 (by decide)
  · intro hone field hfield field' hfield' name hname hname'
    obtain ⟨slot, hslot, rfl⟩ := Option.map_eq_some_iff.1 hname
    obtain ⟨slot', hslot', hname'⟩ := Option.map_eq_some_iff.1 hname'
    have hfound {field : String × Json} (hmem : field ∈ step.toList) : step.contains field.1 := by
      rw [Keyed.contains, Keyed.mem_toList_iff.1 hmem]
      rfl
    rcases eq_or_both_names_of_known hslot hslot' hname'.symm with
      hkey | ⟨huri, hurl⟩ | ⟨hurl, huri⟩
    · exact List.inj_on_of_nodup_map step.nodup_keys hfield hfield' hkey
    · exact absurd ⟨huri ▸ hfound hfield, hurl ▸ hfound hfield'⟩ hone
    · exact absurd ⟨huri ▸ hfound hfield', hurl ▸ hfound hfield⟩ hone

section
variable (hone : ¬(step.contains "uri" ∧ step.contains "url"))
  (hdata : ∀ entry ∈ schema, entry.Carries step old)
include hone hdata

theorem visit_flatFields : visit flatFields.slots [] step.toList = .ok () := by
  refine visit_eq_ok_iff.2 ⟨nodup_knownNames_flatFields_iff.2 hone, fun _ _ => List.not_mem_nil,
    fun field hfield slot hslot => ?_⟩
  obtain ⟨entry, hmem, hname, hcheck⟩ := entry_of_known hslot
  have hfound : step.find? entry.name = some field.2 := by
    rw [hname]
    exact Keyed.mem_toList_iff.1 hfield
  have hcarries := hdata entry hmem
  rw [Entry.Carries, hfound] at hcarries
  exact hcheck ⟨_, hcarries⟩

theorem ofFields_address :
    (optional "uri" Reader.string ["url"]).ofFields step.toList = .ok (old.uri.or old.url) := by
  have huri := hdata (.optional "uri" .text uri) (by simp [schema])
  have hurl := hdata (.optional "url" .text url) (by simp [schema])
  have hread := (carries_optional_iff .text).1 huri
  have hread' := (carries_optional_iff .text).1 hurl
  have hnone : step.toList.lookup "uri" = none ∨ step.toList.lookup "url" = none := by
    rw [← Option.not_isSome_iff_eq_none, ← Option.not_isSome_iff_eq_none]
    exact not_and_or.1 hone
  unfold FieldReader.optional withDefault at hread hread' ⊢
  rw [ofFields_slot_eq] at hread hread'
  rw [ofFields_slot_of_one_name hnone]
  rcases hnone with hnone | hnone
  · rw [hnone, Option.none_or, hread']
    rw [hnone] at hread
    rw [← Except.ok.inj hread, Option.none_or]
  · rw [hnone, Option.or_none, hread]
    rw [hnone] at hread'
    rw [← Except.ok.inj hread', Option.or_none]

/-- Where only one name of the address stands in a step, the step is read as what it says. -/
theorem readFields_of_one_name : flatFields.readFields step.toList = .ok old.exchange := by
  have hmethod := hdata (.optional "method" .method method) (by simp [schema])
  have hstatus := hdata (.optional "status" .uint16 status) (by simp [schema])
  refine bind_eq_ok_iff.2 ⟨(), visit_flatFields hone hdata, ?_⟩
  exact ofFields_seq_ok (ofFields_seq_ok (ofFields_map_ok (ofFields_address hone hdata))
    ((carries_optional_iff .method).1 hmethod)) ((carries_optional_iff .uint16).1 hstatus)

end

/-- Where both names of the address stand in a step, it is not read, whatever it says. -/
theorem readFields_of_both_names (hboth : step.contains "uri" ∧ step.contains "url")
    (exchange : Exchange) : flatFields.readFields step.toList ≠ .ok exchange := by
  intro h
  obtain ⟨⟨⟩, hvisit, -⟩ := bind_eq_ok_iff.1 h
  exact nodup_knownNames_flatFields_iff.1 (visit_eq_ok_iff.1 hvisit).1 hboth

/-- The exchange of a step without a request in it is read from the step itself. -/
theorem ofStep_of_no_request
    (hflat : ∀ request, step.find? "request" = some request → request.isObject = false) :
    Exchange.ofStep (.object step.toList) =
      (flatFields.readFields step.toList).toOption.getD .unknown := by
  have hrequest : Exchange.objectField? (.object step.toList) "request" = none := by
    refine Option.filter_eq_none_iff.2 fun request hfound => ?_
    rw [hflat request hfound]
    decide
  have hnested : Exchange.ofNested? (.object step.toList) = none := by
    rw [Exchange.ofNested?, hrequest]
    rfl
  rw [Exchange.ofStep, hnested]
  rfl

end OldStep

/-- **An old step keeps its data, unless both names of its address stand in it.** The exchange of a
step that has no request in it, and under each key of an old step a value of its form, `null` or
nothing, has the address, the method and the status that the step says. Where both `uri` and `url`
stand in the step, even with `null` under one of them, nothing of the exchange is known. -/
theorem old_steps_keep_their_data {step : Keyed Json} {old : OldStep}
    (hflat : ∀ request, step.find? "request" = some request → request.isObject = false)
    (hdata : ∀ entry ∈ OldStep.schema, entry.Carries step old)
    (haddress : old.uri.isSome ∨ old.url.isSome) :
    (¬(step.contains "uri" ∧ step.contains "url") →
      ∃ address, (old.uri = some address ∨ old.url = some address) ∧
        (HealthStep.ofJson (.object step.toList)).exchange =
          ⟨⟨some address, old.method, none, .empty⟩, ⟨old.status, none, .empty⟩⟩) ∧
    (step.contains "uri" ∧ step.contains "url" →
      (HealthStep.ofJson (.object step.toList)).exchange = .unknown) := by
  have hexchange : (HealthStep.ofJson (.object step.toList)).exchange =
      (Exchange.flatFields.readFields step.toList).toOption.getD .unknown :=
    OldStep.ofStep_of_no_request hflat
  rw [hexchange]
  refine ⟨fun hone => ?_, fun hboth => ?_⟩
  · obtain ⟨address, haddress⟩ : ∃ address, old.uri.or old.url = some address := by
      rw [← Option.isSome_iff_exists, Option.isSome_or, Bool.or_eq_true]
      exact haddress
    refine ⟨address, ?_, ?_⟩
    · exact (Option.or_eq_some_iff.1 haddress).imp_right And.right
    · rw [OldStep.readFields_of_one_name hone hdata, OldStep.exchange, haddress]
      rfl
  · cases hread : Exchange.flatFields.readFields step.toList with
    | ok exchange => exact absurd hread (OldStep.readFields_of_both_names hboth exchange)
    | error fault => rfl

/-- A step with `null` for its request is an old one, and its method may be a code. -/
theorem old_step_beside_null_request :
    (HealthStep.ofJson (.object [("method", .int 2), ("request", .null),
      ("uri", .string "http://backend/ping")])).exchange =
        ⟨⟨some "http://backend/ping", some .get, none, .empty⟩, ⟨none, none, .empty⟩⟩ := by
  let step : Keyed Json :=
    ⟨[("method", .int 2), ("request", .null), ("uri", .string "http://backend/ping")], by decide⟩
  let old : OldStep := ⟨some "http://backend/ping", none, some .get, none⟩
  have hflat (request : Json) (h : step.find? "request" = some request) :
      request.isObject = false := by
    cases h
    rfl
  have hdata : ∀ entry ∈ OldStep.schema, entry.Carries step old := by
    simp only [OldStep.schema, List.forall_mem_cons]
    exact ⟨⟨nofun, rfl⟩, rfl, ⟨nofun, .inl ⟨2, rfl, rfl⟩⟩, rfl, nofun⟩
  obtain ⟨address, haddress, hexchange⟩ :=
    (old_steps_keep_their_data hflat hdata (.inl rfl)).1 (by decide)
  have huri : address = "http://backend/ping" := by simpa [old, eq_comm] using haddress
  rw [huri] at hexchange
  exact hexchange

/-- With `null` under the other name of its address a step loses address, method and status. -/
theorem old_step_with_null_uri :
    let step : Keyed Json := ⟨[("method", .string "GET"), ("status", .int 503), ("uri", .null),
      ("url", .string "http://backend/health")], by decide⟩
    let old : OldStep := ⟨none, some "http://backend/health", some .get, some 503⟩
    let exchange := (HealthStep.ofJson (.object step.toList)).exchange
    (∀ request, step.find? "request" = some request → request.isObject = false) ∧
      (∀ entry ∈ OldStep.schema, entry.Carries step old) ∧ (old.uri.isSome ∨ old.url.isSome) ∧
      exchange.request.uri = none ∧ exchange.request.method = none ∧
      exchange.response.status = none := by
  refine ⟨nofun, ?_, .inr rfl, by decide +kernel, by decide +kernel, by decide +kernel⟩
  simp only [OldStep.schema, List.forall_mem_cons]
  exact ⟨rfl, ⟨nofun, rfl⟩, ⟨nofun, .inr ⟨_, rfl, by decide +kernel⟩⟩, ⟨nofun, rfl⟩, nofun⟩

end Logbook
