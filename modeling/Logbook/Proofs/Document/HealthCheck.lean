import Logbook.Proofs.Document.Instant
import Logbook.Proofs.Json.Places
import Logbook.Proofs.Json.Yields

/-!
# Two readings of a health check

The summary of a check and the check with all its steps are read from the same hit.
`HasSteps` says which steps the source of a hit lists, as an object or as an array.

* `agree_ofHit`: of two sources that differ in nothing but the steps that they list, a check is read
  with the same fault or with all but the steps the same.
* `health_readings_agree`: the two readings fail together; otherwise they share what the check has
  beside its steps, and the summary has what the first step has.
-/

set_option autoImplicit false

namespace Logbook

open Fallible FieldReader

/-- The steps that the source of a hit lists. -/
inductive HasSteps : Json → List Json → Prop
  | field {fields : List (String × Json)} {steps : List Json}
    (found : fields.lookup "steps" = some (.array steps)) : HasSteps (.object fields) steps
  | noField {fields : List (String × Json)} (absent : fields.lookup "steps" = none) :
    HasSteps (.object fields) []
  | item {items steps : List Json} (found : items[7]? = some (.array steps)) :
    HasSteps (.array items) steps
  | noItem {items : List Json} (short : items.length ≤ 7) : HasSteps (.array items) []

/-- The sources of two hits that differ in nothing but the steps that they list. -/
inductive DifferInSteps : Json → Json → Prop
  | field (before after : List (String × Json)) (steps steps' : List Json) :
    DifferInSteps (.object (before ++ ("steps", .array steps) :: after))
      (.object (before ++ ("steps", .array steps') :: after))
  | item (before after steps steps' : List Json) (place : before.length = 7) :
    DifferInSteps (.array (before ++ .array steps :: after))
      (.array (before ++ .array steps' :: after))

namespace Reader

/-- An array of any values is read as those values. -/
theorem list_json_array (values : List Json) :
    list json (.array values) = .ok (values.map Json.canonical) :=
  items_eq_ok_iff.2 (List.forall₂_map_right_iff.2 (List.forall₂_same.2 fun _ _ => rfl))

theorem list_json_eq_ok_iff {value : Json} {values : List Json} :
    list json value = .ok values ↔
      ∃ items, value = .array items ∧ values = items.map Json.canonical := by
  cases value with
  | array items => simp [list_json_array, eq_comm]
  | null | bool | int | float | string | object => simp [list]

end Reader

/-! ## Records that end in steps -/

/-- The steps of a record, of any content. -/
def stepsField : FieldReader (List Json) := .withDefault "steps" (Reader.list Reader.json) []

theorem agree_ofFields_stepsField (before after : List (String × Json)) (steps steps' : List Json) :
    Agree (fun _ _ => True) (stepsField.ofFields (before ++ ("steps", .array steps) :: after))
      (stepsField.ofFields (before ++ ("steps", .array steps') :: after)) := by
  rw [stepsField, withDefault, ofFields_slot_eq, ofFields_slot_eq, List.lookup_append,
    List.lookup_append]
  cases before.lookup "steps" with
  | some value => exact .refl (fun _ => trivial) _
  | none =>
    rw [Option.none_or, Option.none_or, Keyed.lookup_cons, Keyed.lookup_cons, if_pos rfl,
      if_pos rfl, Option.elim_some, Option.elim_some, Reader.list_json_array,
      Reader.list_json_array]
    exact .ok trivial

/-- The fields before the steps: seven, which look neither at the steps nor at what follows them,
and of which something is made that the steps are put beside. -/
structure LeadsToSteps {γ : Type} (f : FieldReader (List Json → γ × List Json)) : Prop where
  takesAlike : ∀ value value', f.TakesAlike "steps" value value'
  byPlace : f.ByPlace
  slots : f.slots.length = 7
  yields : Yields (fun _ => True) f fun g => ∃ c, g = fun steps => (c, steps)

namespace LeadsToSteps

variable {γ : Type} {f : FieldReader (List Json → γ × List Json)} (hf : LeadsToSteps f)
include hf

theorem visit_eq {before after : List (String × Json)} {steps steps' : List Json} :
    visit (f <*> stepsField).slots [] (before ++ ("steps", .array steps) :: after) =
      visit (f <*> stepsField).slots [] (before ++ ("steps", .array steps') :: after) := by
  refine visit_append_cons_congr (fun slot hslot => ?_) []
  have hanswers : slot.answersTo "steps" := by simpa using List.find?_some hslot
  rcases List.mem_append.1 (List.mem_of_find?_eq_some hslot) with hmem | hmem
  · exact (hf.takesAlike _ _).check slot hmem hanswers
  · rw [List.mem_singleton.1 hmem]
    show (Reader.list _ _).map _ = (Reader.list _ _).map _
    rw [Reader.list_json_array, Reader.list_json_array]
    rfl

theorem agree_readFields (before after : List (String × Json)) (steps steps' : List Json) :
    Agree (fun a b => a.1 = b.1)
      ((f <*> stepsField).readFields (before ++ ("steps", .array steps) :: after))
      ((f <*> stepsField).readFields (before ++ ("steps", .array steps') :: after)) := by
  unfold readFields
  rw [hf.visit_eq]
  refine (Agree.refl (fun _ => rfl) _).bind fun _ _ (_ : _ = _) => ?_
  change Agree _ (f.ofFields _ >>= fun g => stepsField.ofFields _ >>= fun a => .ok (g a))
    (f.ofFields _ >>= fun g => stepsField.ofFields _ >>= fun a => .ok (g a))
  rw [(hf.takesAlike (.array steps) (.array steps')).ofFields before after]
  cases hg : f.ofFields (before ++ ("steps", .array steps') :: after) with
  | error fault => exact .error fault
  | ok g =>
    obtain ⟨c, rfl⟩ := hf.yields.ofFields (fun _ _ => trivial) hg
    exact (agree_ofFields_stepsField before after steps steps').bind fun _ _ _ => .ok rfl

/-- From an array the steps are taken as they stand in their place. -/
theorem exists_ofItems (short : Nat → Fault) {before : List Json} (place : before.length = 7) :
    ∃ outcome : Except Fault γ, ∀ (steps after : List Json),
      (f <*> stepsField).ofItems short 0 (before ++ .array steps :: after) =
        outcome.map fun c => ((c, steps.map Json.canonical), 0 + before.length + 1, after) := by
  obtain ⟨outcome, houtcome⟩ := hf.byPlace.ofItems_append short 0 before
    (place.trans hf.slots.symm)
  have hread (steps after : List Json) :
      (f <*> stepsField).ofItems short 0 (before ++ .array steps :: after) =
        outcome.map fun g => (g (steps.map Json.canonical), 0 + before.length + 1, after) := by
    change (f.ofItems _ _ _ >>= fun x => stepsField.ofItems _ x.2.1 x.2.2 >>= fun y =>
      .ok (x.1 y.1, y.2.1, y.2.2)) = _
    rw [houtcome]
    cases outcome with
    | error fault => rfl
    | ok g =>
      change ((Reader.list Reader.json (.array steps)).map _ >>= _) = _
      rw [Reader.list_json_array]
      rfl
  cases outcome with
  | error fault => exact ⟨.error fault, hread⟩
  | ok g =>
    obtain ⟨⟨c, rfl⟩, -⟩ := hf.yields.ofItems (fun _ _ => trivial) (houtcome [])
    exact ⟨.ok c, hread⟩

theorem agree_readItems (name : String) {before : List Json} (place : before.length = 7)
    (after steps steps' : List Json) :
    Agree (fun a b => a.1 = b.1)
      ((f <*> stepsField).readItems name (before ++ .array steps :: after))
      ((f <*> stepsField).readItems name (before ++ .array steps' :: after)) := by
  have hlength : (before ++ Json.array steps :: after).length =
      (before ++ Json.array steps' :: after).length := by simp
  unfold readItems
  obtain ⟨outcome, hread⟩ := hf.exists_ofItems
    (fun place => .tooShort place ((f <*> stepsField).shape name)) place
  rw [hread, hread, hlength]
  cases outcome with
  | error fault => exact .error fault
  | ok c =>
    show Agree _ (if after.isEmpty then _ else _) (if after.isEmpty then _ else _)
    split
    · exact .ok rfl
    · exact .error _

/-- What stands in the steps makes no difference but to the steps. -/
theorem agree_record {source source' : Json} (name : String) (h : DifferInSteps source source') :
    Agree (fun a b => a.1 = b.1) ((f <*> stepsField).record name source)
      ((f <*> stepsField).record name source') := by
  cases h with
  | field before after steps steps' => exact hf.agree_readFields before after steps steps'
  | item before after steps steps' place => exact hf.agree_readItems name place after steps steps'

theorem hasSteps_of_ofFields {fields : List (String × Json)} {c : γ} {steps : List Json}
    (h : (f <*> stepsField).ofFields fields = .ok (c, steps)) :
    ∃ items, HasSteps (.object fields) items ∧ steps = items.map Json.canonical := by
  obtain ⟨g, values, hg, hvalues, h⟩ := ofFields_seq_eq_ok_iff.1 h
  obtain ⟨c', rfl⟩ := hf.yields.ofFields (fun _ _ => trivial) hg
  cases h
  rw [stepsField, withDefault, ofFields_slot_eq] at hvalues
  cases hlookup : fields.lookup "steps" with
  | none =>
    rw [hlookup] at hvalues
    cases hvalues
    exact ⟨[], .noField hlookup, rfl⟩
  | some value =>
    rw [hlookup] at hvalues
    obtain ⟨items, rfl, rfl⟩ := Reader.list_json_eq_ok_iff.1 hvalues
    exact ⟨items, .field hlookup, rfl⟩

theorem hasSteps_of_ofItems {short : Nat → Fault} {items steps rest : List Json} {c : γ}
    {last : Nat}
    (h : (f <*> stepsField).ofItems short 0 items = .ok ((c, steps), last, rest)) :
    ∃ items', HasSteps (.array items) items' ∧ steps = items'.map Json.canonical := by
  obtain ⟨g, values, place, rest', hg, hvalues, h⟩ := ofItems_seq_eq_ok_iff.1 h
  obtain ⟨⟨c', rfl⟩, -⟩ := hf.yields.ofItems (fun _ _ => trivial) hg
  have hrest := hf.byPlace.rest_eq hg
  rw [hf.slots] at hrest
  cases h
  cases rest' with
  | nil =>
    cases hvalues
    exact ⟨[], .noItem (List.drop_eq_nil_iff.1 hrest.symm), rfl⟩
  | cons value rest' =>
    obtain ⟨hread, -, -⟩ := ofItems_withDefault_cons_eq_ok_iff.1 hvalues
    obtain ⟨steps', rfl, rfl⟩ := Reader.list_json_eq_ok_iff.1 hread
    refine ⟨steps', .item ?_, rfl⟩
    rw [← List.head?_drop, ← hrest, List.head?_cons]

/-- The steps are those that the source lists. -/
theorem hasSteps {name : String} {source : Json} {c : γ} {steps : List Json}
    (h : (f <*> stepsField).record name source = .ok (c, steps)) :
    ∃ items, HasSteps source items ∧ steps = items.map Json.canonical := by
  cases source with
  | object fields =>
    obtain ⟨-, -, h⟩ := bind_eq_ok_iff.1 h
    exact hf.hasSteps_of_ofFields h
  | array items =>
    obtain ⟨last, h⟩ := readItems_eq_ok_iff.1 h
    exact hf.hasSteps_of_ofItems h
  | null | bool | int | float | string => cases h

end LeadsToSteps

theorem agree_part {α : Type} {R : α → α → Prop} {read : Reader α} {name : String}
    {value value' : Json} (h : Agree R (read value) (read value')) :
    Agree R (read.part name value) (read.part name value') := by
  unfold Reader.part
  generalize read value = outcome, read value' = outcome' at h
  cases h with
  | ok h => exact .ok h
  | error fault => exact .error _

namespace HealthCheck

theorem leadsToSteps (id : String) : ∃ f, LeadsToSteps f ∧ fields id = f <*> stepsField := by
  refine ⟨_, ⟨fun value value' => ?_, ?_, ?_, ?_⟩, rfl⟩
  · iterate 4 refine .seq ?_ (.withDefault fun hname => absurd hname (by decide))
    iterate 2 refine .seq ?_ (.optional fun hname => absurd hname (by decide))
    exact .map _ (.required fun hname => absurd hname (by decide))
  · iterate 4 refine .seq ?_ (.withDefault _ _ _)
    iterate 2 refine .seq ?_ (.optional _ _)
    exact .map _ (.required _ _)
  · rfl
  · iterate 6 refine .seq ?_ (.any _)
    exact .map (.any _) fun _ _ _ _ _ _ _ _ _ _ _ _ _ _ => ⟨_, rfl⟩

/-- A check is read from a hit, with the steps that its source lists. -/
theorem hasSteps_of_ofHit {hit : Hit} {check : HealthCheck} {steps : List Json}
    (h : ofHit hit = .ok (check, steps)) :
    ∃ items, HasSteps hit.source items ∧ steps = items.map Json.canonical := by
  unfold ofHit at h
  split at h
  · cases h
  · rename_i id _
    obtain ⟨f, hf, hfields⟩ := leadsToSteps id
    rw [part_eq_ok_iff, hfields] at h
    exact hf.hasSteps h

/-- What stands in the steps of a hit makes no difference to what a check has beside them, or to
whether it is read. -/
theorem agree_ofHit {hit : Hit} {source : Json} (h : DifferInSteps hit.source source) :
    Agree (fun a b => a.1 = b.1) (ofHit hit) (ofHit { hit with source }) := by
  unfold ofHit
  cases hit.id with
  | none => exact .error _
  | some id =>
    obtain ⟨f, hf, hfields⟩ := leadsToSteps id
    show Agree _ (((fields id).record "RawHealth").part _ hit.source)
      (((fields id).record "RawHealth").part _ source)
    rw [hfields]
    exact agree_part (hf.agree_record "RawHealth" h)

end HealthCheck

/-- **The two readings of a health check agree.** They fail together with the same fault. Otherwise
they share all that the check has beside its steps; there is a step for each that the source lists,
in the same order; and the summary has the address, the method and the status of the first one, or
nothing where there is none. What stands in the steps never makes either of them fail. -/
theorem health_readings_agree (hit : Hit) :
    (∀ fault, HealthSummary.ofHit hit = .error fault ↔ FullHealthCheck.ofHit hit = .error fault) ∧
    (∀ summary full, HealthSummary.ofHit hit = .ok summary → FullHealthCheck.ofHit hit = .ok full →
      summary.check = full.check ∧
      (∃ steps, HasSteps hit.source steps ∧
        full.steps = steps.map fun step => .ofJson step.canonical) ∧
      summary.uri = full.steps.head?.bind (·.exchange.request.uri) ∧
      summary.method = full.steps.head?.bind (·.exchange.request.method) ∧
      summary.status = full.steps.head?.bind (·.exchange.response.status)) ∧
    ∀ source, DifferInSteps hit.source source →
      Agree (fun a b => a.check = b.check)
        (HealthSummary.ofHit hit) (HealthSummary.ofHit { hit with source }) ∧
      Agree (fun a b => a.check = b.check)
        (FullHealthCheck.ofHit hit) (FullHealthCheck.ofHit { hit with source }) := by
  refine ⟨fun fault => ?_, fun summary full hsummary hfull => ?_, fun source h => ?_⟩
  · exact bind_ok_eq_error_iff.trans bind_ok_eq_error_iff.symm
  · obtain ⟨⟨check, steps⟩, hread, hsummary⟩ := bind_eq_ok_iff.1 hsummary
    obtain ⟨read, hread', hfull⟩ := bind_eq_ok_iff.1 hfull
    rw [hread] at hread'
    cases hread'
    cases hsummary
    cases hfull
    obtain ⟨items, hitems, rfl⟩ := HealthCheck.hasSteps_of_ofHit hread
    refine ⟨rfl, ⟨items, hitems, List.map_map⟩, ?_⟩
    cases items <;> exact ⟨rfl, rfl, rfl⟩
  · have hagree := HealthCheck.agree_ofHit h
    exact ⟨hagree.bind fun _ _ hcheck => .ok hcheck, hagree.bind fun _ _ hcheck => .ok hcheck⟩

end Logbook
