import Logbook.Json.Basic
import Logbook.Proofs.Keyed

/-!
# Canonical values

A JSON value as it comes may list the keys of an object in any order. `Proper` says that it repeats
none and that its integers fit 64 bits; its canonical form is then canonical
(`Proper.isCanonical_canonical`), a canonical value is its own canonical form
(`canonical_of_isCanonical`), and under a key of the canonical form stands the canonical form of
what stood there before (`find?_canonicalFields`).
-/

set_option autoImplicit false

namespace Logbook

namespace Json

/-! ## Items and fields -/

theorem canonicalItems_eq_map : ∀ items, canonicalItems items = items.map canonical
  | [] => rfl
  | _ :: items => by rw [canonicalItems, canonicalItems_eq_map items, List.map_cons]

theorem canonicalFields_eq_map : ∀ fields : List (String × Json),
    canonicalFields fields = fields.map fun field => (field.1, field.2.canonical)
  | [] => rfl
  | _ :: fields => by rw [canonicalFields, canonicalFields_eq_map fields, List.map_cons]

theorem allCanonical_iff : ∀ {items : List Json},
    allCanonical items ↔ ∀ item ∈ items, item.isCanonical
  | [] => by simp [allCanonical]
  | _ :: items => by simp [allCanonical, @allCanonical_iff items]

theorem fieldsCanonical_iff : ∀ {fields : List (String × Json)},
    fieldsCanonical fields ↔
      fields.Pairwise (fun a b => a.1 < b.1) ∧ ∀ field ∈ fields, field.2.isCanonical
  | [] => by simp [fieldsCanonical]
  | _ :: fields => by
    simp only [fieldsCanonical, Bool.and_eq_true, List.all_eq_true, decide_eq_true_eq,
      @fieldsCanonical_iff fields, List.pairwise_cons, List.forall_mem_cons]
    tauto

theorem isCanonical_array_iff {items : List Json} :
    (array items).isCanonical ↔ ∀ item ∈ items, item.isCanonical := allCanonical_iff

theorem isCanonical_object_iff {fields : List (String × Json)} :
    (object fields).isCanonical ↔
      fields.Pairwise (fun a b => a.1 < b.1) ∧ ∀ field ∈ fields, field.2.isCanonical :=
  fieldsCanonical_iff

/-! ## Fields in order -/

theorem nodup_keys_orderFields (fields : List (String × Json)) :
    ((orderFields fields).map Prod.fst).Nodup := (Keyed.ofList fields).nodup_keys

theorem lookup_orderFields {fields : List (String × Json)} (hkeys : (fields.map Prod.fst).Nodup)
    (key : String) : (orderFields fields).lookup key = fields.lookup key :=
  Keyed.find?_ofList hkeys key

/-! ## Canonical values are their own canonical forms -/

mutual

theorem canonical_of_isCanonical : ∀ {value : Json}, value.isCanonical → value.canonical = value
  | null, _ | bool _, _ | int _, _ | float _, _ | string _, _ => rfl
  | array _, h => congrArg array (canonicalItems_of_allCanonical h)
  | object fields, h => by
    have hsorted := (isCanonical_object_iff.1 h).1
    rw [canonical, canonicalFields_of_fieldsCanonical h, orderFields,
      Keyed.toList_ofList hsorted]

theorem canonicalItems_of_allCanonical : ∀ {items : List Json}, allCanonical items →
    canonicalItems items = items
  | [], _ => rfl
  | item :: items, h => by
    rw [allCanonical, Bool.and_eq_true] at h
    rw [canonicalItems, canonical_of_isCanonical h.1, canonicalItems_of_allCanonical h.2]

theorem canonicalFields_of_fieldsCanonical : ∀ {fields : List (String × Json)},
    fieldsCanonical fields → canonicalFields fields = fields
  | [], _ => rfl
  | (key, value) :: fields, h => by
    simp only [fieldsCanonical, Bool.and_eq_true] at h
    rw [canonicalFields, canonical_of_isCanonical h.1.1, canonicalFields_of_fieldsCanonical h.2]

end

/-! ## Values without repeated keys -/

/-- No object repeats a key, and each integer fits 64 bits with or without a sign. -/
inductive Proper : Json → Prop where
  | null : Proper null
  | bool (b : Bool) : Proper (bool b)
  | int (n : Int) (low : -2 ^ 63 ≤ n) (high : n < 2 ^ 64) : Proper (int n)
  | float (x : Finite64) : Proper (float x)
  | string (s : String) : Proper (string s)
  | array (items : List Json) (each : ∀ item ∈ items, Proper item) : Proper (array items)
  | object (fields : List (String × Json)) (keys : (fields.map Prod.fst).Nodup)
      (each : ∀ field ∈ fields, Proper field.2) : Proper (object fields)

theorem map_fst_canonicalFields (fields : List (String × Json)) :
    (canonicalFields fields).map Prod.fst = fields.map Prod.fst := by
  rw [canonicalFields_eq_map, List.map_map]
  rfl

theorem lookup_canonicalFields (key : String) (fields : List (String × Json)) :
    (canonicalFields fields).lookup key = (fields.lookup key).map canonical := by
  rw [canonicalFields_eq_map, Keyed.lookup_map]

/-- Under a key of the canonical form stands the canonical form of what stood there before. -/
theorem find?_canonicalFields {fields : List (String × Json)}
    (hkeys : (fields.map Prod.fst).Nodup) (key : String) :
    (Keyed.ofList (canonicalFields fields)).find? key = (fields.lookup key).map canonical := by
  rw [Keyed.find?_ofList (by rwa [map_fst_canonicalFields]), lookup_canonicalFields]

theorem lookup_orderFields_canonicalFields {fields : List (String × Json)}
    (hkeys : (fields.map Prod.fst).Nodup) (key : String) :
    (orderFields (canonicalFields fields)).lookup key = (fields.lookup key).map canonical :=
  find?_canonicalFields hkeys key

/-- The canonical form of a proper value is canonical. -/
theorem Proper.isCanonical_canonical {value : Json} (h : value.Proper) :
    value.canonical.isCanonical := by
  induction h with
  | null | bool | float | string => rfl
  | int n low high =>
    simp only [canonical, isCanonical, Bool.and_eq_true, decide_eq_true_eq]
    exact ⟨low, high⟩
  | array items each ih =>
    rw [canonical, canonicalItems_eq_map, isCanonical_array_iff]
    intro item hitem
    obtain ⟨original, hmem, rfl⟩ := List.mem_map.1 hitem
    exact ih original hmem
  | object fields keys each ih =>
    rw [canonical, isCanonical_object_iff]
    refine ⟨(Keyed.ofList _).sorted, ?_⟩
    rintro ⟨key, value⟩ hmem
    have hfind := Keyed.mem_toList_iff.1 hmem
    rw [find?_canonicalFields keys, Option.map_eq_some_iff] at hfind
    obtain ⟨original, hlookup, rfl⟩ := hfind
    exact ih _ (Keyed.mem_of_lookup hlookup)

/-- Of an object in order the canonical form has the canonical form of each value. -/
theorem canonical_object_toList (m : Keyed Json) :
    (object m.toList).canonical = .object (m.map canonical).toList := by
  rw [canonical, canonicalFields_eq_map, orderFields]
  exact congrArg object (Keyed.toList_ofList (m.map canonical).sorted)

/-- Taking the canonical form twice changes nothing more. -/
theorem Proper.canonical_canonical {value : Json} (h : value.Proper) :
    value.canonical.canonical = value.canonical :=
  canonical_of_isCanonical h.isCanonical_canonical

end Json

end Logbook
