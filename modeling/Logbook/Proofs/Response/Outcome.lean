import Logbook.Proofs.Json.Record
import Logbook.Proofs.Json.Written
import Logbook.Response.Basic

/-!
# The shapes of outcomes

An object is taken for groups where it has one list of groups under `buckets`
(`Json.HoldsGroups`, `groupList_ofJson`), and for a number where it has no such list and one number
under `value` (`Json.HoldsNumber`, `value?_ofJson_eq_some_iff`). `ofJson_of_buckets` and
`ofJson_of_value` say so of the fields of an object.
-/

set_option autoImplicit false

namespace Logbook

/-! ## Groups and numbers in an object -/

namespace Json

/-- A value is an object with one list of groups under `buckets`. -/
def HoldsGroups (value : Json) (members : List Group) : Prop :=
  ∃ fields items, value = .object fields ∧
    (fields.filter fun field => field.1 == "buckets") = [("buckets", .array items)] ∧
      List.Forall₂ (fun item member => Group.read item = .ok member) items members

/-- A value is an object with one number under `value`. -/
def HoldsNumber (value : Json) (x : Binary64) : Prop :=
  ∃ fields json, value = .object fields ∧
    (fields.filter fun field => field.1 == "value") = [("value", json)] ∧
      Reader.binary64 json = .ok x

end Json

namespace Outcome

theorem readGroups_of_buckets {fields : List (String × Json)} {items : List Json}
    {members : List Group}
    (hfield : (fields.filter fun field => field.1 == "buckets") = [("buckets", .array items)])
    (hitems : Reader.items Group.read items = .ok members) :
    readGroups (.object fields) = .ok (groups members) := by
  show (groups <$> FieldReader.required "buckets" (Reader.list Group.read)).readFields fields = _
  rw [FieldReader.readFields_map, FieldReader.required, FieldReader.readFields_slot hfield hitems]
  rfl

theorem readGroups_of_no_buckets {fields : List (String × Json)}
    (hfields : ∀ field ∈ fields, field.1 ≠ "buckets") :
    readGroups (.object fields) = .error (.missing "buckets") := by
  show (groups <$> FieldReader.required "buckets" (Reader.list Group.read)).readFields fields = _
  rw [FieldReader.readFields_map, FieldReader.required, FieldReader.readFields_slot_absent hfields]
  rfl

theorem readNumber_of_value {fields : List (String × Json)} {value : Json}
    {result : Option Binary64}
    (hfield : (fields.filter fun field => field.1 == "value") = [("value", value)])
    (hvalue : Reader.optional Reader.binary64 value = .ok result) :
    readNumber (.object fields) = .ok (number result) := by
  show (number <$> FieldReader.nullable "value" Reader.binary64).readFields fields = _
  rw [FieldReader.readFields_map, FieldReader.nullable, FieldReader.readFields_slot hfield hvalue]
  rfl

/-- What is read as groups has them. -/
theorem readGroups_eq_ok_iff {value : Json} {outcome : Outcome} :
    readGroups value = .ok outcome ↔
      ∃ members, value.HoldsGroups members ∧ groups members = outcome := by
  cases value with
  | object fields =>
    change (groups <$> FieldReader.required "buckets" (Reader.list Group.read)).readFields fields =
      _ ↔ _
    rw [FieldReader.readFields_map, Fallible.map_eq_ok_iff]
    refine exists_congr fun members => and_congr_left fun _ => ?_
    rw [FieldReader.required, FieldReader.readFields_slot_eq_ok_iff]
    constructor
    · rintro (⟨value, hfield, hread⟩ | ⟨-, habsent⟩)
      · cases value with
        | array items => exact ⟨fields, items, rfl, hfield, Reader.items_eq_ok_iff.1 hread⟩
        | null | bool | int | float | string | object => cases hread
      · cases habsent
    · rintro ⟨_, items, ⟨⟩, hfield, hitems⟩
      exact .inl ⟨.array items, hfield, Reader.items_eq_ok_iff.2 hitems⟩
  | null | bool | int | float | string | array =>
    constructor
    · intro h
      cases h
    · rintro ⟨members, ⟨fields, items, hobject, -⟩, -⟩
      cases hobject

/-- What is read as a number has one, or has none by the shape that may have one. -/
theorem readNumber_eq_ok_some_iff {value : Json} {x : Binary64} :
    readNumber value = .ok (number (some x)) ↔ value.HoldsNumber x := by
  cases value with
  | object fields =>
    change (number <$> FieldReader.nullable "value" Reader.binary64).readFields fields = _ ↔ _
    rw [FieldReader.readFields_map, Fallible.map_eq_ok_iff]
    simp only [number.injEq, exists_eq_right]
    rw [FieldReader.nullable, FieldReader.readFields_slot_eq_ok_iff]
    constructor
    · rintro (⟨json, hfield, hread⟩ | ⟨-, ⟨⟩⟩)
      exact ⟨fields, json, rfl, hfield, (Reader.optional_eq_ok_some_iff.1 hread).2⟩
    · rintro ⟨_, json, ⟨⟩, hfield, hread⟩
      refine .inl ⟨json, hfield, Reader.optional_eq_ok_some_iff.2 ⟨?_, hread⟩⟩
      rintro rfl
      cases hread
  | null | bool | int | float | string | array =>
    constructor
    · intro h
      cases h
    · rintro ⟨fields, json, hobject, -⟩
      cases hobject

theorem ofJson_of_holdsGroups {value : Json} {members : List Group}
    (h : value.HoldsGroups members) : ofJson value = groups members := by
  simp only [ofJson, readGroups_eq_ok_iff.2 ⟨members, h, rfl⟩]

theorem exists_of_readNumber {value : Json} {outcome : Outcome}
    (h : readNumber value = .ok outcome) : ∃ result, outcome = number result := by
  cases value with
  | object fields =>
    change (number <$> FieldReader.nullable "value" Reader.binary64).readFields fields = _ at h
    rw [FieldReader.readFields_map, Fallible.map_eq_ok_iff] at h
    obtain ⟨result, -, rfl⟩ := h
    exact ⟨result, rfl⟩
  | null | bool | int | float | string | array => cases h

/-- A value without groups is taken for a number where it is read as one, else for neither. -/
theorem ofJson_of_no_groups {value : Json} (h : ∀ members, ¬value.HoldsGroups members) :
    (∃ result, readNumber value = .ok (number result) ∧ ofJson value = number result) ∨
      (∀ outcome, readNumber value ≠ .ok outcome) ∧ ofJson value = other value.canonical := by
  unfold ofJson
  split
  · rename_i outcome hread
    obtain ⟨members, hmembers, -⟩ := readGroups_eq_ok_iff.1 hread
    exact absurd hmembers (h members)
  · split
    · rename_i outcome hread
      obtain ⟨result, rfl⟩ := exists_of_readNumber hread
      exact .inl ⟨result, hread, rfl⟩
    · rename_i fault hread
      refine .inr ⟨fun outcome houtcome => ?_, rfl⟩
      rw [hread] at houtcome
      cases houtcome

/-- The groups of what a value is taken for are the ones that it holds. -/
theorem groupList_ofJson (value : Json) : value.HoldsGroups (ofJson value).groupList ∨
    (ofJson value).groupList = [] ∧ ∀ members, ¬value.HoldsGroups members := by
  by_cases hgroups : ∃ members, value.HoldsGroups members
  · obtain ⟨members, hmembers⟩ := hgroups
    rw [ofJson_of_holdsGroups hmembers]
    exact .inl hmembers
  · rw [not_exists] at hgroups
    refine .inr ⟨?_, hgroups⟩
    obtain ⟨result, -, hvalue⟩ | ⟨-, hvalue⟩ := ofJson_of_no_groups hgroups
    · rw [hvalue, groupList]
      exact nofun
    · rw [hvalue, groupList]
      exact nofun

/-- The number of what a value is taken for is the finite one that it holds beside no groups. -/
theorem value?_ofJson_eq_some_iff {value : Json} {x : Binary64} :
    (ofJson value).value? = some x ↔
      (∀ members, ¬value.HoldsGroups members) ∧ value.HoldsNumber x ∧ x.isFinite := by
  by_cases hgroups : ∃ members, value.HoldsGroups members
  · obtain ⟨members, hmembers⟩ := hgroups
    rw [ofJson_of_holdsGroups hmembers]
    exact ⟨nofun, fun h => absurd hmembers (h.1 members)⟩
  · rw [not_exists] at hgroups
    rw [← readNumber_eq_ok_some_iff]
    obtain ⟨result, hread, hvalue⟩ | ⟨hnone, hvalue⟩ := ofJson_of_no_groups hgroups
    · rw [hvalue, hread, value?, Option.filter_eq_some_iff]
      simp [hgroups]
    · rw [hvalue]
      exact ⟨nofun, fun h => absurd h.2.1 (hnone _)⟩

/-- An object with a list of groups is taken for them, whatever else it has. -/
theorem ofJson_of_buckets {fields : List (String × Json)} {items : List Json}
    {members : List Group}
    (hfield : (fields.filter fun field => field.1 == "buckets") = [("buckets", .array items)])
    (hitems : Reader.items Group.read items = .ok members) :
    ofJson (.object fields) = groups members := by
  simp only [ofJson, readGroups_of_buckets hfield hitems]

/-- An object with a number or `null`, and without groups, is taken for a number. -/
theorem ofJson_of_value {fields : List (String × Json)} {value : Json} {result : Option Binary64}
    (hfields : ∀ field ∈ fields, field.1 ≠ "buckets")
    (hfield : (fields.filter fun field => field.1 == "value") = [("value", value)])
    (hvalue : Reader.optional Reader.binary64 value = .ok result) :
    ofJson (.object fields) = number result := by
  simp only [ofJson, readGroups_of_no_buckets hfields, readNumber_of_value hfield hvalue]

end Outcome

end Logbook
