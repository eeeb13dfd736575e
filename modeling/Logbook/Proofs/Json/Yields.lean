import Logbook.Proofs.Json.Fields
import Logbook.Proofs.Json.Written

/-!
# What a record is read as

`Yields good r P`: from values that are good a reader of fields gives only what satisfies `P`,
whether the record is written as an object or as an array. It is shown field by field, and then
holds of what the record is read as (`Yields.record`).
-/

set_option autoImplicit false

namespace Logbook

/-! ## Options and lists -/

namespace Reader

variable {α : Type} {read : Reader α} {P : α → Prop}

theorem forall_of_optional {good : Json → Prop}
    (hread : ∀ value a, good value → read value = .ok a → P a) (value : Json) (o : Option α)
    (hgood : good value) (h : optional read value = .ok o) : ∀ a ∈ o, P a := by
  unfold optional at h
  split at h
  · cases h
    exact nofun
  · obtain ⟨a, ha, rfl⟩ := Fallible.map_eq_ok_iff.1 h
    rintro b ⟨⟩
    exact hread _ _ hgood ha

theorem forall_of_items {values : List Json} {as : List α}
    (hproper : ∀ value ∈ values, value.Proper)
    (hread : ∀ value a, value.Proper → read value = .ok a → P a)
    (h : List.Forall₂ (fun value a => read value = .ok a) values as) : ∀ a ∈ as, P a := by
  induction h with
  | nil => exact nofun
  | cons hfirst _ ih =>
    obtain ⟨hvalue, hvalues⟩ := List.forall_mem_cons.1 hproper
    exact List.forall_mem_cons.2 ⟨hread _ _ hvalue hfirst, ih hvalues⟩

theorem forall_of_list (hread : ∀ value a, value.Proper → read value = .ok a → P a) (value : Json)
    (as : List α) (hproper : value.Proper) (h : list read value = .ok as) : ∀ a ∈ as, P a := by
  cases hproper with
  | array items each => exact forall_of_items each hread (items_eq_ok_iff.1 h)
  | object | null | bool | int | float | string => cases h

end Reader

/-! ## Records -/

namespace FieldReader

variable {α β : Type} {good : Json → Prop}

/-- What is read from good values satisfies a property, and what is left of an array is good. -/
structure Yields (good : Json → Prop) (r : FieldReader α) (P : α → Prop) : Prop where
  ofFields : ∀ {fields : List (String × Json)} {a : α}, (∀ field ∈ fields, good field.2) →
    r.ofFields fields = .ok a → P a
  ofItems : ∀ {short : Nat → Fault} {place last : Nat} {items rest : List Json} {a : α},
    (∀ item ∈ items, good item) → r.ofItems short place items = .ok (a, last, rest) →
      P a ∧ ∀ item ∈ rest, good item

namespace Yields

theorem pure {P : α → Prop} {a : α} (h : P a) : Yields good (pure a) P where
  ofFields _ hread := by
    cases hread
    exact h
  ofItems hitems hread := by
    cases hread
    exact ⟨h, hitems⟩

theorem any (r : FieldReader α) : Yields (fun _ => True) r fun _ => True where
  ofFields _ _ := trivial
  ofItems _ _ := ⟨trivial, fun _ _ => trivial⟩

theorem map {P : β → Prop} {Q : α → Prop} {f : α → β} {r : FieldReader α} (hr : Yields good r Q)
    (h : ∀ a, Q a → P (f a)) : Yields good (f <$> r) P where
  ofFields hfields hread := by
    obtain ⟨a, ha, rfl⟩ := ofFields_map_eq_ok_iff.1 hread
    exact h a (hr.ofFields hfields ha)
  ofItems hitems hread := by
    obtain ⟨a, ha, rfl⟩ := ofItems_map_eq_ok_iff.1 hread
    obtain ⟨hq, hrest⟩ := hr.ofItems hitems ha
    exact ⟨h a hq, hrest⟩

theorem seq {P : β → Prop} {Q : α → Prop} {f : FieldReader (α → β)} {r : FieldReader α}
    (hf : Yields good f fun g => ∀ a, Q a → P (g a)) (hr : Yields good r Q) :
    Yields good (f <*> r) P where
  ofFields hfields hread := by
    obtain ⟨g, a, hg, ha, rfl⟩ := ofFields_seq_eq_ok_iff.1 hread
    exact hf.ofFields hfields hg a (hr.ofFields hfields ha)
  ofItems hitems hread := by
    obtain ⟨g, a, place, items, hg, ha, rfl⟩ := ofItems_seq_eq_ok_iff.1 hread
    obtain ⟨hg, hmiddle⟩ := hf.ofItems hitems hg
    obtain ⟨hq, hrest⟩ := hr.ofItems hmiddle ha
    exact ⟨hg a hq, hrest⟩

theorem slot {P : α → Prop} {name : String} {aliases : List String} {read : Reader α}
    {absent : Except Fault α} {ended : Fault → Except Fault α}
    (hread : ∀ value a, good value → read value = .ok a → P a)
    (habsent : ∀ a, absent = .ok a → P a) (hended : ∀ fault a, ended fault = .ok a → P a) :
    Yields good (slot name aliases read absent ended) P where
  ofFields {fields a} hfields h := by
    simp only [FieldReader.slot] at h
    split at h
    · rename_i value hvalue
      obtain ⟨field, hfield, rfl⟩ := Option.map_eq_some_iff.1 hvalue
      exact hread _ a (hfields field (List.mem_of_find?_eq_some hfield)) h
    · exact habsent a h
  ofItems {short place last items rest a} hitems h := by
    cases items with
    | nil =>
      change (ended (short place)).map (fun a => (a, place + 1, [])) = _ at h
      cases hvalue : ended (short place) with
      | error fault =>
        rw [hvalue] at h
        cases h
      | ok value =>
        rw [hvalue] at h
        cases h
        exact ⟨hended _ _ hvalue, nofun⟩
    | cons item items =>
      change (read item).map (fun a => (a, place + 1, items)) = _ at h
      cases hvalue : read item with
      | error fault =>
        rw [hvalue] at h
        cases h
      | ok value =>
        rw [hvalue] at h
        cases h
        obtain ⟨hitem, hrest⟩ := List.forall_mem_cons.1 hitems
        exact ⟨hread item _ hitem hvalue, hrest⟩

theorem required {P : α → Prop} {name : String} {read : Reader α}
    (hread : ∀ value a, good value → read value = .ok a → P a) :
    Yields good (required name read) P := slot hread nofun nofun

theorem withDefault {P : α → Prop} {name : String} {read : Reader α} {default : α}
    {aliases : List String} (hread : ∀ value a, good value → read value = .ok a → P a)
    (hdefault : P default) : Yields good (withDefault name read default aliases) P :=
  slot hread (fun _ h => Except.ok.inj h ▸ hdefault) fun _ _ h => Except.ok.inj h ▸ hdefault

/-- Nothing is asked of a field of which nothing is needed. -/
theorem withDefault_any {name : String} {read : Reader α} {default : α} {aliases : List String} :
    Yields good (FieldReader.withDefault name read default aliases) fun _ => True :=
  withDefault (fun _ _ _ _ => trivial) trivial

theorem nullable {P : α → Prop} {name : String} {read : Reader α}
    (hread : ∀ value a, good value → read value = .ok a → P a) :
    Yields good (nullable name read) fun a => ∀ x ∈ a, P x :=
  slot (Reader.forall_of_optional hread) (fun _ h => Except.ok.inj h ▸ nofun) nofun

theorem optional {P : α → Prop} {name : String} {read : Reader α} {aliases : List String}
    (hread : ∀ value a, good value → read value = .ok a → P a) :
    Yields good (optional name read aliases) fun a => ∀ x ∈ a, P x :=
  withDefault (Reader.forall_of_optional hread) nofun

theorem readFields {P : α → Prop} {r : FieldReader α} (hr : Yields good r P)
    {fields : List (String × Json)} {a : α} (hfields : ∀ field ∈ fields, good field.2)
    (h : r.readFields fields = .ok a) : P a := by
  obtain ⟨-, -, h⟩ := Fallible.bind_eq_ok_iff.1 h
  exact hr.ofFields hfields h

theorem readItems {P : α → Prop} {r : FieldReader α} (hr : Yields good r P) {name : String}
    {items : List Json} {a : α} (hitems : ∀ item ∈ items, good item)
    (h : r.readItems name items = .ok a) : P a := by
  obtain ⟨last, hvalue⟩ := readItems_eq_ok_iff.1 h
  exact (hr.ofItems hitems hvalue).1

/-- What a record is read as, from an object or an array. -/
theorem record {P : α → Prop} {r : FieldReader α} (hr : Yields Json.Proper r P) {name : String}
    {value : Json} {a : α} (hproper : value.Proper) (h : r.record name value = .ok a) : P a := by
  cases hproper with
  | object fields keys each => exact hr.readFields each h
  | array items each => exact hr.readItems each h
  | null | bool | int | float | string => cases h

theorem objectOnly {P : α → Prop} {r : FieldReader α} (hr : Yields Json.Proper r P)
    {name : String} {value : Json} {a : α} (hproper : value.Proper)
    (h : r.objectOnly name value = .ok a) : P a := by
  cases hproper with
  | object fields keys each => exact hr.readFields each h
  | array | null | bool | int | float | string => cases h

end Yields

end FieldReader

end Logbook
