import Logbook.Proofs.Json.Fields

/-!
# Readers that do not look at the order of fields

An *order-free* reader takes a proper value and its canonical form for the same. The simple readers
are order-free, and so are options, lists and records with order-free parts, as long as the fields
of a record have one name each.
-/

set_option autoImplicit false

namespace Logbook

namespace Reader

variable {α : Type} {read : Reader α}

/-- A proper value and its canonical form are read as the same. -/
def OrderFree (read : Reader α) : Prop :=
  ∀ {value : Json}, value.Proper → ∀ a, read value.canonical = .ok a ↔ read value = .ok a

namespace OrderFree

/-- Only arrays and objects differ from their canonical forms. -/
theorem of_simple (harray : ∀ items a, read (.array items) ≠ .ok a)
    (hobject : ∀ fields a, read (.object fields) ≠ .ok a) : OrderFree read := by
  intro value _ a
  cases value with
  | array items => exact iff_of_false (harray _ a) (harray items a)
  | object fields => exact iff_of_false (hobject _ a) (hobject fields a)
  | null | bool | int | float | string => exact Iff.rfl

theorem string : OrderFree Reader.string :=
  of_simple (fun _ _ h => by cases h) fun _ _ h => by cases h

theorem uint64 : OrderFree Reader.uint64 :=
  of_simple (fun _ _ h => by cases h) fun _ _ h => by cases h

theorem binary64 : OrderFree Reader.binary64 :=
  of_simple (fun _ _ h => by cases h) fun _ _ h => by cases h

theorem json : OrderFree Reader.json := fun h a => by
  rw [Reader.json, Reader.json, h.canonical_canonical]

theorem optional (h : OrderFree read) : OrderFree (Reader.optional read) := by
  intro value hproper a
  have hsome := fun b => and_congr (h hproper b) (Iff.refl (some b = a))
  cases value with
  | null => exact Iff.rfl
  | array items =>
    exact Fallible.map_eq_ok_iff.trans ((exists_congr hsome).trans Fallible.map_eq_ok_iff.symm)
  | object fields =>
    exact Fallible.map_eq_ok_iff.trans ((exists_congr hsome).trans Fallible.map_eq_ok_iff.symm)
  | bool | int | float | string => exact Iff.rfl

theorem items_canonicalItems (h : OrderFree read) : ∀ {values : List Json},
    (∀ value ∈ values, value.Proper) → ∀ as,
      items read (Json.canonicalItems values) = .ok as ↔ items read values = .ok as
  | [], _, _ => Iff.rfl
  | value :: values, hproper, as => by
    obtain ⟨hvalue, hvalues⟩ := List.forall_mem_cons.1 hproper
    rw [Json.canonicalItems, items, items, Fallible.bind_eq_ok_iff, Fallible.bind_eq_ok_iff]
    refine exists_congr fun a => and_congr (h hvalue a) ?_
    rw [Fallible.bind_eq_ok_iff, Fallible.bind_eq_ok_iff]
    exact exists_congr fun rest => and_congr (h.items_canonicalItems hvalues rest) Iff.rfl

theorem list (h : OrderFree read) : OrderFree (Reader.list read) := by
  intro value hproper as
  cases hproper with
  | array values each => exact h.items_canonicalItems each as
  | object fields keys each => exact ⟨nofun, nofun⟩
  | null | bool | int | float | string => exact Iff.rfl

end OrderFree

end Reader

/-! ## Records -/

namespace FieldReader

variable {α β : Type} {name : String} {read : Reader α}

/-- Fields are read as the same when their values are replaced by their canonical forms. -/
structure OrderFree (r : FieldReader α) : Prop where
  byName : r.ByName
  ofFields : ∀ {fields fields' : List (String × Json)}, (∀ field ∈ fields, field.2.Proper) →
    (∀ key, fields'.lookup key = (fields.lookup key).map Json.canonical) →
      ∀ a, r.ofFields fields' = .ok a ↔ r.ofFields fields = .ok a

namespace OrderFree

theorem map (f : α → β) {r : FieldReader α} (hr : r.OrderFree) : (f <$> r).OrderFree where
  byName := hr.byName.map f
  ofFields hproper hsame b := by
    rw [ofFields_map_eq_ok_iff, ofFields_map_eq_ok_iff]
    exact exists_congr fun a => and_congr (hr.ofFields hproper hsame a) Iff.rfl

theorem seq {f : FieldReader (α → β)} {r : FieldReader α} (hf : f.OrderFree)
    (hr : r.OrderFree) : (f <*> r).OrderFree where
  byName := hf.byName.seq hr.byName
  ofFields hproper hsame b := by
    rw [ofFields_seq_eq_ok_iff, ofFields_seq_eq_ok_iff]
    exact exists_congr fun g => exists_congr fun a => and_congr (hf.ofFields hproper hsame g)
      (and_congr (hr.ofFields hproper hsame a) Iff.rfl)

theorem slot {absent : Except Fault α} {ended : Fault → Except Fault α}
    (hread : Reader.OrderFree read) : (slot name [] read absent ended).OrderFree where
  byName := .slot name read absent ended
  ofFields {fields fields'} hproper hsame a := by
    rw [ofFields_slot_eq, ofFields_slot_eq, hsame]
    cases hvalue : fields.lookup name with
    | none => exact Iff.rfl
    | some value => exact hread (hproper _ (Keyed.mem_of_lookup hvalue)) a

theorem required (hread : Reader.OrderFree read) : (required name read).OrderFree := slot hread

theorem nullable (hread : Reader.OrderFree read) : (nullable name read).OrderFree :=
  slot hread.optional

theorem withDefault {default : α} (hread : Reader.OrderFree read) :
    (withDefault name read default).OrderFree := slot hread

theorem optional (hread : Reader.OrderFree read) : (optional name read).OrderFree :=
  withDefault hread.optional

/-- A record is read from the fields of an object as from those of its canonical form. -/
theorem readFields {r : FieldReader α} (hr : r.OrderFree) {fields : List (String × Json)}
    (hkeys : (fields.map Prod.fst).Nodup) (hproper : ∀ field ∈ fields, field.2.Proper) (a : α) :
    r.readFields (Json.orderFields (Json.canonicalFields fields)) = .ok a ↔
      r.readFields fields = .ok a := by
  rw [readFields_eq_ok_iff hr.byName (Json.nodup_keys_orderFields _),
    readFields_eq_ok_iff hr.byName hkeys]
  exact hr.ofFields hproper (Json.lookup_orderFields_canonicalFields hkeys) a

theorem objectOnly {r : FieldReader α} (hr : r.OrderFree) (name : String) :
    Reader.OrderFree (r.objectOnly name) := by
  intro value hproper a
  cases hproper with
  | object fields keys each => exact hr.readFields keys each a
  | array items each => exact ⟨nofun, nofun⟩
  | null | bool | int | float | string => exact Iff.rfl

end OrderFree

end FieldReader

end Logbook
