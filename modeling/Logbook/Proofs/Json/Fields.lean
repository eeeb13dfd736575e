import Mathlib.Data.List.Pairwise
import Logbook.Proofs.Json.Canonical
import Logbook.Proofs.Json.Record

/-!
# Records read by the names of their fields

A record whose fields have one name each is read by looking those names up: the order of the fields
and the fields that it does not know play no part, as long as no key is repeated.

* `ByName`: what a reader of fields has to satisfy for that; kept by all the ways in which readers
  are put together.
* `readFields_eq_ok_iff`: the visit of the fields in their order then finds no further fault.
* `nodup_knownNames_iff`: a field that goes by two names stands twice where both names do.
* `Reads`: a record is read as a value from given fields; built up field by field, and with
  `Reads.record` carried over to the object that is written with these fields.
-/

set_option autoImplicit false

namespace Logbook

open Fallible (Agree)

namespace Reader

theorem agree_items {α : Type} {R : α → α → Prop} {read : Reader α} {values values' : List Json}
    (h : List.Forall₂ (fun value value' => Agree R (read value) (read value')) values values') :
    Agree (List.Forall₂ R) (items read values) (items read values') := by
  induction h with
  | nil => exact .ok .nil
  | cons hfirst _ ih =>
    exact hfirst.bind fun _ _ hab => ih.bind fun _ _ hrest => .ok (.cons hab hrest)

end Reader

namespace FieldReader

variable {α β : Type}

/-! ## Looking up names -/

theorem valueOf_eq_lookup {slot : Slot} (haliases : slot.aliases = []) :
    ∀ fields, valueOf slot fields = fields.lookup slot.name
  | [] => rfl
  | field :: rest => by
    have ih := valueOf_eq_lookup haliases rest
    simp only [valueOf, Slot.answersTo, haliases, List.contains_nil, Bool.or_false] at ih ⊢
    rw [Keyed.lookup_cons, List.find?_cons]
    by_cases hkey : slot.name = field.1
    · rw [if_pos hkey, beq_iff_eq.2 hkey]
      rfl
    · rw [if_neg hkey, beq_eq_false_iff_ne.2 hkey]
      exact ih

/-- A field that goes by two names is found under the one that stands among the fields. -/
theorem valueOf_eq_or {slot : Slot} {other : String} (haliases : slot.aliases = [other]) :
    ∀ {fields : List (String × Json)},
      fields.lookup slot.name = none ∨ fields.lookup other = none →
        valueOf slot fields = (fields.lookup slot.name).or (fields.lookup other)
  | [], _ => rfl
  | field :: rest, hone => by
    have hanswers : slot.answersTo field.1 ↔ slot.name = field.1 ∨ other = field.1 := by
      rw [Slot.answersTo, haliases, Bool.or_eq_true, beq_iff_eq, List.contains_iff_mem,
        List.mem_singleton, eq_comm (a := other)]
    have hcons : valueOf slot (field :: rest) =
        if slot.answersTo field.1 then some field.2 else valueOf slot rest := by
      unfold valueOf
      rw [List.find?_cons]
      cases slot.answersTo field.1 <;> rfl
    rw [Keyed.lookup_cons, Keyed.lookup_cons] at hone ⊢
    simp only [hcons, hanswers]
    by_cases hname : slot.name = field.1
    · simp [hname]
    · by_cases hother : other = field.1
      · have hnone : rest.lookup slot.name = none := by simpa [hname, hother] using hone
        simp [hname, hother, hnone]
      · simp only [hname, hother, if_false, or_self] at hone ⊢
        exact valueOf_eq_or haliases hone

/-- The fields of a record are read by their names, and all that can go wrong with the value of a
field goes wrong when the record is read. -/
structure ByName (r : FieldReader α) : Prop where
  aliases : ∀ slot ∈ r.slots, slot.aliases = []
  congr : ∀ {fields fields' : List (String × Json)},
    (∀ slot ∈ r.slots, fields.lookup slot.name = fields'.lookup slot.name) →
      r.ofFields fields = r.ofFields fields'
  checked : ∀ {fields : List (String × Json)} {a : α}, r.ofFields fields = .ok a →
    ∀ slot ∈ r.slots, ∀ value, fields.lookup slot.name = some value → slot.check value = .ok ()

section
variable {name : String} {read : Reader α} {absent : Except Fault α}
  {ended : Fault → Except Fault α} {fields : List (String × Json)}

theorem ofFields_slot_eq :
    (slot name [] read absent ended).ofFields fields = (fields.lookup name).elim absent read := by
  have hvalue : valueOf ⟨name, [], fun value => (read value).map fun _ => ()⟩ fields =
      fields.lookup name := valueOf_eq_lookup rfl fields
  simp only [slot, hvalue]
  cases fields.lookup name <;> rfl

theorem ofFields_slot_of_one_name {other : String}
    (hone : fields.lookup name = none ∨ fields.lookup other = none) :
    (slot name [other] read absent ended).ofFields fields =
      ((fields.lookup name).or (fields.lookup other)).elim absent read := by
  have hvalue : valueOf ⟨name, [other], fun value => (read value).map fun _ => ()⟩ fields =
      (fields.lookup name).or (fields.lookup other) := valueOf_eq_or rfl hone
  simp only [slot, hvalue]
  cases (fields.lookup name).or (fields.lookup other) <;> rfl

end

/-! ## Taking a reading apart -/

section
variable {f : FieldReader (α → β)} {r : FieldReader α} {a : α} {b : β}
  {fields : List (String × Json)} {short : Nat → Fault} {place last : Nat} {items rest : List Json}

theorem ofFields_map_eq_ok_iff {g : α → β} :
    (g <$> r).ofFields fields = .ok b ↔ ∃ a, r.ofFields fields = .ok a ∧ g a = b :=
  Fallible.map_eq_ok_iff

theorem ofFields_seq_eq_ok_iff : (f <*> r).ofFields fields = .ok b ↔
    ∃ g a, f.ofFields fields = .ok g ∧ r.ofFields fields = .ok a ∧ g a = b := by
  constructor
  · intro h
    obtain ⟨g, hg, h⟩ := Fallible.bind_eq_ok_iff.1 h
    obtain ⟨a, ha, h⟩ := Fallible.bind_eq_ok_iff.1 h
    exact ⟨g, a, hg, ha, Except.ok.inj h⟩
  · rintro ⟨g, a, hg, ha, rfl⟩
    exact Fallible.bind_eq_ok_iff.2 ⟨g, hg, Fallible.bind_eq_ok_iff.2 ⟨a, ha, rfl⟩⟩

theorem ofFields_map_ok {g : α → β} (h : r.ofFields fields = .ok a) :
    (g <$> r).ofFields fields = .ok (g a) := ofFields_map_eq_ok_iff.2 ⟨a, h, rfl⟩

theorem ofFields_seq_ok {g : α → β} (hf : f.ofFields fields = .ok g)
    (hr : r.ofFields fields = .ok a) : (f <*> r).ofFields fields = .ok (g a) :=
  ofFields_seq_eq_ok_iff.2 ⟨g, a, hf, hr, rfl⟩

/-- What holds of all that is read is shown by taking off the last field. -/
theorem forall_ofFields_seq {P : β → Prop}
    (h : ∀ g, f.ofFields fields = .ok g → ∀ a, r.ofFields fields = .ok a → P (g a)) :
    ∀ b, (f <*> r).ofFields fields = .ok b → P b := by
  intro b hb
  obtain ⟨g, a, hg, ha, rfl⟩ := ofFields_seq_eq_ok_iff.1 hb
  exact h g hg a ha

theorem forall_ofFields_map {g : α → β} {P : β → Prop}
    (h : ∀ a, r.ofFields fields = .ok a → P (g a)) :
    ∀ b, (g <$> r).ofFields fields = .ok b → P b := by
  intro b hb
  obtain ⟨a, ha, rfl⟩ := ofFields_map_eq_ok_iff.1 hb
  exact h a ha

theorem ofFields_required_eq_ok_iff {name : String} {read : Reader β} :
    (required name read).ofFields fields = .ok b ↔
      ∃ value, fields.lookup name = some value ∧ read value = .ok b := by
  rw [required, ofFields_slot_eq]
  cases fields.lookup name <;> simp

theorem ofItems_map_eq_ok_iff {g : α → β} :
    (g <$> r).ofItems short place items = .ok (b, last, rest) ↔
      ∃ a, r.ofItems short place items = .ok (a, last, rest) ∧ g a = b := by
  constructor
  · intro h
    obtain ⟨⟨a, last', rest'⟩, ha, h⟩ := Fallible.bind_eq_ok_iff.1 h
    cases h
    exact ⟨a, ha, rfl⟩
  · rintro ⟨a, ha, rfl⟩
    exact Fallible.bind_eq_ok_iff.2 ⟨_, ha, rfl⟩

theorem ofItems_seq_eq_ok_iff :
    (f <*> r).ofItems short place items = .ok (b, last, rest) ↔ ∃ g a place' items',
      f.ofItems short place items = .ok (g, place', items') ∧
        r.ofItems short place' items' = .ok (a, last, rest) ∧ g a = b := by
  constructor
  · intro h
    obtain ⟨⟨g, place', items'⟩, hg, h⟩ := Fallible.bind_eq_ok_iff.1 h
    obtain ⟨⟨a, last', rest'⟩, ha, h⟩ := Fallible.bind_eq_ok_iff.1 h
    cases h
    exact ⟨g, a, place', items', hg, ha, rfl⟩
  · rintro ⟨g, a, place', items', hg, ha, rfl⟩
    exact Fallible.bind_eq_ok_iff.2 ⟨_, hg, Fallible.bind_eq_ok_iff.2 ⟨_, ha, rfl⟩⟩

theorem ofItems_slot_cons_eq_ok_iff {name : String} {read : Reader β} {absent : Except Fault β}
    {ended : Fault → Except Fault β} {item : Json} :
    (slot name [] read absent ended).ofItems short place (item :: items) = .ok (b, last, rest) ↔
      read item = .ok b ∧ last = place + 1 ∧ rest = items := by
  refine Fallible.map_eq_ok_iff.trans ⟨?_, ?_⟩
  · rintro ⟨b', hb, heq⟩
    cases heq
    exact ⟨hb, rfl, rfl⟩
  · rintro ⟨hb, rfl, rfl⟩
    exact ⟨b, hb, rfl⟩

theorem ofItems_withDefault_cons_eq_ok_iff {name : String} {read : Reader β} {default : β}
    {item : Json} :
    (withDefault name read default).ofItems short place (item :: items) = .ok (b, last, rest) ↔
      read item = .ok b ∧ last = place + 1 ∧ rest = items := ofItems_slot_cons_eq_ok_iff

theorem ofItems_optional_cons_eq_ok_iff {name : String} {read : Reader β} {o : Option β}
    {item : Json} :
    (optional name read).ofItems short place (item :: items) = .ok (o, last, rest) ↔
      Reader.optional read item = .ok o ∧ last = place + 1 ∧ rest = items :=
  ofItems_withDefault_cons_eq_ok_iff

theorem ofItems_required_eq_ok_iff {name : String} {read : Reader β} :
    (required name read).ofItems short place items = .ok (b, last, rest) ↔
      ∃ item, items = item :: rest ∧ last = place + 1 ∧ read item = .ok b := by
  cases items with
  | nil =>
    constructor
    · intro h
      cases h
    · rintro ⟨item, hitem, -⟩
      cases hitem
  | cons item items =>
    refine ofItems_slot_cons_eq_ok_iff.trans ⟨?_, ?_⟩
    · rintro ⟨hread, rfl, rfl⟩
      exact ⟨item, rfl, rfl, hread⟩
    · rintro ⟨item', hitems, rfl, hread⟩
      cases hitems
      exact ⟨hread, rfl, rfl⟩

/-- From an array a record is read when no item is left. -/
theorem readItems_eq_ok_iff {name : String} : r.readItems name items = .ok a ↔
    ∃ last, r.ofItems (fun place => .tooShort place (r.shape name)) 0 items =
      .ok (a, last, []) := by
  unfold readItems
  rw [Fallible.bind_eq_ok_iff]
  constructor
  · rintro ⟨⟨value, last, rest⟩, hitems, hend⟩
    dsimp only at hend
    split at hend
    · rename_i hrest
      cases hend
      rw [List.isEmpty_iff] at hrest
      subst hrest
      exact ⟨last, hitems⟩
    · cases hend
  · rintro ⟨last, hitems⟩
    exact ⟨_, hitems, rfl⟩

end

namespace ByName

theorem pure (a : α) : (pure a : FieldReader α).ByName where
  aliases := nofun
  congr _ := rfl
  checked _ := nofun

theorem map (f : α → β) {r : FieldReader α} (hr : r.ByName) : (f <$> r).ByName where
  aliases := hr.aliases
  congr h := congrArg (Except.map f) (hr.congr h)
  checked h := by
    obtain ⟨a, ha, -⟩ := ofFields_map_eq_ok_iff.1 h
    exact hr.checked ha

theorem seq {f : FieldReader (α → β)} {r : FieldReader α} (hf : f.ByName) (hr : r.ByName) :
    (f <*> r).ByName where
  aliases slot hslot := (List.mem_append.1 hslot).elim (hf.aliases slot) (hr.aliases slot)
  congr {fields fields'} h := by
    show (do let g ← f.ofFields fields; let a ← r.ofFields fields; return g a) =
      (do let g ← f.ofFields fields'; let a ← r.ofFields fields'; return g a)
    rw [hf.congr fun slot hslot => h slot (List.mem_append_left _ hslot),
      hr.congr fun slot hslot => h slot (List.mem_append_right _ hslot)]
  checked h slot hslot := by
    obtain ⟨g, a, hg, ha, -⟩ := ofFields_seq_eq_ok_iff.1 h
    exact (List.mem_append.1 hslot).elim (hf.checked hg slot) (hr.checked ha slot)

theorem slot (name : String) (read : Reader α) (absent : Except Fault α)
    (ended : Fault → Except Fault α) : (slot name [] read absent ended).ByName where
  aliases s hs := by
    rw [List.mem_singleton.1 hs]
  congr {fields fields'} h := by
    have hsame : fields.lookup name = fields'.lookup name := h _ List.mem_cons_self
    rw [ofFields_slot_eq, ofFields_slot_eq, hsame]
  checked {fields a} h s hs value hvalue := by
    rw [List.mem_singleton.1 hs] at hvalue ⊢
    rw [ofFields_slot_eq, hvalue, Option.elim_some] at h
    show (read value).map (fun _ => ()) = .ok ()
    rw [h]
    rfl

theorem withDefault (name : String) (read : Reader α) (default : α) :
    (withDefault name read default).ByName := slot name read _ _

theorem optional (name : String) (read : Reader α) : (optional name read).ByName :=
  withDefault name (Reader.optional read) none

end ByName

/-! ## The visit finds no further fault -/

/-- A field that the record knows goes by the name of its slot. -/
theorem ByName.name_of_find? {r : FieldReader α} (hr : r.ByName) {key : String} {s : Slot}
    (h : r.slots.find? (·.answersTo key) = some s) : s ∈ r.slots ∧ s.name = key := by
  have hmem := List.mem_of_find?_eq_some h
  have hanswers : s.answersTo key := by simpa using List.find?_some h
  rw [Slot.answersTo, hr.aliases s hmem, List.contains_nil, Bool.or_false, beq_iff_eq] at hanswers
  exact ⟨hmem, hanswers⟩

theorem ByName.knownNames_sublist {r : FieldReader α} (hr : r.ByName) :
    ∀ fields, (knownNames r.slots fields).Sublist (fields.map Prod.fst)
  | [] => .slnil
  | field :: rest => by
    have ih := hr.knownNames_sublist rest
    unfold knownNames at ih ⊢
    rw [List.filterMap_cons, List.map_cons]
    cases hslot : r.slots.find? (·.answersTo field.1) with
    | none => exact ih.cons _
    | some s =>
      rw [Option.map_some, (hr.name_of_find? hslot).2]
      exact ih.cons_cons _

/-- Where no key is repeated, a field that the record knows stands twice when two of the keys are
names that it goes by. -/
theorem nodup_knownNames_iff {slots : List Slot} {fields : List (String × Json)}
    (hkeys : (fields.map Prod.fst).Nodup) : (knownNames slots fields).Nodup ↔
      ∀ field ∈ fields, ∀ field' ∈ fields, ∀ name,
        (slots.find? (·.answersTo field.1)).map Slot.name = some name →
          (slots.find? (·.answersTo field'.1)).map Slot.name = some name → field = field' := by
  unfold knownNames List.Nodup
  rw [List.pairwise_filterMap]
  constructor
  · intro h field hfield field' hfield' name hname hname'
    by_contra hne
    have : Std.Symm fun field field' : String × Json => ∀ name,
        (slots.find? (·.answersTo field.1)).map Slot.name = some name → ∀ name',
          (slots.find? (·.answersTo field'.1)).map Slot.name = some name' → name ≠ name' :=
      ⟨fun _ _ hdiffer name hname name' hname' => (hdiffer name' hname' name hname).symm⟩
    exact h.forall hfield hfield' hne name hname name hname' rfl
  · intro h
    refine hkeys.of_map.imp_of_mem fun hfield hfield' hne name hname name' hname' heq => ?_
    subst heq
    exact hne (h _ hfield _ hfield' name hname hname')

/-- Where no key is repeated, a record is read when its names are. -/
theorem readFields_eq_ok_iff {r : FieldReader α} (hr : r.ByName) {fields : List (String × Json)}
    (hkeys : (fields.map Prod.fst).Nodup) {a : α} :
    r.readFields fields = .ok a ↔ r.ofFields fields = .ok a := by
  unfold readFields
  rw [Fallible.bind_eq_ok_iff]
  constructor
  · rintro ⟨-, -, h⟩
    exact h
  · intro h
    refine ⟨(), visit_eq_ok_iff.2 ⟨hkeys.sublist (hr.knownNames_sublist fields),
      fun _ _ => List.not_mem_nil, fun field hfield s hs => ?_⟩, h⟩
    obtain ⟨hmem, hname⟩ := hr.name_of_find? hs
    refine hr.checked h s hmem field.2 ?_
    rw [hname]
    exact (Keyed.lookup_eq_some_iff hkeys).2 hfield

/-! ## Another field, another value -/

section
variable {before after : List (String × Json)} {key : String} {value value' : Json}

/-- A field that a record does not know plays no part. -/
theorem ByName.readFields_append_cons {r : FieldReader α} (hr : r.ByName)
    (hkey : key ∉ r.slots.map Slot.name) :
    r.readFields (before ++ (key, value) :: after) = r.readFields (before ++ after) := by
  have hunknown : r.slots.find? (·.answersTo key) = none := by
    rw [← Option.not_isSome_iff_eq_none, Option.isSome_iff_exists]
    rintro ⟨slot, hslot⟩
    obtain ⟨hmem, hname⟩ := hr.name_of_find? hslot
    exact hkey (List.mem_map.2 ⟨slot, hmem, hname⟩)
  have hsame : r.ofFields (before ++ (key, value) :: after) = r.ofFields (before ++ after) := by
    refine hr.congr fun slot hslot => Keyed.lookup_append_cons_of_ne value ?_
    rintro rfl
    exact hkey (List.mem_map_of_mem hslot)
  unfold readFields
  rw [visit_append_cons_of_unknown hunknown, hsame]

/-- A record of one field agrees with itself where the values of the field agree. -/
theorem agree_readFields_required {R : α → α → Prop} {read : Reader α} {name : String}
    (hrefl : ∀ a, R a a) (h : Agree R (read value) (read value')) :
    Agree R ((required name read).readFields (before ++ (name, value) :: after))
      ((required name read).readFields (before ++ (name, value') :: after)) := by
  have hvisit : visit (required name read).slots [] (before ++ (name, value) :: after) =
      visit (required name read).slots [] (before ++ (name, value') :: after) := by
    refine visit_append_cons_congr (fun slot hslot => ?_) []
    have hmem := List.mem_of_find?_eq_some hslot
    rw [List.mem_singleton.1 hmem]
    exact h.map_const_eq ()
  unfold readFields
  rw [hvisit]
  refine (Agree.refl (fun _ => rfl) _).bind fun _ _ (_ : _ = _) => ?_
  rw [required, ofFields_slot_eq, ofFields_slot_eq, List.lookup_append, List.lookup_append]
  cases before.lookup name with
  | some first => exact .refl hrefl _
  | none =>
    rw [Option.none_or, Option.none_or, Keyed.lookup_cons, Keyed.lookup_cons, if_pos rfl,
      if_pos rfl]
    exact h

/-- It makes no difference to a record which of two values stands under a key. -/
structure TakesAlike (r : FieldReader α) (key : String) (value value' : Json) : Prop where
  check : ∀ slot ∈ r.slots, slot.answersTo key = true → slot.check value = slot.check value'
  ofFields : ∀ before after : List (String × Json),
    r.ofFields (before ++ (key, value) :: after) = r.ofFields (before ++ (key, value') :: after)

namespace TakesAlike

theorem map (f : α → β) {r : FieldReader α} (h : r.TakesAlike key value value') :
    (f <$> r).TakesAlike key value value' where
  check := h.check
  ofFields before after := congrArg (Except.map f) (h.ofFields before after)

theorem seq {f : FieldReader (α → β)} {r : FieldReader α} (hf : f.TakesAlike key value value')
    (hr : r.TakesAlike key value value') : (f <*> r).TakesAlike key value value' where
  check slot hslot := (List.mem_append.1 hslot).elim (hf.check slot) (hr.check slot)
  ofFields before after := by
    show (do let g ← f.ofFields _; let a ← r.ofFields _; return g a) =
      (do let g ← f.ofFields _; let a ← r.ofFields _; return g a)
    rw [hf.ofFields before after, hr.ofFields before after]

section
variable {name : String} {read : Reader α}

/-- A field takes two values alike that are read alike, where the key is its name at all. -/
theorem slot {absent : Except Fault α} {ended : Fault → Except Fault α}
    (h : name = key → read value = read value') :
    (slot name [] read absent ended).TakesAlike key value value' where
  check s hs hanswers := by
    rw [List.mem_singleton.1 hs] at hanswers ⊢
    rw [Slot.answersTo, List.contains_nil, Bool.or_false, beq_iff_eq] at hanswers
    exact congrArg (Except.map fun _ => ()) (h hanswers)
  ofFields before after := by
    rw [ofFields_slot_eq, ofFields_slot_eq, List.lookup_append, List.lookup_append,
      Keyed.lookup_cons, Keyed.lookup_cons]
    cases before.lookup name with
    | some first => rfl
    | none =>
      by_cases hname : name = key
      · rw [if_pos hname, if_pos hname]
        exact h hname
      · rw [if_neg hname, if_neg hname]

theorem required (h : name = key → read value = read value') :
    (required name read).TakesAlike key value value' := slot h

theorem withDefault {default : α} (h : name = key → read value = read value') :
    (withDefault name read default).TakesAlike key value value' := slot h

theorem optional (h : name = key → Reader.optional read value = Reader.optional read value') :
    (optional name read).TakesAlike key value value' := withDefault h

end

theorem readFields {r : FieldReader α} (h : r.TakesAlike key value value') :
    r.readFields (before ++ (key, value) :: after) =
      r.readFields (before ++ (key, value') :: after) := by
  have hvisit : visit r.slots [] (before ++ (key, value) :: after) =
      visit r.slots [] (before ++ (key, value') :: after) := by
    refine visit_append_cons_congr (fun slot hslot => ?_) []
    have hanswers : slot.answersTo key := by simpa using List.find?_some hslot
    exact h.check slot (List.mem_of_find?_eq_some hslot) hanswers
  unfold FieldReader.readFields
  rw [hvisit, h.ofFields before after]

end TakesAlike

end

/-! ## Records that were written -/

/-- From some fields, looked up by name, a record is read as a value. -/
structure Reads (r : FieldReader α) (fields : List (String × Json)) (a : α) : Prop where
  byName : r.ByName
  value : r.ofFields fields = .ok a

namespace Reads

variable {fields : List (String × Json)} {name : String} {read : Reader α} {json : Json} {a : α}

theorem pure (a : α) : (pure a : FieldReader α).Reads fields a := ⟨.pure a, rfl⟩

theorem map (f : α → β) {r : FieldReader α} (h : r.Reads fields a) :
    (f <$> r).Reads fields (f a) where
  byName := h.byName.map f
  value := ofFields_map_eq_ok_iff.2 ⟨a, h.value, rfl⟩

theorem seq {f : FieldReader (α → β)} {g : α → β} {r : FieldReader α} (hf : f.Reads fields g)
    (hr : r.Reads fields a) : (f <*> r).Reads fields (g a) where
  byName := hf.byName.seq hr.byName
  value := ofFields_seq_eq_ok_iff.2 ⟨g, a, hf.value, hr.value, rfl⟩

theorem slot {absent : Except Fault α} {ended : Fault → Except Fault α}
    (hfield : fields.lookup name = some json) (hread : read json = .ok a) :
    (slot name [] read absent ended).Reads fields a where
  byName := .slot name read absent ended
  value := by rw [ofFields_slot_eq, hfield, Option.elim_some, hread]

theorem required (hfield : fields.lookup name = some json) (hread : read json = .ok a) :
    (required name read).Reads fields a := slot hfield hread

theorem nullable {a : Option α} (hfield : fields.lookup name = some json)
    (hread : Reader.optional read json = .ok a) : (nullable name read).Reads fields a :=
  slot hfield hread

theorem withDefault {default : α} (hfield : fields.lookup name = some json)
    (hread : read json = .ok a) : (withDefault name read default).Reads fields a :=
  slot hfield hread

theorem optional {a : Option α} (hfield : fields.lookup name = some json)
    (hread : Reader.optional read json = .ok a) : (optional name read).Reads fields a :=
  withDefault hfield hread

/-- An absent field has the value that stands for its absence. -/
theorem withDefault_absent {default : α} (hfield : fields.lookup name = none) :
    (FieldReader.withDefault name read default).Reads fields default where
  byName := .slot name read _ _
  value := by
    rw [FieldReader.withDefault, ofFields_slot_eq, hfield]
    rfl

/-- A record is read so from the fields in any order. -/
theorem orderFields {r : FieldReader α} (h : r.Reads fields a)
    (hkeys : (fields.map Prod.fst).Nodup) : r.readFields (Json.orderFields fields) = .ok a := by
  rw [readFields_eq_ok_iff h.byName (Json.nodup_keys_orderFields fields), ← h.value]
  exact h.byName.congr fun s _ => Json.lookup_orderFields hkeys s.name

/-- What was written as an object with these fields is read as the value. -/
theorem record {r : FieldReader α} (h : r.Reads fields a) (hkeys : (fields.map Prod.fst).Nodup)
    (name : String) : r.record name (Json.record fields) = .ok a := h.orderFields hkeys

end Reads

end FieldReader

end Logbook
