import Mathlib.Data.List.Forall2
import Logbook.Proofs.Json.NullFields

/-!
# Records with fields that are absent or null

`Laid`: the fields that a reader takes are those of a list, each with the meaning of its absence. It
is kept by the ways in which readers are put together (`Laid.required`, `Laid.optional`,
`Laid.withDefault`, `Laid.map`, `Laid.seq`), and the record that is read takes `null` in a field as
the list says (`Laid.record`), whether it is written as an object or as an array.
-/

set_option autoImplicit false

namespace Logbook

/-- Where the lists of the members of a list share nothing, what is in the list of two members tells
that they are one. -/
theorem eq_of_nodup_flatMap {α β : Type} {f : α → List β} {a a' : α} {b : β} : ∀ {l : List α},
    (l.flatMap f).Nodup → a ∈ l → a' ∈ l → b ∈ f a → b ∈ f a' → a = a'
  | first :: rest, hnodup, ha, ha', hb, hb' => by
    rw [List.flatMap_cons, List.nodup_append] at hnodup
    obtain ⟨-, hrest, hapart⟩ := hnodup
    rcases List.mem_cons.1 ha with rfl | hmem
    · rcases List.mem_cons.1 ha' with rfl | hmem'
      · rfl
      · exact absurd rfl (hapart b hb b (List.mem_flatMap.2 ⟨a', hmem', hb'⟩))
    · rcases List.mem_cons.1 ha' with rfl | hmem'
      · exact absurd rfl (hapart b hb' b (List.mem_flatMap.2 ⟨a, hmem, hb⟩))
      · exact eq_of_nodup_flatMap hrest hmem hmem' hb hb'

theorem getElem?_append_cons_self {α : Type} (before after : List α) (a : α) :
    (before ++ a :: after)[before.length]? = some a := by
  rw [List.getElem?_append_right (Nat.le_refl _), Nat.sub_self, List.getElem?_cons_zero]

theorem getElem?_append_cons_of_ne {α : Type} {before after : List α} {i : Nat} (a a' : α)
    (h : i ≠ before.length) : (before ++ a :: after)[i]? = (before ++ a' :: after)[i]? := by
  rw [List.getElem?_append, List.getElem?_append]
  split
  · rfl
  · obtain ⟨n, hn⟩ := Nat.exists_eq_add_of_lt (show before.length < i by omega)
    have hsucc : i - before.length = n + 1 := by omega
    rw [hsucc, List.getElem?_cons_succ, List.getElem?_cons_succ]

/-! ## Slots by their names -/

namespace Slot

/-- The names that a slot answers to. -/
def names (slot : Slot) : List String := slot.name :: slot.aliases

theorem answersTo_iff {slot : Slot} {key : String} :
    slot.answersTo key = true ↔ key ∈ slot.names := by
  rw [answersTo, names, Bool.or_eq_true, beq_iff_eq, List.contains_iff_mem, List.mem_cons, eq_comm]

end Slot

namespace FieldReader

variable {α : Type} {slot : Slot} {slots : List Slot} {key : String} {value : Json}
  {before after : List (String × Json)}

/-- Where no name is that of two slots, the slot of a key is the one that has it for a name. -/
theorem find?_answersTo_eq_some_iff (hnames : (slots.flatMap Slot.names).Nodup) :
    slots.find? (·.answersTo key) = some slot ↔ slot ∈ slots ∧ key ∈ slot.names := by
  constructor
  · intro h
    exact ⟨List.mem_of_find?_eq_some h, Slot.answersTo_iff.1 (List.find?_some h :)⟩
  · rintro ⟨hmem, hkey⟩
    have hsome : (slots.find? (·.answersTo key)).isSome :=
      List.find?_isSome.2 ⟨slot, hmem, Slot.answersTo_iff.2 hkey⟩
    obtain ⟨other, hother⟩ := Option.isSome_iff_exists.1 hsome
    rw [hother, eq_of_nodup_flatMap hnames (List.mem_of_find?_eq_some hother) hmem
      (Slot.answersTo_iff.1 (List.find?_some hother :)) hkey]

theorem find?_answersTo_eq_none (h : key ∉ slots.flatMap Slot.names) :
    slots.find? (·.answersTo key) = none := by
  rw [List.find?_eq_none]
  intro slot hmem hanswers
  exact h (List.mem_flatMap.2 ⟨slot, hmem, Slot.answersTo_iff.1 hanswers⟩)

/-! ## What stands under the names of a slot -/

theorem valueOf_append (slot : Slot) (before after : List (String × Json)) :
    valueOf slot (before ++ after) = (valueOf slot before).or (valueOf slot after) := by
  unfold valueOf
  rw [List.find?_append]
  cases before.find? fun field => slot.answersTo field.1 <;> rfl

theorem valueOf_cons_of_mem (h : key ∈ slot.names) (rest : List (String × Json)) :
    valueOf slot ((key, value) :: rest) = some value := by
  unfold valueOf
  rw [List.find?_cons, Slot.answersTo_iff.2 h, Option.map_some]

theorem valueOf_cons_of_not_mem (h : key ∉ slot.names) (rest : List (String × Json)) :
    valueOf slot ((key, value) :: rest) = valueOf slot rest := by
  unfold valueOf
  rw [List.find?_cons, Bool.eq_false_iff.2 (mt Slot.answersTo_iff.1 h)]

theorem valueOf_eq_none_iff {fields : List (String × Json)} :
    valueOf slot fields = none ↔ ∀ field ∈ fields, field.1 ∉ slot.names := by
  rw [valueOf, Option.map_eq_none_iff, List.find?_eq_none]
  simp only [Slot.answersTo_iff]

/-- Under other names stands what stood there before. -/
theorem valueOf_append_cons_of_not_mem (h : key ∉ slot.names) :
    valueOf slot (before ++ (key, value) :: after) = valueOf slot (before ++ after) := by
  rw [valueOf_append, valueOf_append, valueOf_cons_of_not_mem h]

/-! ## The visit of a new field -/

/-- Which names were seen matters for those only that stand in the rest. -/
theorem visit_congr : ∀ {fields : List (String × Json)} {seen seen' : List String},
    (∀ name ∈ knownNames slots fields, name ∈ seen ↔ name ∈ seen') →
      visit slots seen fields = visit slots seen' fields
  | [], _, _, _ => rfl
  | (key, value) :: rest, seen, seen', h => by
    rw [visit, visit]
    cases hslot : slots.find? (·.answersTo key) with
    | none =>
      refine visit_congr fun name hname => h name ?_
      rwa [knownNames, List.filterMap_cons, hslot]
    | some slot =>
      simp only [knownNames, List.filterMap_cons, hslot, Option.map_some, List.forall_mem_cons] at h
      have hrest : visit slots (slot.name :: seen) rest = visit slots (slot.name :: seen') rest :=
        visit_congr fun name hname => by rw [List.mem_cons, List.mem_cons, h.2 name hname]
      simp only [List.contains_iff_mem, h.1, hrest]

/-- A field that stands once and has nothing wrong with it leaves the visit as it is. -/
theorem visit_append_cons_of_once (hslot : slots.find? (·.answersTo key) = some slot)
    (hcheck : slot.check value = .ok ()) :
    ∀ {before : List (String × Json)} {seen : List String}, slot.name ∉ seen →
      slot.name ∉ knownNames slots (before ++ after) →
        visit slots seen (before ++ (key, value) :: after) = visit slots seen (before ++ after)
  | [], seen, hseen, honce => by
    rw [List.nil_append, List.nil_append, visit, hslot]
    simp only [List.contains_iff_mem, hseen, if_false, hcheck]
    refine visit_congr fun name hname => ?_
    rw [List.mem_cons, or_iff_right]
    rintro rfl
    exact honce hname
  | (name, item) :: before, seen, hseen, honce => by
    rw [List.cons_append, List.cons_append, visit, visit]
    cases hother : slots.find? (·.answersTo name) with
    | none =>
      refine visit_append_cons_of_once hslot hcheck hseen ?_
      rwa [List.cons_append, knownNames, List.filterMap_cons, hother] at honce
    | some other =>
      rw [List.cons_append, knownNames, List.filterMap_cons, hother, Option.map_some,
        List.mem_cons, not_or] at honce
      have hrest : visit slots (other.name :: seen) (before ++ (key, value) :: after) =
          visit slots (other.name :: seen) (before ++ after) := by
        refine visit_append_cons_of_once hslot hcheck ?_ honce.2
        rw [List.mem_cons, not_or]
        exact ⟨honce.1, hseen⟩
      simp only [hrest]

/-- What stands under a name of a slot has been checked. -/
theorem check_of_readFields {r : FieldReader α} {a : α}
    (hfind : r.slots.find? (·.answersTo key) = some slot)
    (h : r.readFields (before ++ (key, value) :: after) = .ok a) : slot.check value = .ok () := by
  obtain ⟨⟨⟩, hvisit, -⟩ := Fallible.bind_eq_ok_iff.1 h
  exact (visit_eq_ok_iff.1 hvisit).2.2 (key, value)
    (List.mem_append_right _ List.mem_cons_self) slot hfind

end FieldReader

/-! ## Fields laid out -/

/-- A slot is that of a field: it has the same names, and it takes `null` as the field does. -/
structure Slot.Fits (slot : Slot) (field : Field Shape) : Prop where
  names : slot.names = field.names
  nullable : field.absence = .nullable → slot.check .null = .ok ()
  filled : field.absence = .filled → ∃ fault, slot.check .null = .error fault
  inner : TakesNull field.inner slot.check

theorem Slot.flatMap_names_eq {slots : List Slot} {fields : List (Field Shape)}
    (h : List.Forall₂ Slot.Fits slots fields) :
    slots.flatMap Slot.names = fields.flatMap Field.names := by
  induction h with
  | nil => rfl
  | cons hfits _ ih => rw [List.flatMap_cons, List.flatMap_cons, hfits.names, ih]

/-- The same stands in a field, or what stands there is changed by a `null` that says nothing. -/
def Field.Alike (field : Field Shape) (value value' : Option Json) : Prop :=
  value = value' ∨ field.Changes .nullable value value'

/-- What has no fields inside is the same, or it is `null` and was absent. -/
theorem Field.Alike.eq_or_null {field : Field Shape} {value value' : Option Json}
    (h : field.Alike value value') (hplain : field.inner = .plain) :
    value = value' ∨ value = none ∧ value' = some .null := by
  refine h.imp_right fun hchanges => ?_
  cases hchanges with
  | null => exact ⟨rfl, rfl⟩
  | inside inside =>
    rw [hplain] at inside
    cases inside

/-- What is passed on where it is not `null` is the same, or the change is inside it. -/
theorem Field.Alike.filter {field : Field Shape} {value value' : Option Json} {keep : Json → Bool}
    (h : field.Alike value value') (hnull : keep .null = false)
    (hsame : ∀ {item item' : Json}, SetsNull .nullable field.inner item item' →
      keep item = keep item') :
    value.filter keep = value'.filter keep ∨
      ∃ item item', value.filter keep = some item ∧ value'.filter keep = some item' ∧
        SetsNull .nullable field.inner item item' := by
  obtain rfl | hchanges := h
  · exact .inl rfl
  · cases hchanges with
    | null =>
      left
      rw [Option.filter_none, Option.filter_some, hnull]
      rfl
    | inside inside =>
      rw [Option.filter_some, Option.filter_some, hsame inside]
      split
      · exact .inr ⟨_, _, rfl, rfl, inside⟩
      · exact .inl rfl

/-- Under the name of a field of a record stands the same, or the change is there. -/
theorem SetsNull.alike_field? {placed named : List (Field Shape)} {value value' : Json}
    (h : SetsNull .nullable (.record placed named) value value')
    (hnames : ((placed ++ named).flatMap Field.names).Nodup) (field : Field Shape)
    (hfield : field ∈ placed ++ named) :
    field.Alike (value.field? field.name) (value'.field? field.name) := by
  have hsame {other : Field Shape} (hother : other ∈ placed ++ named)
      (hname : field.name ∈ other.names) : other = field :=
    eq_of_nodup_flatMap hnames hother hfield hname List.mem_cons_self
  cases h with
  | field known kind absent hname =>
    rename_i other source name
    show field.Alike (source.find? field.name) ((source.insert name .null).find? field.name)
    by_cases heq : field.name = name
    · subst heq
      rw [hsame known hname] at kind
      rw [absent _ hname, Keyed.find?_insert, if_pos rfl]
      exact .inr (.null kind)
    · rw [Keyed.find?_insert_of_ne source _ heq]
      exact .inl rfl
  | inField known hname found inside =>
    rename_i other source name item item'
    show field.Alike (source.find? field.name) ((source.insert name item').find? field.name)
    by_cases heq : field.name = name
    · subst heq
      rw [hsame known hname] at inside
      rw [found, Keyed.find?_insert, if_pos rfl]
      exact .inr (.inside inside)
    · rw [Keyed.find?_insert_of_ne source _ heq]
      exact .inl rfl
  | item | inItem => exact .inl rfl

namespace FieldReader

variable {α β : Type}

/-- The fields that a reader takes are those of a list. It reads the same from values that are alike
field by field, and what it reads from an array has been checked. -/
structure Laid (r : FieldReader α) (fields : List (Field Shape)) : Prop where
  slots : List.Forall₂ Slot.Fits r.slots fields
  ofFields : ∀ {source source' : List (String × Json)},
    (∀ slot ∈ r.slots, ∀ field ∈ fields, slot.names = field.names →
      field.Alike (valueOf slot source) (valueOf slot source')) →
        r.ofFields source = r.ofFields source'
  ofItems : ∀ (short : Nat → Fault) (place : Nat) (items items' : List Json),
    (∀ (i : Nat) (field : Field Shape), fields[i]? = some field →
      field.Alike items[i]? items'[i]?) →
      ∃ outcome : Except Fault α,
        r.ofItems short place items =
          outcome.map (fun a => (a, place + fields.length, items.drop fields.length)) ∧
        r.ofItems short place items' =
          outcome.map (fun a => (a, place + fields.length, items'.drop fields.length))
  checked : ∀ {short : Nat → Fault} {place last : Nat} {items rest : List Json} {a : α},
    r.ofItems short place items = .ok (a, last, rest) → ∀ (i : Nat) (slot : Slot) (item : Json),
      r.slots[i]? = some slot → items[i]? = some item → slot.check item = .ok ()

namespace Laid

section
variable {name : String} {aliases : List String} {read : Reader α} {absent : Except Fault α}
  {ended : Fault → Except Fault α}

theorem ofFields_slot (source : List (String × Json)) :
    (slot name aliases read absent ended).ofFields source =
      (valueOf ⟨name, aliases, fun value => (read value).map fun _ => ()⟩ source).elim absent
        read := by
  unfold FieldReader.slot
  dsimp only
  cases valueOf _ source <;> rfl

theorem ofItems_slot (short : Nat → Fault) (place : Nat) (items : List Json) :
    (slot name aliases read absent ended).ofItems short place items =
      (items[0]?.elim (ended (short place)) read).map fun a => (a, place + 1, items.drop 1) := by
  cases items <;> rfl

/-- A field is laid out where its reader takes `null` as the field does; what its absence stands for
is then what `null` stands for. -/
theorem slot {absence : Absence} {inner : Shape} (hread : TakesNull inner read)
    (hnullable : absence = .nullable →
      (∃ a, read .null = .ok a) ∧ absent = read .null ∧ ∀ fault, ended fault = read .null)
    (hfilled : absence = .filled → ∃ fault, read .null = .error fault) :
    (slot name aliases read absent ended).Laid [⟨name, aliases, absence, inner⟩] where
  slots := by
    refine .cons ⟨rfl, fun h => ?_, fun h => ?_, hread.map _⟩ .nil
    · obtain ⟨⟨a, ha⟩, -⟩ := hnullable h
      show (read .null).map _ = _
      rw [ha]
      rfl
    · obtain ⟨fault, hfault⟩ := hfilled h
      refine ⟨fault, ?_⟩
      show (read .null).map _ = _
      rw [hfault]
      rfl
  ofFields {source source'} halike := by
    have hslot := halike _ List.mem_cons_self _ List.mem_cons_self rfl
    change Field.Alike _ (valueOf ⟨name, aliases, fun value => (read value).map fun _ => ()⟩ source)
      (valueOf _ source') at hslot
    rw [ofFields_slot, ofFields_slot]
    generalize valueOf _ source = value, valueOf _ source' = value' at hslot
    obtain rfl | hchanges := hslot
    · rfl
    · cases hchanges with
      | null kind => exact (hnullable kind).2.1
      | inside h => exact hread.nullable h
  ofItems short place items items' halike := by
    refine ⟨items[0]?.elim (ended (short place)) read, ofItems_slot short place items, ?_⟩
    have hsame : items[0]?.elim (ended (short place)) read =
        items'[0]?.elim (ended (short place)) read := by
      have hplace := halike 0 _ rfl
      generalize items[0]? = value, items'[0]? = value' at hplace
      obtain rfl | hchanges := hplace
      · rfl
      · cases hchanges with
        | null kind => exact (hnullable kind).2.2 _
        | inside h => exact hread.nullable h
    rw [hsame]
    exact ofItems_slot short place items'
  checked {short place last items rest a} hitems i s item hs hitem := by
    obtain ⟨hi, rfl⟩ : i = 0 ∧ _ = s := by
      cases i with
      | zero => exact ⟨rfl, Option.some.inj hs⟩
      | succ i => cases hs
    subst hi
    rw [ofItems_slot, hitem, Option.elim_some] at hitems
    obtain ⟨a, ha, -⟩ := Fallible.map_eq_ok_iff.1 hitems
    show (read item).map _ = _
    rw [ha]
    rfl

end

theorem required {name : String} (read : Reader α) :
    (required name read).Laid [Field.required name] :=
  slot (.plain read) nofun nofun

theorem optional {name : String} (read : Reader α) (aliases : List String := []) :
    (optional name read aliases).Laid [Field.nullable name aliases] :=
  slot (.plain _) (fun _ => ⟨⟨none, rfl⟩, rfl, fun _ => rfl⟩) nofun

/-- A field whose default is what `null` is read as. -/
theorem withDefault_of_null {name : String} {read : Reader α} {default : α}
    (hnull : read .null = .ok default) :
    (withDefault name read default).Laid [Field.nullable name] :=
  slot (.plain read) (fun _ => ⟨⟨default, hnull⟩, hnull.symm, fun _ => hnull.symm⟩) nofun

/-- A field whose default is its own. -/
theorem withDefault {name : String} {read : Reader α} {default : α} {inner : Shape} {fault : Fault}
    (hread : TakesNull inner read) (hnull : read .null = .error fault) :
    (withDefault name read default).Laid [Field.filled name inner] :=
  slot hread nofun fun _ => ⟨fault, hnull⟩

theorem map {r : FieldReader α} {fields : List (Field Shape)} (hr : r.Laid fields) (f : α → β) :
    (f <$> r).Laid fields where
  slots := hr.slots
  ofFields halike := congrArg (Except.map f) (hr.ofFields halike)
  ofItems short place items items' halike := by
    obtain ⟨outcome, hitems, hitems'⟩ := hr.ofItems short place items items' halike
    refine ⟨outcome.map f, ?_, ?_⟩
    · show (r.ofItems short place items >>= fun x => .ok (f x.1, x.2.1, x.2.2)) = _
      rw [hitems]
      cases outcome <;> rfl
    · show (r.ofItems short place items' >>= fun x => .ok (f x.1, x.2.1, x.2.2)) = _
      rw [hitems']
      cases outcome <;> rfl
  checked h := by
    obtain ⟨a, ha, -⟩ := ofItems_map_eq_ok_iff.1 h
    exact hr.checked ha

/-- What is left of an array is what stands behind the fields. -/
theorem rest_eq {r : FieldReader α} {fields : List (Field Shape)} (hr : r.Laid fields)
    {short : Nat → Fault} {place last : Nat} {items rest : List Json} {a : α}
    (h : r.ofItems short place items = .ok (a, last, rest)) :
    rest = items.drop fields.length := by
  obtain ⟨outcome, hitems, -⟩ := hr.ofItems short place items items fun _ _ _ => .inl rfl
  rw [hitems] at h
  obtain ⟨_, _, h⟩ := Fallible.map_eq_ok_iff.1 h
  cases h
  rfl

theorem seq {f : FieldReader (α → β)} {r : FieldReader α} {first second : List (Field Shape)}
    (hf : f.Laid first) (hr : r.Laid second) : (f <*> r).Laid (first ++ second) where
  slots := List.rel_append hf.slots hr.slots
  ofFields {source source'} halike := by
    show (do let g ← f.ofFields source; let a ← r.ofFields source; return g a) =
      (do let g ← f.ofFields source'; let a ← r.ofFields source'; return g a)
    rw [hf.ofFields fun slot hslot field hfield =>
        halike slot (List.mem_append_left _ hslot) field (List.mem_append_left _ hfield),
      hr.ofFields fun slot hslot field hfield =>
        halike slot (List.mem_append_right _ hslot) field (List.mem_append_right _ hfield)]
  ofItems short place items items' halike := by
    obtain ⟨outcome, hitems, hitems'⟩ := hf.ofItems short place items items'
      fun i field hfield => by
        refine halike i field ?_
        rw [List.getElem?_append_left (List.getElem?_eq_some_iff.1 hfield).1, hfield]
    obtain ⟨outcome', hrest, hrest'⟩ := hr.ofItems short (place + first.length)
      (items.drop first.length) (items'.drop first.length)
      fun i field hfield => by
        rw [List.getElem?_drop, List.getElem?_drop]
        refine halike _ field ?_
        rw [List.getElem?_append_right (Nat.le_add_right _ _), Nat.add_sub_cancel_left, hfield]
    have hread (items : List Json)
        (hfirst : f.ofItems short place items =
          outcome.map (fun g => (g, place + first.length, items.drop first.length)))
        (hsecond : r.ofItems short (place + first.length) (items.drop first.length) =
          outcome'.map (fun a => (a, place + first.length + second.length,
            (items.drop first.length).drop second.length))) :
        (f <*> r).ofItems short place items = (outcome.bind fun g => outcome'.map g).map
          (fun b => (b, place + (first ++ second).length,
            items.drop (first ++ second).length)) := by
      show (f.ofItems short place items >>= fun x =>
        r.ofItems short x.2.1 x.2.2 >>= fun y => .ok (x.1 y.1, y.2.1, y.2.2)) = _
      rw [hfirst, List.length_append, ← List.drop_drop, ← Nat.add_assoc]
      cases outcome with
      | error fault => rfl
      | ok g =>
        show (r.ofItems short (place + first.length) (items.drop first.length) >>= _) = _
        rw [hsecond]
        cases outcome' <;> rfl
    exact ⟨_, hread items hitems hrest, hread items' hitems' hrest'⟩
  checked {short place last items rest b} h i slot item hslot hitem := by
    obtain ⟨g, a, place', items', hg, ha, -⟩ := ofItems_seq_eq_ok_iff.1 h
    have hlength : f.slots.length = first.length := hf.slots.length_eq
    change (f.slots ++ r.slots)[i]? = some slot at hslot
    by_cases hi : i < f.slots.length
    · rw [List.getElem?_append_left hi] at hslot
      exact hf.checked hg i slot item hslot hitem
    · rw [List.getElem?_append_right (Nat.le_of_not_lt hi)] at hslot
      refine hr.checked ha _ slot item hslot ?_
      rw [hf.rest_eq hg, ← hlength, List.getElem?_drop, Nat.add_sub_cancel' (Nat.le_of_not_lt hi),
        hitem]

/-! ## Records -/

section
variable {r : FieldReader α} {fields named : List (Field Shape)} (hr : r.Laid fields)
include hr

theorem slot_of_getElem? {i : Nat} {field : Field Shape} (h : fields[i]? = some field) :
    ∃ slot, r.slots[i]? = some slot ∧ slot.Fits field := by
  obtain ⟨hi, rfl⟩ := List.getElem?_eq_some_iff.1 h
  have hlength := hr.slots.length_eq
  refine ⟨r.slots[i], List.getElem?_eq_getElem _, ?_⟩
  exact (List.forall₂_iff_get.1 hr.slots).2 i (by omega) hi

theorem slot_of_mem {field : Field Shape} (h : field ∈ fields) :
    ∃ slot ∈ r.slots, slot.Fits field := by
  obtain ⟨i, hi⟩ := List.mem_iff_getElem?.1 h
  obtain ⟨slot, hslot, hfits⟩ := hr.slot_of_getElem? hi
  exact ⟨slot, List.mem_of_getElem? hslot, hfits⟩

section
variable (hnames : ((fields ++ named).flatMap Field.names).Nodup)
include hnames

theorem nodup_names : (r.slots.flatMap Slot.names).Nodup := by
  rw [Slot.flatMap_names_eq hr.slots]
  rw [List.flatMap_append, List.nodup_append] at hnames
  exact hnames.1

/-- A name of a field leads to its slot. -/
theorem find?_slots {field : Field Shape} {slot : Slot} {key : String} (hmem : slot ∈ r.slots)
    (hfits : slot.Fits field) (hkey : key ∈ field.names) :
    r.slots.find? (·.answersTo key) = some slot :=
  (find?_answersTo_eq_some_iff (hr.nodup_names hnames)).2 ⟨hmem, hfits.names ▸ hkey⟩

/-- A name that is none of the fields leads to no slot. -/
theorem find?_slots_of_named {field : Field Shape} {key : String} (known : field ∈ named)
    (hkey : key ∈ field.names) : key ∉ r.slots.flatMap Slot.names := by
  rw [Slot.flatMap_names_eq hr.slots]
  rw [List.flatMap_append, List.nodup_append] at hnames
  intro hmem
  exact hnames.2.2 key hmem key (List.mem_flatMap.2 ⟨field, known, hkey⟩) rfl

/-- Two fields of one name are the same. -/
theorem eq_of_names_eq {field field' : Field Shape} {slot slot' : Slot} {key : String}
    (known : field ∈ fields) (known' : field' ∈ fields) (hfits : slot.Fits field)
    (hsame : slot'.names = field'.names) (hslot : slot ∈ r.slots) (hslot' : slot' ∈ r.slots)
    (hkey : key ∈ field.names) (hkey' : key ∈ slot'.names) : slot' = slot ∧ field' = field := by
  have hfield : (fields.flatMap Field.names).Nodup := by
    rw [← Slot.flatMap_names_eq hr.slots]
    exact hr.nodup_names hnames
  exact ⟨eq_of_nodup_flatMap (hr.nodup_names hnames) hslot' hslot hkey' (hfits.names ▸ hkey),
    eq_of_nodup_flatMap hfield known' known (hsame ▸ hkey') hkey⟩

section
variable {before after : List (String × Json)} {key : String} {field : Field Shape}

/-- A `null` in a nullable field that is absent changes nothing. -/
theorem readFields_added (known : field ∈ fields) (kind : field.absence = .nullable)
    (hkey : key ∈ field.names) (absent : ∀ entry ∈ before ++ after, entry.1 ∉ field.names) :
    r.readFields (before ++ (key, .null) :: after) = r.readFields (before ++ after) := by
  obtain ⟨slot, hslot, hfits⟩ := hr.slot_of_mem known
  have hfind := hr.find?_slots hnames hslot hfits hkey
  have honce : slot.name ∉ knownNames r.slots (before ++ after) := by
    intro hmem
    obtain ⟨entry, hentry, hname⟩ := List.mem_filterMap.1 hmem
    obtain ⟨other, hother, hname⟩ := Option.map_eq_some_iff.1 hname
    obtain ⟨hmem', hkey'⟩ := (find?_answersTo_eq_some_iff (hr.nodup_names hnames)).1 hother
    have hsame : other = slot := eq_of_nodup_flatMap (hr.nodup_names hnames) hmem' hslot
      (List.mem_cons_self (a := other.name)) (hname ▸ List.mem_cons_self)
    rw [hsame, hfits.names] at hkey'
    exact absent entry hentry hkey'
  have hfields : r.ofFields (before ++ after) = r.ofFields (before ++ (key, .null) :: after) := by
    refine hr.ofFields fun slot' hslot' field' known' hsame => ?_
    by_cases hkey' : key ∈ slot'.names
    · obtain ⟨rfl, rfl⟩ :=
        hr.eq_of_names_eq hnames known known' hfits hsame hslot hslot' hkey hkey'
      have hnone (entries : List (String × Json))
          (hmem : ∀ entry ∈ entries, entry ∈ before ++ after) : valueOf slot' entries = none :=
        valueOf_eq_none_iff.2 fun entry hentry => hfits.names ▸ absent entry (hmem entry hentry)
      rw [hnone _ fun _ => id, valueOf_append, hnone before fun _ => List.mem_append_left _,
        valueOf_cons_of_mem hkey', Option.none_or]
      exact .inr (.null kind)
    · rw [valueOf_append_cons_of_not_mem hkey']
      exact .inl rfl
  unfold readFields
  rw [visit_append_cons_of_once hfind (hfits.nullable kind) List.not_mem_nil honce, hfields]

/-- A `null` inside the value of a field changes nothing where it says nothing there. -/
theorem readFields_changed (known : field ∈ fields) (hkey : key ∈ field.names)
    {value value' : Json} (inside : SetsNull .nullable field.inner value value') :
    r.readFields (before ++ (key, value) :: after) =
      r.readFields (before ++ (key, value') :: after) := by
  obtain ⟨slot, hslot, hfits⟩ := hr.slot_of_mem known
  have hfind := hr.find?_slots hnames hslot hfits hkey
  have hvisit : visit r.slots [] (before ++ (key, value) :: after) =
      visit r.slots [] (before ++ (key, value') :: after) := by
    refine visit_append_cons_congr (fun other hother => ?_) []
    rw [hfind, Option.some.injEq] at hother
    subst hother
    exact hfits.inner.nullable inside
  have hfields : r.ofFields (before ++ (key, value) :: after) =
      r.ofFields (before ++ (key, value') :: after) := by
    refine hr.ofFields fun slot' hslot' field' known' hsame => ?_
    rw [valueOf_append, valueOf_append]
    by_cases hkey' : key ∈ slot'.names
    · obtain ⟨rfl, rfl⟩ :=
        hr.eq_of_names_eq hnames known known' hfits hsame hslot hslot' hkey hkey'
      rw [valueOf_cons_of_mem hkey', valueOf_cons_of_mem hkey']
      cases valueOf slot' before with
      | some first => exact .inl rfl
      | none => exact .inr (.inside inside)
    · rw [valueOf_cons_of_not_mem hkey', valueOf_cons_of_not_mem hkey']
      exact .inl rfl
  unfold readFields
  rw [hvisit, hfields]

/-- What stands under a name of no field changes nothing. -/
theorem readFields_unknown (known : field ∈ named) (hkey : key ∈ field.names) (value : Json) :
    r.readFields (before ++ (key, value) :: after) = r.readFields (before ++ after) := by
  have hunknown := hr.find?_slots_of_named hnames known hkey
  have hfields : r.ofFields (before ++ (key, value) :: after) = r.ofFields (before ++ after) := by
    refine hr.ofFields fun slot hslot _ _ _ => .inl ?_
    exact valueOf_append_cons_of_not_mem fun hmem =>
      hunknown (List.mem_flatMap.2 ⟨slot, hslot, hmem⟩)
  unfold readFields
  rw [visit_append_cons_of_unknown (find?_answersTo_eq_none hunknown), hfields]

end

end

/-! ### Arrays -/

section
variable {name : String} {items items' : List Json} {i : Nat} {field : Field Shape} {a : α}

/-- Arrays that are alike item by item are read alike, where they have the same items behind those
of the fields. -/
theorem readItems_congr (halike : ∀ (i : Nat) (field : Field Shape), fields[i]? = some field →
      field.Alike items[i]? items'[i]?)
    (hlength : items.length = items'.length ∨
      items.length ≤ fields.length ∧ items'.length ≤ fields.length) :
    r.readItems name items = r.readItems name items' := by
  obtain ⟨outcome, hitems, hitems'⟩ :=
    hr.ofItems (fun place => .tooShort place (r.shape name)) 0 items items' halike
  unfold readItems
  rw [hitems, hitems']
  cases outcome with
  | error fault => rfl
  | ok a =>
    show (if (items.drop fields.length).isEmpty then _ else throw (Fault.tooLong items.length)) =
      (if (items'.drop fields.length).isEmpty then _ else throw (Fault.tooLong items'.length))
    have hempty (items : List Json) :
        (items.drop fields.length).isEmpty = decide (items.length ≤ fields.length) := by
      rw [Bool.eq_iff_iff, List.isEmpty_iff, List.drop_eq_nil_iff, decide_eq_true_iff]
    rw [hempty, hempty]
    obtain hsame | ⟨hshort, hshort'⟩ := hlength
    · rw [hsame]
    · rw [decide_eq_true hshort, decide_eq_true hshort']
      rfl

/-- What stands in the place of a slot has been checked. -/
theorem check_of_readItems {slot : Slot} {item : Json} (h : r.readItems name items = .ok a)
    (hslot : r.slots[i]? = some slot) (hitem : items[i]? = some item) :
    slot.check item = .ok () := by
  obtain ⟨last, h⟩ := readItems_eq_ok_iff.1 h
  exact hr.checked h i slot item hslot hitem

end

/-! ### What a record is read as -/

/-- A record takes `null` in a nullable field for its absence. -/
theorem record_nullable (hnames : ((fields ++ named).flatMap Field.names).Nodup) (name : String)
    {value value' : Json} (h : SetsNull .nullable (.record fields named) value value') :
    r.record name value = r.record name value' := by
  cases h with
  | field known kind absent hname =>
    obtain ⟨before, after, hsource, hsource'⟩ :=
      Keyed.toList_insert_of_none (absent _ hname) Json.null
    rw [hsource, hsource']
    symm
    rcases List.mem_append.1 known with known | known
    · refine hr.readFields_added hnames known kind hname fun entry hentry hmem => ?_
      rw [← hsource, Keyed.mem_toList_iff, absent _ hmem] at hentry
      cases hentry
    · exact hr.readFields_unknown hnames known hname .null
  | inField known hname found inside =>
    obtain ⟨before, after, hsource, hsource'⟩ := Keyed.toList_insert_of_some found _
    rw [hsource, hsource']
    rcases List.mem_append.1 known with known | known
    · exact hr.readFields_changed hnames known hname inside
    · exact (hr.readFields_unknown hnames known hname _).trans
        (hr.readFields_unknown hnames known hname _).symm
  | item known kind =>
    rename_i field items
    have hshort := (List.getElem?_eq_some_iff.1 known).1
    have hshort' : (items ++ [Json.null]).length ≤ fields.length := by
      rwa [List.length_append]
    refine hr.readItems_congr (fun i other hother => ?_) (.inr ⟨hshort.le, hshort'⟩)
    by_cases hi : i = items.length
    · subst hi
      rw [known, Option.some.injEq] at hother
      subst hother
      rw [List.getElem?_eq_none (Nat.le_refl _), List.getElem?_concat_length]
      exact .inr (.null kind)
    · refine .inl ?_
      by_cases hlt : i < items.length
      · rw [List.getElem?_append_left hlt]
      · rw [List.getElem?_eq_none (by omega), List.getElem?_eq_none (by simp; omega)]
  | inItem known inside =>
    rename_i field before after item item'
    refine hr.readItems_congr (fun i other hother => ?_) (.inl (by simp))
    by_cases hi : i = before.length
    · subst hi
      rw [known, Option.some.injEq] at hother
      subst hother
      rw [getElem?_append_cons_self, getElem?_append_cons_self]
      exact .inr (.inside inside)
    · exact .inl (getElem?_append_cons_of_ne _ _ hi)

/-- A record is not read with `null` in a filled field. -/
theorem record_filled (hnames : (fields.flatMap Field.names).Nodup) (name : String)
    {value value' : Json} {a : α} (h : SetsNull .filled (.record fields []) value value')
    (hread : r.record name value = .ok a) : ∃ fault, r.record name value' = .error fault := by
  have hnames' : ((fields ++ []).flatMap Field.names).Nodup := by rwa [List.append_nil]
  refine Fallible.exists_error_of_ne_ok fun a' hread' => ?_
  -- a slot for which the value was good and is bad now cannot have been checked twice
  have hbad {field : Field Shape} {slot : Slot} {item item' : Json} (hfits : slot.Fits field)
      (inside : SetsNull .filled field.inner item item') (hitem : slot.check item = .ok ())
      (hitem' : slot.check item' = .ok ()) : False := by
    obtain ⟨fault, hfault⟩ := hfits.inner.filled inside hitem
    rw [hitem'] at hfault
    cases hfault
  have hnull {field : Field Shape} {slot : Slot} (hfits : slot.Fits field)
      (kind : field.absence = .filled) (hcheck : slot.check .null = .ok ()) : False := by
    obtain ⟨fault, hfault⟩ := hfits.filled kind
    rw [hcheck] at hfault
    cases hfault
  cases h with
  | field known kind absent hname =>
    rw [List.append_nil] at known
    obtain ⟨slot, hslot, hfits⟩ := hr.slot_of_mem known
    obtain ⟨before, after, -, hsource'⟩ :=
      Keyed.toList_insert_of_none (absent _ hname) Json.null
    rw [hsource'] at hread'
    exact hnull hfits kind
      (check_of_readFields (hr.find?_slots hnames' hslot hfits hname) hread')
  | inField known hname found inside =>
    rw [List.append_nil] at known
    obtain ⟨slot, hslot, hfits⟩ := hr.slot_of_mem known
    have hfind := hr.find?_slots hnames' hslot hfits hname
    obtain ⟨before, after, hsource, hsource'⟩ := Keyed.toList_insert_of_some found _
    rw [hsource] at hread
    rw [hsource'] at hread'
    exact hbad hfits inside (check_of_readFields hfind hread) (check_of_readFields hfind hread')
  | item known kind =>
    obtain ⟨slot, hslot, hfits⟩ := hr.slot_of_getElem? known
    exact hnull hfits kind (hr.check_of_readItems hread' hslot List.getElem?_concat_length)
  | inItem known inside =>
    obtain ⟨slot, hslot, hfits⟩ := hr.slot_of_getElem? known
    exact hbad hfits inside (hr.check_of_readItems hread hslot (getElem?_append_cons_self _ _ _))
      (hr.check_of_readItems hread' hslot (getElem?_append_cons_self _ _ _))

theorem record (hnames : (fields.flatMap Field.names).Nodup) (name : String) :
    TakesNull (.record fields []) (r.record name) where
  nullable := hr.record_nullable (by rwa [List.append_nil]) name
  filled := hr.record_filled hnames name

end

end Laid

end FieldReader

end Logbook
