import Mathlib.Data.List.Find
import Logbook.Proofs.Json.Fields
import Logbook.Proofs.Json.Written

/-!
# Records by their schemas

A schema lists the fields of a record in the order of their declaration: the name of each, the form
of its values, what its absence stands for, and the part of the record that it fills.

* `Form.IsReadBy`: a reader takes the values of a form for what they mean, and any other value has
  the fault that the form says.
* `Reported`: the one fault that a schema finds in an object. Values that are not of their form come
  first, the one of the least key among them; then the first field that is missing.
* `Follows.readFields_eq_error_iff`: a reader of fields that follows a schema reports that fault and
  no other. What the schema does not know plays no part (`Follows.readFields_congr`).
-/

set_option autoImplicit false

namespace Logbook

open Fallible (fault? fault?_eq_some_iff bind_eq_error_iff)

/-! ## Forms of values -/

/-- A form of values: what its values mean, and what is wrong with a value of another form. -/
structure Form (α : Type) where
  Means : Json → α → Prop
  fault : Json → Fault

namespace Form

variable {α : Type}

/-- The value is of the form. -/
def Fits (form : Form α) (value : Json) : Prop := ∃ a, form.Means value a

/-- Texts. -/
def text : Form String where
  Means value s := value = .string s
  fault value := .mistyped value "a string"

/-- Integers that are words of a kind. -/
def word (toInt : α → Int) (kind : String) : Form α where
  Means value a := value = .int (toInt a)
  fault
    | .int n => .outOfRange n kind
    | value => .mistyped value kind

def int64 : Form Int64 := word Int64.toInt "i64"

def uint64 : Form UInt64 := word (fun n => n.toNat) "u64"

def uint16 : Form UInt16 := word (fun n => n.toNat) "u16"

/-- Values of a form, or `null`, which means nothing. -/
def orNull (form : Form α) : Form (Option α) where
  Means value o := match o with
    | none => value = .null
    | some a => value ≠ .null ∧ form.Means value a
  fault := form.fault

/-- The reader takes values of the form for what they mean and tells what is wrong with others. -/
structure IsReadBy (form : Form α) (read : Reader α) : Prop where
  ok : ∀ {value a}, read value = .ok a ↔ form.Means value a
  error : ∀ {value fault}, read value = .error fault → fault = form.fault value

namespace IsReadBy

variable {form : Form α} {read : Reader α} {value : Json}

theorem check_of_fits (h : form.IsReadBy read) (hfits : form.Fits value) :
    (read value).map (fun _ => ()) = .ok () := by
  obtain ⟨a, ha⟩ := hfits
  rw [h.ok.2 ha]
  rfl

theorem check_of_not_fits (h : form.IsReadBy read) (hfits : ¬form.Fits value) :
    (read value).map (fun _ => ()) = .error (form.fault value) := by
  cases hread : read value with
  | ok a => exact absurd ⟨a, h.ok.1 hread⟩ hfits
  | error fault =>
    rw [h.error hread]
    rfl

theorem text : Form.text.IsReadBy Reader.string where
  ok {value a} := by cases value <;> simp [Reader.string, Form.text]
  error {value fault} h := by
    cases value with
    | string s => cases h
    | null | bool | int | float | array | object =>
      cases h
      rfl

theorem word {toInt : α → Int} {ofInt : Int → α} {kind : String} (low high : Int)
    (hrange : ∀ a, low ≤ toInt a ∧ toInt a < high) (hofInt : ∀ a, ofInt (toInt a) = a)
    (htoInt : ∀ n, low ≤ n → n < high → toInt (ofInt n) = n) :
    (Form.word toInt kind).IsReadBy fun value =>
      (Reader.integer low high kind value).map ofInt where
  ok {value a} := by
    rw [Fallible.map_eq_ok_iff]
    constructor
    · rintro ⟨n, hn, rfl⟩
      unfold Reader.integer at hn
      split at hn
      · split at hn
        · rename_i hbounds
          cases hn
          exact congrArg Json.int (htoInt n hbounds.1 hbounds.2).symm
        · cases hn
      · cases hn
    · intro h
      cases (h : value = .int (toInt a))
      exact ⟨toInt a, Reader.integer_int kind (hrange a).1 (hrange a).2, hofInt a⟩
  error {value fault} h := by
    cases value with
    | int n =>
      unfold Reader.integer at h
      dsimp only at h
      split at h
      · cases h
      · cases h
        rfl
    | null | bool | string | float | array | object =>
      cases h
      rfl

theorem int64 : Form.int64.IsReadBy Reader.int64 :=
  word (-2 ^ 63) (2 ^ 63) (fun n => ⟨n.le_toInt, n.toInt_lt⟩) Int64.ofInt_toInt fun _ =>
    Int64.toInt_ofInt_of_le

theorem uint64 : Form.uint64.IsReadBy Reader.uint64 := by
  refine word 0 (2 ^ 64) (fun n => ?_) (fun n => ?_) fun n hlow hhigh => ?_
  · have hn := n.toNat_lt
    omega
  · simp
  · have hsmall : n.toNat < 2 ^ 64 := by omega
    rw [UInt64.toNat_ofNat_of_lt' hsmall, Int.toNat_of_nonneg hlow]

theorem uint16 : Form.uint16.IsReadBy Reader.uint16 := by
  refine word 0 (2 ^ 16) (fun n => ?_) (fun n => ?_) fun n hlow hhigh => ?_
  · have hn := n.toNat_lt
    omega
  · simp
  · have hsmall : n.toNat < 2 ^ 16 := by omega
    rw [UInt16.toNat_ofNat_of_lt' hsmall, Int.toNat_of_nonneg hlow]

theorem orNull (h : form.IsReadBy read) : form.orNull.IsReadBy (Reader.optional read) where
  ok {value o} := by
    by_cases hnull : value = .null
    · subst hnull
      cases o <;> simp [Reader.optional, Form.orNull]
    · have hread : Reader.optional read value = (read value).map some := by
        cases value <;> first | rfl | exact absurd rfl hnull
      rw [hread, Fallible.map_eq_ok_iff]
      cases o with
      | none => simp [Form.orNull, hnull]
      | some a => simp [Form.orNull, hnull, h.ok]
  error {value fault} hfault := by
    unfold Reader.optional at hfault
    split at hfault
    · cases hfault
    · cases hread : read value with
      | ok a =>
        rw [hread] at hfault
        cases hfault
      | error fault' =>
        rw [hread] at hfault
        cases hfault
        exact h.error hread

end IsReadBy

end Form

/-! ## Schemas -/

/-- One field of a record of type `ρ`. -/
structure Entry (ρ : Type) where
  name : String
  {Value : Type}
  form : Form Value
  /-- What the absence of the field stands for, where it may be absent. -/
  absent : Option Value
  /-- What of the record the field fills. -/
  part : ρ → Value

namespace Entry

variable {ρ α : Type}

/-- A field that has to be there. -/
def required (name : String) (form : Form α) (part : ρ → α) : Entry ρ := ⟨name, form, none, part⟩

/-- A field that may be absent or `null`. -/
def optional (name : String) (form : Form α) (part : ρ → Option α) : Entry ρ :=
  ⟨name, form.orNull, some none, part⟩

/-- The record has what an object says under the name of the field. -/
def Carries (entry : Entry ρ) (source : Keyed Json) (record : ρ) : Prop :=
  match source.find? entry.name with
  | some value => entry.form.Means value (entry.part record)
  | none => entry.absent = some (entry.part record)

/-- What stands under the name of the field in an object is of its form, and so is nothing where the
field may be absent. -/
def Allows (entry : Entry ρ) (source : Keyed Json) : Prop :=
  match source.find? entry.name with
  | some value => entry.form.Fits value
  | none => entry.absent.isSome

/-- What stands under the name of the field in an object is not of its form. -/
def Misfits (entry : Entry ρ) (source : Keyed Json) (value : Json) : Prop :=
  source.find? entry.name = some value ∧ ¬entry.form.Fits value

/-- The field has to be there and is not. -/
def isMissing (entry : Entry ρ) (source : Keyed Json) : Bool :=
  entry.absent.isNone && (source.find? entry.name).isNone

theorem find?_name_eq_some_iff {schema : List (Entry ρ)} (h : (schema.map Entry.name).Nodup)
    {key : String} {entry : Entry ρ} :
    schema.find? (·.name == key) = some entry ↔ entry ∈ schema ∧ entry.name = key := by
  constructor
  · intro hfind
    exact ⟨List.mem_of_find?_eq_some hfind, beq_iff_eq.1 (List.find?_some hfind :)⟩
  · rintro ⟨hmem, rfl⟩
    have hsome : (schema.find? (·.name == entry.name)).isSome :=
      List.find?_isSome.2 ⟨entry, hmem, beq_self_eq_true entry.name⟩
    obtain ⟨other, hother⟩ := Option.isSome_iff_exists.1 hsome
    have hname : other.name = entry.name := beq_iff_eq.1 (List.find?_some hother :)
    rw [hother, List.inj_on_of_nodup_map h (List.mem_of_find?_eq_some hother) hmem hname]

section
variable {entry : Entry ρ} {source source' : Keyed Json}

theorem allows_iff : entry.Allows source ↔
    (∀ value, ¬entry.Misfits source value) ∧ entry.isMissing source = false := by
  unfold Allows Misfits isMissing
  cases source.find? entry.name with
  | none => cases entry.absent <;> simp
  | some value => simp

variable (h : source.find? entry.name = source'.find? entry.name)
include h

theorem misfits_congr (value : Json) :
    entry.Misfits source value ↔ entry.Misfits source' value := by
  rw [Misfits, Misfits, h]

theorem isMissing_congr : entry.isMissing source = entry.isMissing source' := by
  rw [isMissing, isMissing, h]

end

end Entry

/-- The fault that a schema finds in an object. -/
inductive Reported {ρ : Type} (schema : List (Entry ρ)) (source : Keyed Json) : Fault → Prop
  /-- Of the values that are not of their form the one of the least key. -/
  | misfit {entry : Entry ρ} {value : Json} (known : entry ∈ schema)
    (bad : entry.Misfits source value)
    (least : ∀ other ∈ schema, ∀ value', other.Misfits source value' → entry.name ≤ other.name) :
    Reported schema source (entry.form.fault value)
  /-- Where there is none, the first field that is missing. -/
  | missing {entry : Entry ρ} (good : ∀ other ∈ schema, ∀ value, ¬other.Misfits source value)
    (first : schema.find? (·.isMissing source) = some entry) :
    Reported schema source (.missing entry.name)

/-- The fault depends on what stands under the names of the fields. -/
theorem Reported.congr {ρ : Type} {schema : List (Entry ρ)} {source source' : Keyed Json}
    (hsame : ∀ entry ∈ schema, source.find? entry.name = source'.find? entry.name)
    {fault : Fault} (h : Reported schema source fault) : Reported schema source' fault := by
  have hmisfit (entry : Entry ρ) (hmem : entry ∈ schema) (value : Json) :=
    Entry.misfits_congr (hsame entry hmem) value
  cases h with
  | misfit known bad least =>
    exact .misfit known ((hmisfit _ known _).1 bad) fun other hother value' h =>
      least other hother value' ((hmisfit other hother value').2 h)
  | missing good first =>
    refine .missing (fun other hother value h => good other hother value
      ((hmisfit other hother value).2 h)) ?_
    rw [← first]
    exact List.find?_congr fun entry hmem => (Entry.isMissing_congr (hsame entry hmem)).symm

namespace FieldReader

variable {α β ρ : Type}

/-! ## What a record carries -/

section
variable {name : String} {read : Reader α} {form : Form α} {source : Keyed Json} {record : ρ}

theorem carries_required_iff (hread : form.IsReadBy read) {part : ρ → α} :
    (Entry.required name form part).Carries source record ↔
      (required name read).ofFields source.toList = .ok (part record) := by
  unfold Entry.Carries Keyed.find? Entry.required FieldReader.required
  rw [ofFields_slot_eq]
  cases source.toList.lookup name <;> simp [hread.ok]

theorem carries_optional_iff (hread : form.IsReadBy read) {part : ρ → Option α} :
    (Entry.optional name form part).Carries source record ↔
      (optional name read).ofFields source.toList = .ok (part record) := by
  unfold Entry.Carries Keyed.find? Entry.optional FieldReader.optional FieldReader.withDefault
  rw [ofFields_slot_eq]
  cases source.toList.lookup name <;> simp [hread.orNull.ok]

end

/-! ## Readers that follow a schema -/

/-- The slot of a field checks that its value is of the form. -/
structure Matches (slot : Slot) (entry : Entry ρ) : Prop where
  name : slot.name = entry.name
  check_of_fits : ∀ {value}, entry.form.Fits value → slot.check value = .ok ()
  check_of_not_fits : ∀ {value}, ¬entry.form.Fits value →
    slot.check value = .error (entry.form.fault value)

/-- The fields are read one by one as a schema says. -/
structure Follows (r : FieldReader α) (schema : List (Entry ρ)) : Prop where
  byName : r.ByName
  slots : List.Forall₂ Matches r.slots schema
  missing : ∀ source : Keyed Json, (∀ entry ∈ schema, ∀ value, ¬entry.Misfits source value) →
    fault? (r.ofFields source.toList) =
      (schema.find? (·.isMissing source)).map fun entry => .missing entry.name

namespace Follows

section
variable {name : String} {read : Reader α} {form : Form α}

theorem slot {absent : Except Fault α} {ended : Fault → Except Fault α} {entry : Entry ρ}
    (hname : entry.name = name)
    (hfits : ∀ {value}, entry.form.Fits value → (read value).map (fun _ => ()) = .ok ())
    (hbad : ∀ {value}, ¬entry.form.Fits value →
      (read value).map (fun _ => ()) = .error (entry.form.fault value))
    (habsent : fault? absent = if entry.absent.isNone then some (.missing name) else none) :
    (slot name [] read absent ended).Follows [entry] where
  byName := .slot name read absent ended
  slots := .cons ⟨hname.symm, hfits, hbad⟩ .nil
  missing source hgood := by
    have hmissing : (([entry].find? (·.isMissing source)).map fun entry : Entry ρ =>
        Fault.missing entry.name) =
          if entry.absent.isNone && (source.toList.lookup name).isNone then some (.missing name)
          else none := by
      rw [List.find?_singleton, Entry.isMissing, Keyed.find?, hname]
      split <;> simp [hname]
    rw [hmissing, ofFields_slot_eq]
    cases hvalue : source.toList.lookup name with
    | none => simp [habsent]
    | some value =>
      have hfit : entry.form.Fits value := by
        by_contra hnot
        exact hgood entry List.mem_cons_self value ⟨by rw [hname]; exact hvalue, hnot⟩
      have hcheck := hfits hfit
      cases hread : read value with
      | ok a => simp [hread, fault?]
      | error fault =>
        rw [hread] at hcheck
        cases hcheck

theorem required (hread : form.IsReadBy read) (part : ρ → α) :
    (required name read).Follows [Entry.required name form part] :=
  slot rfl hread.check_of_fits hread.check_of_not_fits rfl

theorem optional (hread : form.IsReadBy read) (part : ρ → Option α) :
    (optional name read).Follows [Entry.optional name form part] := by
  show (FieldReader.slot name [] (Reader.optional read) (.ok none) fun _ => .ok none).Follows _
  exact slot rfl hread.orNull.check_of_fits hread.orNull.check_of_not_fits rfl

end

theorem map {r : FieldReader α} {schema : List (Entry ρ)} (f : α → β) (hr : r.Follows schema) :
    (f <$> r).Follows schema where
  byName := hr.byName.map f
  slots := hr.slots
  missing source hgood := by
    rw [← hr.missing source hgood]
    show fault? ((r.ofFields source.toList).map f) = _
    cases r.ofFields source.toList <;> rfl

theorem seq {f : FieldReader (α → β)} {r : FieldReader α} {first second : List (Entry ρ)}
    (hf : f.Follows first) (hr : r.Follows second) : (f <*> r).Follows (first ++ second) where
  byName := hf.byName.seq hr.byName
  slots := List.rel_append hf.slots hr.slots
  missing source hgood := by
    have hfirst := hf.missing source fun entry h => hgood entry (List.mem_append_left _ h)
    have hsecond := hr.missing source fun entry h => hgood entry (List.mem_append_right _ h)
    rw [List.find?_append, Option.map_or, ← hfirst, ← hsecond]
    show fault? (do let g ← f.ofFields _; let a ← r.ofFields _; return g a) = _
    cases f.ofFields source.toList with
    | error fault => rfl
    | ok g => cases r.ofFields source.toList <;> rfl

section
variable {r : FieldReader α} {schema : List (Entry ρ)} {source source' : Keyed Json}

theorem names (hr : r.Follows schema) : r.slots.map Slot.name = schema.map Entry.name := by
  have hnames : List.Forall₂ Eq (r.slots.map Slot.name) (schema.map Entry.name) :=
    List.rel_map (fun _ _ h => h.name) hr.slots
  rwa [List.forall₂_eq_eq_eq] at hnames

/-- Under a key the record has the slot of the field that the schema has under it. -/
theorem rel_find? (hr : r.Follows schema) (key : String) :
    Option.Rel Matches (r.slots.find? (·.answersTo key)) (schema.find? (·.name == key)) := by
  have hgoal : ∀ {slots : List Slot} {entries : List (Entry ρ)},
      List.Forall₂ Matches slots entries → (∀ slot ∈ slots, slot.aliases = []) →
        Option.Rel Matches (slots.find? (·.answersTo key)) (entries.find? (·.name == key)) := by
    intro slots entries hslots haliases
    induction hslots with
    | nil => exact .none
    | @cons slot entry _ _ hfirst _ ih =>
      obtain ⟨hnone, haliases⟩ := List.forall_mem_cons.1 haliases
      have hanswers : slot.answersTo key = (entry.name == key) := by
        rw [Slot.answersTo, hnone, List.contains_nil, Bool.or_false, hfirst.name]
      rw [List.find?_cons, List.find?_cons, hanswers]
      cases entry.name == key with
      | true => exact .some hfirst
      | false => exact ih haliases
  exact hgoal hr.slots hr.byName.aliases

variable (hr : r.Follows schema) (hnames : (schema.map Entry.name).Nodup)
include hr hnames

/-- What is wrong with the value of one field, if the record knows that. -/
theorem fault?_check_eq_some_iff {key : String} {value : Json} {fault : Fault} :
    ((r.slots.find? (·.answersTo key)).bind fun slot => fault? (slot.check value)) = some fault ↔
      ∃ entry ∈ schema, entry.name = key ∧ ¬entry.form.Fits value ∧
        entry.form.fault value = fault := by
  have hrel := hr.rel_find? key
  generalize r.slots.find? (·.answersTo key) = slot? at hrel
  cases hentry : schema.find? (·.name == key) with
  | none =>
    rw [hentry] at hrel
    cases hrel
    refine ⟨nofun, ?_⟩
    rintro ⟨entry, hmem, hname, -⟩
    exact absurd (beq_iff_eq.2 hname) (List.find?_eq_none.1 hentry entry hmem)
  | some entry =>
    rw [hentry] at hrel
    obtain ⟨hmem, hname⟩ := (Entry.find?_name_eq_some_iff hnames).1 hentry
    cases hrel with
    | @some slot _ hmatches =>
      rw [Option.bind_some]
      by_cases hfits : entry.form.Fits value
      · rw [hmatches.check_of_fits hfits]
        refine ⟨nofun, ?_⟩
        rintro ⟨other, hother, hsame, hbad, -⟩
        rw [List.inj_on_of_nodup_map hnames hother hmem (hsame.trans hname.symm)] at hbad
        exact absurd hfits hbad
      · rw [hmatches.check_of_not_fits hfits, fault?, Option.some.injEq]
        constructor
        · rintro rfl
          exact ⟨entry, hmem, hname, hfits, rfl⟩
        · rintro ⟨other, hother, hsame, -, rfl⟩
          rw [List.inj_on_of_nodup_map hnames hother hmem (hsame.trans hname.symm)]

/-- The visit of an object meets the value of least key that is not of its form. -/
theorem visit_eq_error_iff {fault : Fault} : visit r.slots [] source.toList = .error fault ↔
    ∃ entry ∈ schema, ∃ value, entry.Misfits source value ∧ entry.form.fault value = fault ∧
      ∀ other ∈ schema, ∀ value', other.Misfits source value' → entry.name ≤ other.name := by
  have hknown := source.nodup_keys.sublist (hr.byName.knownNames_sublist source.toList)
  rw [← fault?_eq_some_iff, fault?_visit hknown fun _ _ => List.not_mem_nil,
    List.findSome?_eq_some_iff]
  constructor
  · rintro ⟨before, ⟨key, value⟩, after, hsplit, hfault, hbefore⟩
    obtain ⟨entry, hmem, rfl, hbad, hsame⟩ := (hr.fault?_check_eq_some_iff hnames).1 hfault
    have hfound : source.find? entry.name = some value := by
      rw [← Keyed.mem_toList_iff, hsplit]
      simp
    refine ⟨entry, hmem, value, ⟨hfound, hbad⟩, hsame, fun other hother value' hmisfit => ?_⟩
    refine String.not_lt.1 fun hlt => ?_
    have hnone := hbefore _
      ((Keyed.mem_before_iff hsplit).2 ⟨Keyed.mem_toList_iff.2 hmisfit.1, hlt⟩)
    rw [(hr.fault?_check_eq_some_iff hnames).2 ⟨other, hother, rfl, hmisfit.2, rfl⟩] at hnone
    cases hnone
  · rintro ⟨entry, hmem, value, hmisfit, hsame, hleast⟩
    obtain ⟨before, after, hsplit⟩ :=
      List.append_of_mem (Keyed.mem_toList_iff.2 hmisfit.1)
    refine ⟨before, _, after, hsplit,
      (hr.fault?_check_eq_some_iff hnames).2 ⟨entry, hmem, rfl, hmisfit.2, hsame⟩, ?_⟩
    rintro ⟨key, value'⟩ hbefore
    obtain ⟨hplace, hlt⟩ := (Keyed.mem_before_iff hsplit).1 hbefore
    by_contra hsome
    obtain ⟨fault', hfault'⟩ := Option.ne_none_iff_exists'.1 hsome
    obtain ⟨other, hother, rfl, hbad, -⟩ := (hr.fault?_check_eq_some_iff hnames).1 hfault'
    exact String.not_lt.2 (hleast other hother value' ⟨Keyed.mem_toList_iff.1 hplace, hbad⟩) hlt

theorem visit_eq_ok_iff : visit r.slots [] source.toList = .ok () ↔
    ∀ entry ∈ schema, ∀ value, ¬entry.Misfits source value := by
  constructor
  · intro hvisit entry hmem value hmisfit
    have hknown := (FieldReader.visit_eq_ok_iff.1 hvisit).2.2 _
      (Keyed.mem_toList_iff.2 hmisfit.1)
    have hfault := (hr.fault?_check_eq_some_iff hnames).2 ⟨entry, hmem, rfl, hmisfit.2, rfl⟩
    obtain ⟨slot, hslot, hcheck⟩ := Option.bind_eq_some_iff.1 hfault
    rw [hknown slot hslot] at hcheck
    cases hcheck
  · intro hgood
    cases hvisit : visit r.slots [] source.toList with
    | ok checked => rfl
    | error fault =>
      obtain ⟨entry, hmem, value, hmisfit, -⟩ := (hr.visit_eq_error_iff hnames).1 hvisit
      exact absurd hmisfit (hgood entry hmem value)

/-- **A record that follows a schema is reported with the fault that the schema finds.** -/
theorem readFields_eq_error_iff {fault : Fault} :
    r.readFields source.toList = .error fault ↔ Reported schema source fault := by
  unfold readFields
  rw [bind_eq_error_iff, hr.visit_eq_error_iff hnames]
  constructor
  · rintro (⟨entry, hmem, value, hmisfit, rfl, hleast⟩ | ⟨⟨⟩, hvisit, hfields⟩)
    · exact .misfit hmem hmisfit hleast
    · have hgood := (hr.visit_eq_ok_iff hnames).1 hvisit
      have hmissing := hr.missing source hgood
      rw [hfields, fault?, eq_comm, Option.map_eq_some_iff] at hmissing
      obtain ⟨entry, hfirst, rfl⟩ := hmissing
      exact .missing hgood hfirst
  · rintro (⟨hmem, hmisfit, hleast⟩ | ⟨hgood, hfirst⟩)
    · exact .inl ⟨_, hmem, _, hmisfit, rfl, hleast⟩
    · refine .inr ⟨(), (hr.visit_eq_ok_iff hnames).2 hgood, ?_⟩
      rw [← fault?_eq_some_iff, hr.missing source hgood, hfirst, Option.map_some]

/-- An object is read where its fields are as the schema allows. -/
theorem exists_readFields_iff :
    (∃ a, r.readFields source.toList = .ok a) ↔ ∀ entry ∈ schema, entry.Allows source := by
  simp only [Entry.allows_iff]
  constructor
  · rintro ⟨a, ha⟩ entry hmem
    obtain ⟨⟨⟩, hvisit, hfields⟩ := Fallible.bind_eq_ok_iff.1 ha
    have hgood := (hr.visit_eq_ok_iff hnames).1 hvisit
    have hmissing := hr.missing source hgood
    rw [hfields, fault?, eq_comm, Option.map_eq_none_iff, List.find?_eq_none] at hmissing
    exact ⟨hgood entry hmem, Bool.eq_false_iff.2 (hmissing entry hmem)⟩
  · intro hallows
    have hgood (entry : Entry ρ) (hmem : entry ∈ schema) := (hallows entry hmem).1
    cases hread : r.readFields source.toList with
    | ok a => exact ⟨a, rfl⟩
    | error fault =>
      cases (hr.readFields_eq_error_iff hnames).1 hread with
      | misfit known bad least => exact absurd bad (hgood _ known _)
      | missing good first =>
        have hmissing := List.find?_some first
        rw [(hallows _ (List.mem_of_find?_eq_some first)).2] at hmissing
        cases hmissing

/-- What the schema does not know plays no part. -/
theorem readFields_congr
    (hsame : ∀ entry ∈ schema, source.find? entry.name = source'.find? entry.name) :
    r.readFields source.toList = r.readFields source'.toList := by
  have hfields : r.ofFields source.toList = r.ofFields source'.toList := by
    refine hr.byName.congr fun slot hslot => ?_
    have hname : slot.name ∈ r.slots.map Slot.name := List.mem_map_of_mem hslot
    rw [hr.names] at hname
    obtain ⟨entry, hmem, hentry⟩ := List.mem_map.1 hname
    rw [← hentry]
    exact hsame entry hmem
  cases hread : r.readFields source.toList with
  | ok a =>
    rw [readFields_eq_ok_iff hr.byName source.nodup_keys, hfields,
      ← readFields_eq_ok_iff hr.byName source'.nodup_keys] at hread
    exact hread.symm
  | error fault =>
    have hreported := (hr.readFields_eq_error_iff hnames).1 hread
    exact ((hr.readFields_eq_error_iff hnames).2 (hreported.congr hsame)).symm

end

end Follows

end FieldReader

end Logbook
