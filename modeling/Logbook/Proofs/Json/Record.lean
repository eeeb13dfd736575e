import Logbook.Json.Reader
import Logbook.Proofs.Fallible

/-!
# Reading the fields of a record

The fields of an object are visited before any of them is taken. `visit_eq_ok_iff`: nothing is
reported where no field that the record knows stands twice and each has a good value. Where none
stands twice, the first bad value is what is reported (`fault?_visit`). A record of one field is
read as the value of that field (`readFields_slot`), or by what its absence stands for
(`readFields_slot_absent`).
-/

set_option autoImplicit false

namespace Logbook

open Fallible (fault?)

namespace FieldReader

variable {α β : Type}

/-- The names of the fields of an object that a record knows, in the order in which they stand. -/
def knownNames (slots : List Slot) (fields : List (String × Json)) : List String :=
  fields.filterMap fun field => (slots.find? (·.answersTo field.1)).map Slot.name

theorem visit_eq_ok_iff {slots : List Slot} : ∀ {fields : List (String × Json)}
    {seen : List String}, visit slots seen fields = .ok () ↔
      (knownNames slots fields).Nodup ∧ (∀ name ∈ knownNames slots fields, name ∉ seen) ∧
        ∀ field ∈ fields, ∀ slot, slots.find? (·.answersTo field.1) = some slot →
          slot.check field.2 = .ok ()
  | [], seen => by
    simp only [visit, knownNames, List.filterMap_nil, List.nodup_nil, List.not_mem_nil,
      false_implies, implies_true, and_self]
  | (key, value) :: rest, seen => by
    rw [visit]
    cases hslot : slots.find? (·.answersTo key) with
    | none =>
      have hnames : knownNames slots ((key, value) :: rest) = knownNames slots rest := by
        simp only [knownNames, List.filterMap_cons, hslot, Option.map_none]
      rw [hnames, visit_eq_ok_iff]
      simp only [List.forall_mem_cons, hslot, reduceCtorEq, false_implies, implies_true, true_and]
    | some slot =>
      have hnames : knownNames slots ((key, value) :: rest) =
          slot.name :: knownNames slots rest := by
        simp only [knownNames, List.filterMap_cons, hslot, Option.map_some]
      simp only [hnames, List.nodup_cons, List.forall_mem_cons, hslot, Option.some.injEq,
        forall_eq']
      by_cases hseen : slot.name ∈ seen
      · rw [if_pos (List.contains_iff_mem.2 hseen)]
        exact ⟨fun h => (by cases h), fun h => absurd hseen h.2.1.1⟩
      · rw [if_neg (mt List.contains_iff_mem.1 hseen), Fallible.bind_eq_ok_iff]
        constructor
        · rintro ⟨⟨⟩, hcheck, hrest⟩
          obtain ⟨hnodup, hnew, hchecks⟩ := visit_eq_ok_iff.1 hrest
          simp only [List.mem_cons, not_or] at hnew
          exact ⟨⟨fun hmem => (hnew _ hmem).1 rfl, hnodup⟩,
            ⟨hseen, fun name hname => (hnew name hname).2⟩, hcheck, hchecks⟩
        · rintro ⟨⟨hfirst, hnodup⟩, ⟨-, hnew⟩, hcheck, hchecks⟩
          refine ⟨(), hcheck, visit_eq_ok_iff.2 ⟨hnodup, fun name hname => ?_, hchecks⟩⟩
          rw [List.mem_cons, not_or]
          exact ⟨fun heq => hfirst (heq ▸ hname), hnew name hname⟩

/-- Where no known field is repeated, the first fault of a value is what the visit meets. -/
theorem fault?_visit {slots : List Slot} : ∀ {fields : List (String × Json)} {seen : List String},
    (knownNames slots fields).Nodup → (∀ name ∈ knownNames slots fields, name ∉ seen) →
      fault? (visit slots seen fields) = fields.findSome? fun field =>
        (slots.find? (·.answersTo field.1)).bind fun slot => fault? (slot.check field.2)
  | [], _, _, _ => rfl
  | (key, value) :: rest, seen, hnodup, hnew => by
    rw [visit, List.findSome?_cons]
    cases hslot : slots.find? (·.answersTo key) with
    | none =>
      have hnames : knownNames slots ((key, value) :: rest) = knownNames slots rest := by
        simp only [knownNames, List.filterMap_cons, hslot, Option.map_none]
      rw [hnames] at hnodup hnew
      exact fault?_visit hnodup hnew
    | some slot =>
      have hnames : knownNames slots ((key, value) :: rest) =
          slot.name :: knownNames slots rest := by
        simp only [knownNames, List.filterMap_cons, hslot, Option.map_some]
      rw [hnames] at hnodup hnew
      obtain ⟨hfirst, hnodup⟩ := List.nodup_cons.1 hnodup
      obtain ⟨hseen, hnew⟩ := List.forall_mem_cons.1 hnew
      simp only [List.contains_iff_mem, hseen, if_false, Option.bind_some]
      cases hcheck : slot.check value with
      | error fault => rfl
      | ok checked =>
        refine fault?_visit hnodup fun name hname => ?_
        rw [List.mem_cons, not_or]
        exact ⟨fun heq => hfirst (heq ▸ hname), hnew name hname⟩

/-! ## One field among others -/

section
variable {slots : List Slot} {before after rest rest' : List (String × Json)} {key : String}
  {value value' : Json}

theorem visit_append_congr (h : ∀ seen, visit slots seen rest = visit slots seen rest') :
    ∀ (before : List (String × Json)) (seen : List String),
      visit slots seen (before ++ rest) = visit slots seen (before ++ rest')
  | [], seen => h seen
  | (key, value) :: before, seen => by
    rw [List.cons_append, List.cons_append, visit, visit]
    simp only [visit_append_congr h before]

/-- A field that a record does not know is not visited. -/
theorem visit_append_cons_of_unknown (h : slots.find? (·.answersTo key) = none)
    (seen : List String) :
    visit slots seen (before ++ (key, value) :: after) = visit slots seen (before ++ after) := by
  refine visit_append_congr (fun seen => ?_) before seen
  rw [visit, h]

/-- Of the value of a field the visit sees what the check of its slot says of it. -/
theorem visit_append_cons_congr
    (h : ∀ slot, slots.find? (·.answersTo key) = some slot → slot.check value = slot.check value')
    (seen : List String) : visit slots seen (before ++ (key, value) :: after) =
      visit slots seen (before ++ (key, value') :: after) := by
  refine visit_append_congr (fun seen => ?_) before seen
  rw [visit, visit]
  cases hslot : slots.find? (·.answersTo key) with
  | none => rfl
  | some slot => simp only [h slot hslot]

end

/-! ## Records of one field -/

section
variable {name : String} {read : Reader α} {absent : Except Fault α}
  {ended : Fault → Except Fault α} {fields : List (String × Json)}

theorem find?_slots_slot (key : String) :
    (slot name [] read absent ended).slots.find? (·.answersTo key) =
      if key = name then some ⟨name, [], fun value => (read value).map fun _ => ()⟩ else none := by
  by_cases hkey : key = name
  · subst hkey
    simp only [slot, Slot.answersTo, List.find?_cons, beq_self_eq_true, Bool.true_or, if_true]
  · simp only [slot, Slot.answersTo, List.find?_cons, beq_eq_false_iff_ne.2 (Ne.symm hkey),
      List.contains_nil, Bool.or_self, List.find?_nil, hkey, if_false]

theorem knownNames_slot : knownNames (slot name [] read absent ended).slots fields =
    (fields.filter fun field => field.1 == name).map Prod.fst := by
  unfold knownNames
  simp only [find?_slots_slot]
  induction fields with
  | nil => rfl
  | cons field rest ih =>
    rw [List.filterMap_cons, List.filter_cons, ih]
    by_cases hkey : field.1 = name
    · subst hkey
      rw [if_pos rfl, Option.map_some, if_pos (beq_self_eq_true _), List.map_cons]
    · rw [if_neg hkey, Option.map_none, if_neg (by rwa [beq_iff_eq])]

theorem ofFields_slot : (slot name [] read absent ended).ofFields fields =
    match fields.find? fun field => field.1 == name with
    | some field => read field.2
    | none => absent := by
  have hanswers : (fun field : String × Json => Slot.answersTo
      ⟨name, [], fun value => (read value).map fun _ => ()⟩ field.1) =
        fun field => field.1 == name := by
    funext field
    rw [Slot.answersTo, List.contains_nil, Bool.or_false, Bool.beq_comm]
  simp only [slot, valueOf, hanswers]
  cases fields.find? fun field => field.1 == name <;> rfl

/-- The object is read as the value of the field, where that stands once. -/
theorem readFields_slot {value : Json} {a : α}
    (hfield : (fields.filter fun field => field.1 == name) = [(name, value)])
    (hread : read value = .ok a) :
    (slot name [] read absent ended).readFields fields = .ok a := by
  have hvisit : visit (slot name [] read absent ended).slots [] fields = .ok () := by
    rw [visit_eq_ok_iff, knownNames_slot, hfield]
    refine ⟨List.pairwise_singleton _ _, fun _ _ => List.not_mem_nil, fun field hmem s hs => ?_⟩
    rw [find?_slots_slot, Option.ite_none_right_eq_some, Option.some.injEq] at hs
    obtain ⟨hkey, rfl⟩ := hs
    have honly : field ∈ [(name, value)] := by
      rw [← hfield, List.mem_filter]
      exact ⟨hmem, beq_iff_eq.2 hkey⟩
    rw [List.mem_singleton.1 honly]
    show (read value).map (fun _ => ()) = .ok ()
    rw [hread]
    rfl
  have hfind : (fields.find? fun field => field.1 == name) = some (name, value) := by
    rw [← List.head?_filter, hfield, List.head?_cons]
  exact Fallible.bind_eq_ok_iff.2 ⟨(), hvisit, by rw [ofFields_slot, hfind, ← hread]⟩

/-- Where the field is absent, the object is read as what its absence stands for. -/
theorem readFields_slot_absent (hfield : ∀ field ∈ fields, field.1 ≠ name) :
    (slot name [] read absent ended).readFields fields = absent := by
  have hnone : (fields.filter fun field => field.1 == name) = [] := by
    rw [List.filter_eq_nil_iff]
    exact fun field hmem => by rw [beq_iff_eq]; exact hfield field hmem
  have hvisit : visit (slot name [] read absent ended).slots [] fields = .ok () := by
    rw [visit_eq_ok_iff, knownNames_slot, hnone]
    refine ⟨List.nodup_nil, fun _ h => absurd h List.not_mem_nil, fun field hmem s hs => ?_⟩
    rw [find?_slots_slot, if_neg (hfield field hmem)] at hs
    cases hs
  have hfind : (fields.find? fun field => field.1 == name) = none := by
    rw [← List.head?_filter, hnone, List.head?_nil]
  unfold readFields
  rw [hvisit, ofFields_slot, hfind]
  rfl

/-- A record of one field is read where the field stands once and its value is read, and where the
field is absent and its absence stands for something. -/
theorem readFields_slot_eq_ok_iff {a : α} :
    (slot name [] read absent ended).readFields fields = .ok a ↔
      (∃ value, (fields.filter fun field => field.1 == name) = [(name, value)] ∧
        read value = .ok a) ∨ (∀ field ∈ fields, field.1 ≠ name) ∧ absent = .ok a := by
  constructor
  · intro h
    obtain ⟨⟨⟩, hvisit, hread⟩ := Fallible.bind_eq_ok_iff.1 h
    rw [visit_eq_ok_iff, knownNames_slot] at hvisit
    rw [ofFields_slot, ← List.head?_filter] at hread
    have hnames : ∀ field ∈ fields.filter fun field => field.1 == name, field.1 = name :=
      fun field hmem => beq_iff_eq.1 (List.mem_filter.1 hmem).2
    cases hfilter : fields.filter fun field => field.1 == name with
    | nil =>
      rw [hfilter] at hread
      refine .inr ⟨fun field hmem => ?_, hread⟩
      simpa using List.filter_eq_nil_iff.1 hfilter field hmem
    | cons field rest =>
      rw [hfilter] at hread hvisit hnames
      cases rest with
      | nil =>
        obtain ⟨hname, -⟩ := List.forall_mem_cons.1 hnames
        exact .inl ⟨field.2, by rw [← hname], hread⟩
      | cons field' rest =>
        obtain ⟨hname, hname', -⟩ := by
          simpa only [List.forall_mem_cons] using hnames
        exact absurd (hname.trans hname'.symm) (List.rel_of_pairwise_cons hvisit.1 (by simp))
  · rintro (⟨value, hfield, hread⟩ | ⟨hnone, habsent⟩)
    · exact readFields_slot hfield hread
    · rw [readFields_slot_absent hnone, habsent]

end

/-- A record changed by a function is read as before and then changed. -/
theorem readFields_map {f : α → β} {r : FieldReader α} {fields : List (String × Json)} :
    (f <$> r).readFields fields = (r.readFields fields).map f := by
  change (visit r.slots [] fields >>= fun _ => (r.ofFields fields).map f) =
    (visit r.slots [] fields >>= fun _ => r.ofFields fields).map f
  cases visit r.slots [] fields <;> rfl

end FieldReader

end Logbook
