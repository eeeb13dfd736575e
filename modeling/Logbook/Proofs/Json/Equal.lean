import Mathlib.Data.List.Forall2
import Mathlib.Data.Option.Basic
import Logbook.Proofs.Json.Canonical

/-!
# Equal values

Two values are equal when they are the same data, but that numbers are compared by their value: the
two zeros are equal. An object is taken apart by its keys: where it repeats none, equal objects have
equal values under every key (`Equal.lookup_record`).
-/

set_option autoImplicit false

namespace Logbook

namespace Json

/-- The values are equal, with numbers compared by their value. -/
inductive Equal : Json → Json → Prop where
  | null : Equal null null
  | bool (b : Bool) : Equal (bool b) (bool b)
  | int (n : Int) : Equal (int n) (int n)
  | float {x y : Finite64} (h : (Binary64.finite x).order? (.finite y) = some .eq) :
    Equal (float x) (float y)
  | string (s : String) : Equal (string s) (string s)
  | array {items items' : List Json} (h : List.Forall₂ Equal items items') :
    Equal (array items) (array items')
  | object {fields fields' : List (String × Json)}
    (keys : fields.map Prod.fst = fields'.map Prod.fst)
    (values : List.Forall₂ Equal (fields.map Prod.snd) (fields'.map Prod.snd)) :
    Equal (object fields) (object fields')

mutual

/-- The same data is equal. -/
theorem Equal.refl : ∀ value : Json, Equal value value
  | .null => .null
  | .bool b => .bool b
  | .int n => .int n
  | .float _ => .float (congrArg some Std.ReflCmp.compare_self)
  | .string s => .string s
  | .array items => .array (forall₂_equal_items items)
  | .object fields => .object rfl (forall₂_equal_fields fields)

theorem forall₂_equal_items : ∀ items : List Json, List.Forall₂ Equal items items
  | [] => .nil
  | item :: items => .cons (Equal.refl item) (forall₂_equal_items items)

theorem forall₂_equal_fields : ∀ fields : List (String × Json),
    List.Forall₂ Equal (fields.map Prod.snd) (fields.map Prod.snd)
  | [] => .nil
  | (_, value) :: fields => .cons (Equal.refl value) (forall₂_equal_fields fields)

end

namespace Equal

theorem of_int {m n : Int} (h : Equal (.int m) (.int n)) : m = n := by
  cases h
  rfl

theorem of_string {s t : String} (h : Equal (.string s) (.string t)) : s = t := by
  cases h
  rfl

/-- Numbers are written so that they are equal only where their values are. -/
theorem order?_of_ofBinary64 {x y : Binary64} (hx : x.isFinite) (hy : y.isFinite)
    (h : Equal (ofBinary64 x) (ofBinary64 y)) : x.order? y = some .eq := by
  cases x with
  | finite x =>
    cases y with
    | finite y =>
      cases h with
      | float h => exact h
    | nan | infinite => cases hy
  | nan | infinite => cases hx

/-- Lists are related item by item where equal items are. -/
theorem forall₂_of_ofList {α : Type} {write : α → Json} {R : α → α → Prop} {as bs : List α}
    (hwrite : ∀ a ∈ as, ∀ b ∈ bs, Equal (write a) (write b) → R a b)
    (h : Equal (ofList write as) (ofList write bs)) : List.Forall₂ R as bs := by
  cases h with
  | array h =>
    rw [List.forall₂_map_left_iff, List.forall₂_map_right_iff, List.forall₂_iff_zip] at h
    refine List.forall₂_iff_zip.2 ⟨h.1, fun {a b} hzip => ?_⟩
    obtain ⟨ha, hb⟩ := List.of_mem_zip hzip
    exact hwrite a ha b hb (h.2 hzip)

theorem eq_of_ofList {α : Type} {write : α → Json} {as bs : List α}
    (hwrite : ∀ a b, Equal (write a) (write b) → a = b)
    (h : Equal (ofList write as) (ofList write bs)) : as = bs := by
  have hsame := h.forall₂_of_ofList fun a _ b _ => hwrite a b
  rwa [List.forall₂_eq_eq_eq] at hsame

theorem of_single {key key' : String} {value value' : Json}
    (h : Equal (single key value) (single key' value')) : key = key' ∧ Equal value value' := by
  cases h with
  | object keys values =>
    cases values with
    | cons h _ => exact ⟨List.cons.inj keys |>.1, h⟩

theorem rel_of_rel_map {α : Type} {write : α → Json} {R : α → α → Prop} {o o' : Option α}
    (hwrite : ∀ a ∈ o, ∀ b ∈ o', Equal (write a) (write b) → R a b)
    (h : Option.Rel Equal (o.map write) (o'.map write)) : Option.Rel R o o' := by
  cases o with
  | none =>
    cases o' with
    | none => exact .none
    | some b => cases h
  | some a =>
    cases o' with
    | none => cases h
    | some b =>
      cases h with
      | some h => exact .some (hwrite a rfl b rfl h)

theorem eq_of_rel_map {α : Type} {write : α → Json} {o o' : Option α}
    (hwrite : ∀ a b, Equal (write a) (write b) → a = b)
    (h : Option.Rel Equal (o.map write) (o'.map write)) : o = o' := by
  have hrel := rel_of_rel_map (fun a _ b _ => hwrite a b) h
  cases hrel with
  | none => rfl
  | some hsame => rw [hsame]

theorem lookup_of_forall₂ {key : String} : ∀ {fields fields' : List (String × Json)},
    fields.map Prod.fst = fields'.map Prod.fst →
      List.Forall₂ Equal (fields.map Prod.snd) (fields'.map Prod.snd) →
        Option.Rel Equal (fields.lookup key) (fields'.lookup key)
  | [], [], _, _ => .none
  | field :: fields, field' :: fields', hkeys, hvalues => by
    obtain ⟨hkey, hkeys⟩ := List.cons.inj hkeys
    cases hvalues with
    | cons hvalue hvalues =>
      rw [Keyed.lookup_cons, Keyed.lookup_cons, ← hkey]
      split
      · exact .some hvalue
      · exact lookup_of_forall₂ hkeys hvalues

/-- Under every key of equal records there are equal values. -/
theorem lookup_record {fields fields' : List (String × Json)}
    (hkeys : (fields.map Prod.fst).Nodup) (hkeys' : (fields'.map Prod.fst).Nodup)
    (h : Equal (record fields) (record fields')) (key : String) :
    Option.Rel Equal (fields.lookup key) (fields'.lookup key) := by
  cases h with
  | object keys values =>
    rw [← lookup_orderFields hkeys, ← lookup_orderFields hkeys']
    exact lookup_of_forall₂ keys values

end Equal

end Json

end Logbook
