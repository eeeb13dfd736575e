import Logbook.Proofs.Json.Fields

/-!
# Records by the places of their fields

Written as an array, a record takes one item for each of its fields and looks at none behind them
(`ByPlace`). That is kept by the ways in which readers are put together.
-/

set_option autoImplicit false

namespace Logbook

namespace FieldReader

variable {α β : Type}

/-- From an array a record takes an item for each of its fields; what follows plays no part. -/
structure ByPlace (r : FieldReader α) : Prop where
  ofItems_append : ∀ (short : Nat → Fault) (place : Nat) (items : List Json),
    items.length = r.slots.length → ∃ outcome : Except Fault α, ∀ rest,
      r.ofItems short place (items ++ rest) =
        outcome.map fun a => (a, place + items.length, rest)
  rest_eq : ∀ {short : Nat → Fault} {place last : Nat} {items rest : List Json} {a : α},
    r.ofItems short place items = .ok (a, last, rest) → rest = items.drop r.slots.length

namespace ByPlace

theorem map (f : α → β) {r : FieldReader α} (hr : r.ByPlace) : (f <$> r).ByPlace where
  ofItems_append short place items hlength := by
    obtain ⟨outcome, h⟩ := hr.ofItems_append short place items hlength
    refine ⟨outcome.map f, fun rest => ?_⟩
    change (r.ofItems short place (items ++ rest) >>= fun x => .ok (f x.1, x.2.1, x.2.2)) = _
    rw [h rest]
    cases outcome <;> rfl
  rest_eq h := by
    obtain ⟨a, ha, -⟩ := ofItems_map_eq_ok_iff.1 h
    exact hr.rest_eq ha

theorem seq {f : FieldReader (α → β)} {r : FieldReader α} (hf : f.ByPlace) (hr : r.ByPlace) :
    (f <*> r).ByPlace where
  ofItems_append short place items hlength := by
    have hsum : items.length = f.slots.length + r.slots.length := by
      rw [hlength, ← List.length_append]
      rfl
    obtain ⟨first, second, rfl, hfirst⟩ : ∃ first second, items = first ++ second ∧
        first.length = f.slots.length :=
      ⟨items.take f.slots.length, items.drop f.slots.length, (List.take_append_drop _ _).symm,
        List.length_take_of_le (by omega)⟩
    rw [List.length_append] at hsum
    obtain ⟨read, hread⟩ := hf.ofItems_append short place first hfirst
    obtain ⟨read', hread'⟩ := hr.ofItems_append short (place + first.length) second (by omega)
    refine ⟨read.bind fun g => read'.map g, fun rest => ?_⟩
    change (f.ofItems short place (first ++ second ++ rest) >>= fun x =>
      r.ofItems short x.2.1 x.2.2 >>= fun y => .ok (x.1 y.1, y.2.1, y.2.2)) = _
    rw [List.append_assoc, hread, List.length_append, ← Nat.add_assoc]
    cases read with
    | error fault => rfl
    | ok g =>
      change (r.ofItems short (place + first.length) (second ++ rest) >>= _) = _
      rw [hread']
      cases read' <;> rfl
  rest_eq {short place last items rest b} h := by
    obtain ⟨g, a, place', items', hg, ha, -⟩ := ofItems_seq_eq_ok_iff.1 h
    rw [hr.rest_eq ha, hf.rest_eq hg, List.drop_drop, ← List.length_append]
    rfl

theorem slot (name : String) (read : Reader α) (absent : Except Fault α)
    (ended : Fault → Except Fault α) : (slot name [] read absent ended).ByPlace where
  ofItems_append short place items hlength := by
    obtain ⟨item, rfl⟩ := List.length_eq_one_iff.1 hlength
    exact ⟨read item, fun rest => rfl⟩
  rest_eq {short place last items rest a} h := by
    cases items with
    | nil =>
      obtain ⟨_, _, h⟩ := Fallible.map_eq_ok_iff.1 h
      cases h
      rfl
    | cons item items => exact (ofItems_slot_cons_eq_ok_iff.1 h).2.2

theorem required (name : String) (read : Reader α) : (required name read).ByPlace :=
  slot name read _ _

theorem withDefault (name : String) (read : Reader α) (default : α) :
    (withDefault name read default).ByPlace := slot name read _ _

theorem optional (name : String) (read : Reader α) : (optional name read).ByPlace :=
  withDefault name _ none

end ByPlace

end FieldReader

end Logbook
