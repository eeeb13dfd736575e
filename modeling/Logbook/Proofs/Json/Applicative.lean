import Mathlib.Control.Basic
import Logbook.Proofs.Json.Record

/-!
# Readers of fields as an applicative functor

Readers of fields are put together with `<$>` and `<*>`. `LawfulApplicative` says that only the
order of the fields counts, not how they are grouped; so what is made of a record may be made of its
fields (`map_withDefault`), and a record changed by a function is read as before and then changed
(`record_map`).
-/

set_option autoImplicit false

namespace Logbook

namespace FieldReader

attribute [ext] FieldReader

variable {α β : Type}

section
variable (g : α → β) (f : FieldReader (α → β)) (r : FieldReader α) (a : α)
  (fields : List (String × Json)) (short : Nat → Fault) (place : Nat) (items : List Json)

@[simp]
theorem slots_map : (g <$> r).slots = r.slots := rfl

@[simp]
theorem ofFields_map : (g <$> r).ofFields fields = g <$> r.ofFields fields := rfl

@[simp]
theorem ofItems_map : (g <$> r).ofItems short place items =
    (fun (a, place, items) => (g a, place, items)) <$> r.ofItems short place items := rfl

@[simp]
theorem slots_pure : (pure a : FieldReader α).slots = [] := rfl

@[simp]
theorem ofFields_pure : (pure a : FieldReader α).ofFields fields = pure a := rfl

@[simp]
theorem ofItems_pure :
    (pure a : FieldReader α).ofItems short place items = pure (a, place, items) := rfl

@[simp]
theorem slots_seq : (f <*> r).slots = f.slots ++ r.slots := rfl

@[simp]
theorem ofFields_seq :
    (f <*> r).ofFields fields = f.ofFields fields >>= fun g => g <$> r.ofFields fields := rfl

@[simp]
theorem ofItems_seq : (f <*> r).ofItems short place items = (do
    let (g, place, items) ← f.ofItems short place items
    (fun (a, place, items) => (g a, place, items)) <$> r.ofItems short place items) := rfl

end

instance : LawfulApplicative FieldReader where
  map_const := rfl
  seqLeft_eq _ _ := rfl
  seqRight_eq _ _ := rfl
  id_map r := by ext <;> simp
  comp_map g h r := by ext <;> simp [Function.comp_def]
  map_pure g a := by ext <;> simp
  pure_seq g r := by ext <;> simp
  seq_pure f a := by ext <;> simp
  seq_assoc r f g := by ext <;> simp [Function.comp_def]

/-- What is made of a field is made of its value, and of its default. -/
theorem map_withDefault (g : α → β) (name : String) (read : Reader α) (default : α) :
    g <$> withDefault name read default =
      withDefault name (fun value => (read value).map g) (g default) := by
  have hcheck (value : Json) :
      ((read value).map g).map (fun _ => ()) = (read value).map fun _ => () := by
    cases read value <;> rfl
  ext1
  · simp only [slots_map, withDefault, slot, hcheck]
  · funext fields
    simp only [ofFields_map, withDefault, slot, hcheck]
    cases valueOf _ fields <;> rfl
  · funext short place items
    cases items with
    | nil => rfl
    | cons item rest =>
      show (_ : α × Nat × List Json → _) <$> (read item).map _ = ((read item).map g).map _
      cases read item <;> rfl

theorem readItems_map (g : α → β) (r : FieldReader α) (name : String) (items : List Json) :
    (g <$> r).readItems name items = (r.readItems name items).map g := by
  unfold readItems
  rw [ofItems_map]
  show (_ <$> r.ofItems (fun place => .tooShort place (r.shape name)) 0 items >>= _) = _
  cases r.ofItems (fun place => .tooShort place (r.shape name)) 0 items with
  | error fault => rfl
  | ok outcome =>
    show (if outcome.2.2.isEmpty then _ else _) =
      Except.map g (if outcome.2.2.isEmpty then _ else _)
    split <;> rfl

/-- A record changed by a function is read as before and then changed. -/
theorem record_map (g : α → β) (r : FieldReader α) (name : String) (value : Json) :
    (g <$> r).record name value = (r.record name value).map g := by
  cases value with
  | object fields => exact readFields_map
  | array items => exact readItems_map g r name items
  | null | bool | int | float | string => rfl

end FieldReader

end Logbook
