import Logbook.Json.Reader
import Logbook.Proofs.Fallible

/-!
# Readers of what was written

Each simple reader gives back the value that was written; options and lists do where their values
are given back.
-/

set_option autoImplicit false

namespace Logbook

namespace Reader

variable {α : Type} {read : Reader α} {write : α → Json}

theorem string_string (s : String) : string (.string s) = .ok s := rfl

theorem integer_int {low high value : Int} (name : String) (hlow : low ≤ value)
    (hhigh : value < high) : integer low high name (.int value) = .ok value := by
  rw [integer, if_pos ⟨hlow, hhigh⟩]

theorem int64_ofInt64 (n : Int64) : int64 (.ofInt64 n) = .ok n := by
  have hhigh := n.toInt_lt
  have hlow := n.le_toInt
  rw [int64, Json.ofInt64, integer_int _ hlow hhigh]
  exact congrArg _ n.ofInt_toInt

theorem uint64_ofUInt64 (n : UInt64) : uint64 (.ofUInt64 n) = .ok n := by
  have hhigh := n.toNat_lt
  rw [uint64, Json.ofUInt64, integer_int _ (by omega) (by omega)]
  exact congrArg _ n.ofNat_toNat

/-- An integer of 64 bits is read from nothing but the way in which it is written. -/
theorem uint64_eq_ok_iff {value : Json} {n : UInt64} :
    uint64 value = .ok n ↔ value = .ofUInt64 n := by
  constructor
  · intro h
    unfold uint64 integer at h
    split at h
    · rename_i k
      split at h
      · rename_i hrange
        cases h
        have hsmall : k.toNat < 2 ^ 64 := by omega
        rw [Json.ofUInt64, UInt64.toNat_ofNat_of_lt' hsmall, Int.toNat_of_nonneg hrange.1]
      · cases h
    · cases h
  · rintro rfl
    exact uint64_ofUInt64 n

theorem uint32_int (n : UInt32) : uint32 (.int n.toNat) = .ok n := by
  have hhigh := n.toNat_lt
  rw [uint32, integer_int _ (by omega) (by omega)]
  exact congrArg _ n.ofNat_toNat

/-- Only finite numbers are written as numbers. -/
theorem binary64_ofBinary64 {x : Binary64} (h : x.isFinite) : binary64 (.ofBinary64 x) = .ok x := by
  cases x with
  | finite value => rfl
  | nan => cases h
  | infinite negative => cases h

theorem optional_ofOption {o : Option α} (hread : ∀ a ∈ o, read (write a) = .ok a)
    (hnull : ∀ a ∈ o, write a ≠ .null) : optional read (.ofOption write o) = .ok o := by
  cases o with
  | none => rfl
  | some a =>
    have hread := hread a rfl
    have hnull := hnull a rfl
    unfold optional Json.ofOption
    split
    · rename_i hwrite
      exact absurd hwrite hnull
    · rw [hread]
      rfl

/-- Only `null` is read as nothing. -/
theorem optional_eq_ok_some_iff {value : Json} {a : α} :
    optional read value = .ok (some a) ↔ value ≠ .null ∧ read value = .ok a := by
  cases value with
  | null => simp [optional]
  | bool | int | float | string | array | object =>
    simp only [optional, ne_eq, reduceCtorEq, not_false_eq_true, true_and]
    rw [Fallible.map_eq_ok_iff]
    simp

/-- The items of an array are read when each of them is. -/
theorem items_eq_ok_iff : ∀ {values : List Json} {as : List α},
    items read values = .ok as ↔ List.Forall₂ (fun value a => read value = .ok a) values as
  | [], as => by
    rw [List.forall₂_nil_left_iff]
    exact ⟨fun h => (Except.ok.inj h).symm, fun h => congrArg _ h.symm⟩
  | value :: values, as => by
    rw [items, Fallible.bind_eq_ok_iff, List.forall₂_cons_left_iff]
    refine exists_congr fun a => ?_
    rw [Fallible.bind_eq_ok_iff, ← exists_and_left]
    refine exists_congr fun rest => ?_
    rw [items_eq_ok_iff]
    exact ⟨fun h => ⟨h.1, h.2.1, (Except.ok.inj h.2.2).symm⟩,
      fun h => ⟨h.1, h.2.1, congrArg _ h.2.2.symm⟩⟩

theorem list_ofList {values : List α} (h : ∀ a ∈ values, read (write a) = .ok a) :
    list read (.ofList write values) = .ok values := by
  refine items_eq_ok_iff.2 ?_
  rw [List.forall₂_map_left_iff, List.forall₂_same]
  exact h

/-- A map whose values can all be read is read value by value. -/
theorem entries_ok (f : Json → α) : ∀ fields : List (String × Json),
    entries (fun value => .ok (f value)) fields =
      .ok (fields.map fun field => (field.1, f field.2))
  | [] => rfl
  | field :: fields => by
    rw [entries, entries_ok f fields]
    rfl

theorem choice_string {isNothing : Json → Bool} {choices : List (String × α)} {name : String}
    {a : α} (h : choices.lookup name = some a) :
    choice isNothing choices (.string name) = .ok a := by
  rw [choice, h]

end Reader

end Logbook
