import Mathlib.Data.List.Forall2

/-!
# Computations that may fail

What the result of a step in `Except` says about its parts: `bind_eq_ok_iff` and `bind_eq_error_iff`
take a sequence apart, and `mapM_eq_ok_iff` and `mapM_eq_error_iff` say of a list that is read item
by item that it is read when every item is, and that otherwise the first item that cannot be read is
reported. `Agree` compares two computations: kept by each step that is.
-/

set_option autoImplicit false

namespace Logbook

namespace Fallible

variable {ε α β γ δ : Type}

theorem bind_eq_ok_iff {x : Except ε α} {f : α → Except ε β} {b : β} :
    x >>= f = .ok b ↔ ∃ a, x = .ok a ∧ f a = .ok b := by
  cases x with
  | error e =>
    constructor
    · intro h
      cases h
    · rintro ⟨a, ha, -⟩
      cases ha
  | ok a =>
    constructor
    · intro h
      exact ⟨a, rfl, h⟩
    · rintro ⟨a', ha, h⟩
      cases ha
      exact h

theorem map_eq_ok_iff {x : Except ε α} {f : α → β} {b : β} :
    x.map f = .ok b ↔ ∃ a, x = .ok a ∧ f a = b := by
  cases x <;> simp [Except.map]

theorem map_eq_error_iff {x : Except ε α} {f : α → β} {e : ε} :
    x.map f = .error e ↔ x = .error e := by
  cases x <;> simp [Except.map]

/-- What is changed by an injective function was read as what it is changed from. -/
theorem eq_ok_of_map {x : Except ε α} {f : α → β} (hf : f.Injective) {a : α}
    (h : x.map f = .ok (f a)) : x = .ok a := by
  obtain ⟨a', rfl, heq⟩ := map_eq_ok_iff.1 h
  rw [hf heq]

theorem bind_eq_error_iff {x : Except ε α} {f : α → Except ε β} {e : ε} :
    x >>= f = .error e ↔ x = .error e ∨ ∃ a, x = .ok a ∧ f a = .error e := by
  cases x with
  | error e' =>
    constructor
    · intro h
      cases h
      exact .inl rfl
    · rintro (h | ⟨a, ha, -⟩)
      · cases h
        rfl
      · cases ha
  | ok a =>
    constructor
    · intro h
      exact .inr ⟨a, rfl, h⟩
    · rintro (h | ⟨a', ha, h⟩)
      · cases h
      · cases ha
        exact h

theorem bind_ok_eq_map {x : Except ε α} {f : α → β} : (x >>= fun a => .ok (f a)) = x.map f := by
  cases x <;> rfl

/-- A last step that cannot fail adds no fault. -/
theorem bind_ok_eq_error_iff {x : Except ε α} {g : α → β} {e : ε} :
    (x >>= fun a => .ok (g a)) = .error e ↔ x = .error e := by
  rw [bind_eq_error_iff]
  constructor
  · rintro (h | ⟨a, -, h⟩)
    · exact h
    · cases h
  · exact .inl

theorem mapError_eq_ok_iff {x : Except ε α} {f : ε → δ} {a : α} :
    x.mapError f = .ok a ↔ x = .ok a := by
  cases x <;> simp [Except.mapError]

theorem mapError_eq_error_iff {x : Except ε α} {f : ε → δ} {d : δ} :
    x.mapError f = .error d ↔ ∃ e, x = .error e ∧ f e = d := by
  cases x <;> simp [Except.mapError]

theorem ite_eq_ok_iff {p : Prop} [Decidable p] {a b : α} {e : ε} :
    (if p then .ok a else .error e : Except ε α) = .ok b ↔ p ∧ a = b := by
  by_cases h : p <;> simp [h]

theorem ite_eq_error_iff {p : Prop} [Decidable p] {a : α} {e d : ε} :
    (if p then .ok a else .error e : Except ε α) = .error d ↔ ¬p ∧ e = d := by
  by_cases h : p <;> simp [h]

theorem toOption_eq_some_iff {x : Except ε α} {a : α} : x.toOption = some a ↔ x = .ok a := by
  cases x <;> simp [Except.toOption]

/-! ## Lists -/

/-- Why a computation failed, if it did. -/
def fault? : Except ε α → Option ε
  | .ok _ => none
  | .error e => some e

theorem fault?_eq_some_iff {x : Except ε α} {e : ε} : fault? x = some e ↔ x = .error e := by
  cases x with
  | ok a => exact ⟨nofun, nofun⟩
  | error e' =>
    constructor
    · intro h
      cases h
      rfl
    · intro h
      cases h
      rfl

theorem fault?_eq_none_iff {x : Except ε α} : fault? x = none ↔ ∃ a, x = .ok a := by
  cases x <;> simp [fault?]

theorem exists_error_of_ne_ok {x : Except ε α} (h : ∀ a, x ≠ .ok a) : ∃ e, x = .error e := by
  cases x with
  | ok a => exact absurd rfl (h a)
  | error e => exact ⟨e, rfl⟩

/-- Computations with the same results and the same faults are the same. -/
theorem eq_of_same {x y : Except ε α} (hok : ∀ a, x = .ok a ↔ y = .ok a)
    (hfault : fault? x = fault? y) : x = y := by
  cases x with
  | ok a => exact ((hok a).1 rfl).symm
  | error e => exact (fault?_eq_some_iff.1 hfault.symm).symm

theorem mapM_eq_ok_iff {f : α → Except ε β} {xs : List α} {ys : List β} :
    xs.mapM f = .ok ys ↔ List.Forall₂ (fun x y => f x = .ok y) xs ys := by
  induction xs generalizing ys with
  | nil =>
    rw [List.mapM_nil]
    constructor
    · intro h
      cases h
      exact .nil
    · intro h
      cases h
      rfl
  | cons x xs ih =>
    rw [List.mapM_cons, bind_eq_ok_iff]
    constructor
    · rintro ⟨y, hy, h⟩
      obtain ⟨rest, hrest, h⟩ := bind_eq_ok_iff.1 h
      cases h
      exact .cons hy (ih.1 hrest)
    · intro h
      cases h with
      | cons hy hrest => exact ⟨_, hy, bind_eq_ok_iff.2 ⟨_, ih.2 hrest, rfl⟩⟩

/-- What is read of a list was read of one of its items. -/
theorem exists_mem_of_mapM_eq_ok {f : α → Except ε β} {xs : List α} {ys : List β}
    (h : xs.mapM f = .ok ys) {y : β} (hy : y ∈ ys) : ∃ x ∈ xs, f x = .ok y := by
  have hread := mapM_eq_ok_iff.1 h
  induction hread with
  | nil => cases hy
  | cons hfirst hrest ih =>
    rcases List.mem_cons.1 hy with rfl | hmem
    · exact ⟨_, List.mem_cons_self, hfirst⟩
    · obtain ⟨x, hx, hread⟩ := ih (mapM_eq_ok_iff.2 hrest) hmem
      exact ⟨x, List.mem_cons_of_mem _ hx, hread⟩

theorem exists_of_mapM_eq_some {f : α → Option β} {xs : List α} {ys : List β}
    (h : xs.mapM f = some ys) {x : α} (hx : x ∈ xs) : ∃ y ∈ ys, f x = some y := by
  induction xs generalizing ys with
  | nil => cases hx
  | cons a xs ih =>
    rw [List.mapM_cons] at h
    obtain ⟨b, hb, h⟩ := Option.bind_eq_some_iff.1 h
    obtain ⟨rest, hrest, h⟩ := Option.bind_eq_some_iff.1 h
    cases h
    rcases List.mem_cons.1 hx with rfl | hmem
    · exact ⟨b, List.mem_cons_self, hb⟩
    · obtain ⟨y, hy, hxy⟩ := ih hrest hmem
      exact ⟨y, List.mem_cons_of_mem _ hy, hxy⟩

theorem mapM_eq_error_iff {f : α → Except ε β} {xs : List α} {e : ε} :
    xs.mapM f = .error e ↔ xs.findSome? (fun x => fault? (f x)) = some e := by
  induction xs with
  | nil =>
    rw [List.mapM_nil, List.findSome?_nil]
    exact ⟨nofun, nofun⟩
  | cons x xs ih =>
    rw [List.mapM_cons, bind_eq_error_iff, List.findSome?_cons]
    rcases hx : f x with e' | y
    · -- the first item is at fault, whatever follows it
      rw [fault?]
      constructor
      · rintro (h | ⟨y, hy, -⟩)
        · cases h
          rfl
        · cases hy
      · intro h
        cases h
        exact .inl rfl
    · rw [fault?, ← ih]
      constructor
      · rintro (h | ⟨y', -, h⟩)
        · cases h
        · exact bind_ok_eq_error_iff.1 h
      · intro h
        exact .inr ⟨y, rfl, bind_ok_eq_error_iff.2 h⟩

/-- Where items can fail in one way only, a list of them fails as soon as one item does. -/
theorem mapM_eq_error_iff_exists {f : α → Except ε β} {p : α → Prop} {e : ε}
    (h : ∀ x d, f x = .error d ↔ p x ∧ d = e) {xs : List α} {d : ε} :
    xs.mapM f = .error d ↔ (∃ x ∈ xs, p x) ∧ d = e := by
  induction xs with
  | nil =>
    rw [List.mapM_nil]
    constructor
    · intro hnil
      cases hnil
    · rintro ⟨⟨x, hx, -⟩, -⟩
      cases hx
  | cons x xs ih =>
    rw [List.mapM_cons, bind_eq_error_iff, h]
    simp only [bind_ok_eq_error_iff, ih, pure, Except.pure, List.exists_mem_cons_iff]
    constructor
    · rintro (⟨hx, rfl⟩ | ⟨y, -, hrest, rfl⟩)
      · exact ⟨.inl hx, rfl⟩
      · exact ⟨.inr hrest, rfl⟩
    · rintro ⟨hx | hrest, rfl⟩
      · exact .inl ⟨hx, rfl⟩
      · cases hfirst : f x with
        | error d =>
          obtain ⟨hx, -⟩ := (h x d).1 hfirst
          exact .inl ⟨hx, rfl⟩
        | ok y => exact .inr ⟨y, rfl, hrest, rfl⟩

/-- Where all results are what `g` gives, so is the list of them. -/
theorem eq_map_of_map_eq_map_ok {f : α → Except ε β} {g : α → β} {xs : List α} {ys : List β}
    (h : xs.map f = ys.map .ok) (hfg : ∀ x ∈ xs, ∀ y, f x = .ok y → y = g x) : ys = xs.map g := by
  induction xs generalizing ys with
  | nil => simpa using h
  | cons x xs ih =>
    obtain ⟨y, ys, rfl⟩ := List.exists_cons_of_ne_nil (l := ys) (by
      rintro rfl
      cases h)
    obtain ⟨hfirst, hrest⟩ := List.cons.inj h
    rw [List.map_cons, hfg x List.mem_cons_self y hfirst,
      ih hrest fun x' hx' => hfg x' (List.mem_cons_of_mem x hx')]

/-- A fold that fails does so at one of its items. -/
theorem exists_of_foldlM_eq_error {f : β → α → Except ε β} {xs : List α} {b : β} {e : ε}
    (h : xs.foldlM f b = .error e) : ∃ x ∈ xs, ∃ b', f b' x = .error e := by
  induction xs generalizing b with
  | nil => cases h
  | cons x xs ih =>
    rw [List.foldlM_cons] at h
    rcases bind_eq_error_iff.1 h with hfirst | ⟨b', -, hrest⟩
    · exact ⟨x, List.mem_cons_self, b, hfirst⟩
    · obtain ⟨y, hy, hfault⟩ := ih hrest
      exact ⟨y, List.mem_cons_of_mem x hy, hfault⟩

/-! ## Two computations -/

/-- Two computations fail with the same fault, or their results are related. -/
inductive Agree (R : α → β → Prop) : Except ε α → Except ε β → Prop
  | ok {a : α} {b : β} (h : R a b) : Agree R (.ok a) (.ok b)
  | error (e : ε) : Agree R (.error e) (.error e)

namespace Agree

theorem refl {R : α → α → Prop} (h : ∀ a, R a a) (x : Except ε α) : Agree R x x := by
  cases x with
  | ok a => exact .ok (h a)
  | error e => exact .error e

theorem map {R : α → β → Prop} {S : γ → δ → Prop} {x : Except ε α} {y : Except ε β} {f : α → γ}
    {g : β → δ} (h : Agree R x y) (hfg : ∀ a b, R a b → S (f a) (g b)) :
    Agree S (x.map f) (y.map g) := by
  cases h with
  | ok hab => exact .ok (hfg _ _ hab)
  | error e => exact .error e

theorem bind {R : α → β → Prop} {S : γ → δ → Prop} {x : Except ε α} {y : Except ε β}
    {f : α → Except ε γ} {g : β → Except ε δ} (h : Agree R x y)
    (hfg : ∀ a b, R a b → Agree S (f a) (g b)) : Agree S (x >>= f) (y >>= g) := by
  cases h with
  | ok hab => exact hfg _ _ hab
  | error e => exact .error e

theorem exists_of_ok {R : α → β → Prop} {x : Except ε α} {y : Except ε β} {a : α}
    (h : Agree R x y) (hx : x = .ok a) : ∃ b, y = .ok b ∧ R a b := by
  cases h with
  | ok hab =>
    cases hx
    exact ⟨_, rfl, hab⟩
  | error e => cases hx

/-- What does not depend on the result is the same. -/
theorem map_const_eq {R : α → β → Prop} {x : Except ε α} {y : Except ε β} (h : Agree R x y)
    (c : γ) : x.map (fun _ => c) = y.map fun _ => c := by
  cases h <;> rfl

end Agree

end Fallible

end Logbook
