import Mathlib.Data.List.Forall2

/-!
# Related item by item

Lists of the same length whose items are related one by one (`List.Forall₂`), and options with
related values (`Option.Rel`). A function that does not tell related items apart gives the same on
related lists, whether it is mapped over them (`map_eq_of_forall₂`), chooses from them
(`filterMap_eq_of_forall₂`) or gathers them (`foldlM_eq_of_forall₂`).
-/

set_option autoImplicit false

namespace Logbook

variable {α β σ ε : Type} {R : α → α → Prop} {l l' : List α}

/-! ## A relation that holds of each item and itself -/

theorem rel_self (hrefl : ∀ a, R a a) : ∀ o : Option α, Option.Rel R o o
  | none => .none
  | some a => .some (hrefl a)

theorem forall₂_self (hrefl : ∀ a, R a a) (l : List α) : List.Forall₂ R l l :=
  List.forall₂_same.2 fun a _ => hrefl a

theorem forall₂_middle (hrefl : ∀ a, R a a) {a a' : α} (h : R a a') (before after : List α) :
    List.Forall₂ R (before ++ a :: after) (before ++ a' :: after) :=
  List.rel_append (forall₂_self hrefl before) (.cons h (forall₂_self hrefl after))

/-! ## Functions of related lists -/

theorem map_eq_of_forall₂ {f : α → β} (hf : ∀ a a', R a a' → f a' = f a)
    (h : List.Forall₂ R l l') : l'.map f = l.map f := by
  have hmap : List.Forall₂ Eq (l.map f) (l'.map f) :=
    List.rel_map (fun a a' haa => (hf a a' haa).symm) h
  rw [List.forall₂_eq_eq_eq] at hmap
  exact hmap.symm

theorem filterMap_eq_of_forall₂ {f : α → Option β} (hf : ∀ a a', R a a' → f a' = f a)
    (h : List.Forall₂ R l l') : l'.filterMap f = l.filterMap f := by
  induction h with
  | nil => rfl
  | cons hfirst _ ih => rw [List.filterMap_cons, List.filterMap_cons, hf _ _ hfirst, ih]

theorem foldlM_eq_of_forall₂ {f : σ → α → Except ε σ} (hf : ∀ s a a', R a a' → f s a' = f s a)
    (h : List.Forall₂ R l l') (s : σ) : l'.foldlM f s = l.foldlM f s := by
  induction h generalizing s with
  | nil => rfl
  | cons hfirst _ ih =>
    rw [List.foldlM_cons, List.foldlM_cons, hf s _ _ hfirst]
    exact bind_congr ih

theorem isEmpty_eq_of_forall₂ (h : List.Forall₂ R l l') : l'.isEmpty = l.isEmpty := by
  cases h <;> rfl

theorem rel_head?_of_forall₂ (h : List.Forall₂ R l l') : Option.Rel R l.head? l'.head? := by
  cases h with
  | nil => exact .none
  | cons hfirst _ => exact .some hfirst

end Logbook
