import Mathlib.Data.List.Induction
import Mathlib.Data.List.Lex
import Mathlib.Data.List.TakeWhile
import Logbook.Number.Digits
import Logbook.Number.Power

/-!
# Numbers of a fixed width

A number with zeros in front is read back (`digitsValue_paddedDigits`), so that no two numbers are
written alike, and every run of digits is such a number (`paddedDigits_digitsValue`). Numbers of one
width come in the order of their texts (`paddedDigits_lt`).
-/

set_option autoImplicit false

namespace Logbook

theorem toNat_bounds_of_isDigit {c : Char} (h : c.isDigit = true) :
    48 ≤ c.toNat ∧ c.toNat ≤ 57 := by
  simpa [Char.isDigit, UInt32.le_iff_toNat_le] using h

/-- A digit is the character of its value. -/
theorem digitChar_toNat_sub {c : Char} (h : c.isDigit = true) : digitChar (c.toNat - 48) = c := by
  obtain ⟨hlow, hhigh⟩ := toNat_bounds_of_isDigit h
  apply Char.toNat_inj.1
  rw [digitChar_toNat (by omega)]
  omega

theorem ne_of_isDigit {c d : Char} (hc : c.isDigit = true) (hd : d.isDigit = false) : c ≠ d := by
  rintro rfl
  rw [hc] at hd
  cases hd

theorem not_mem_digits {c : Char} (hc : c.isDigit = false) (n : Nat) : c ∉ digits n :=
  fun h => ne_of_isDigit (isDigit_of_mem_digits h) hc rfl

theorem isDigit_of_mem_paddedDigits {width n : Nat} {c : Char} (h : c ∈ paddedDigits width n) :
    c.isDigit = true := by
  rcases List.mem_append.1 h with h | h
  · rw [List.eq_of_mem_replicate h]
    rfl
  · exact isDigit_of_mem_digits h

theorem not_mem_paddedDigits {c : Char} (hc : c.isDigit = false) (width n : Nat) :
    c ∉ paddedDigits width n :=
  fun h => ne_of_isDigit (isDigit_of_mem_paddedDigits h) hc rfl

theorem digitsValue_replicate_append (k : Nat) (cs : List Char) :
    digitsValue (List.replicate k '0' ++ cs) = digitsValue cs := by
  induction k with
  | zero => rfl
  | succ k ih =>
    rw [List.replicate_succ, List.cons_append]
    exact ih

/-- A number is read back from its text of any width. -/
theorem digitsValue_paddedDigits (width n : Nat) : digitsValue (paddedDigits width n) = n := by
  rw [paddedDigits, digitsValue_replicate_append, digitsValue_digits]

theorem paddedDigits_injective (width : Nat) : Function.Injective (paddedDigits width) := by
  intro n m h
  rw [← digitsValue_paddedDigits width n, h, digitsValue_paddedDigits]

/-! ## A run of digits in front of a text -/

theorem spanDigits_eq_iff {cs ds rest : List Char} :
    spanDigits cs = (ds, rest) ↔ cs = ds ++ rest ∧ (∀ d ∈ ds, d.isDigit = true) ∧
      ∀ c ∈ rest.head?, c.isDigit = false := by
  constructor
  · intro h
    cases h
    refine ⟨List.takeWhile_append_dropWhile.symm, fun d => List.mem_takeWhile_imp, fun c hc => ?_⟩
    have hhead := List.head?_dropWhile_not Char.isDigit cs
    rw [Option.mem_def.1 hc] at hhead
    exact hhead
  · rintro ⟨rfl, hds, hrest⟩
    rw [spanDigits, List.takeWhile_append_of_pos hds, List.dropWhile_append_of_pos hds]
    cases rest with
    | nil => rw [List.takeWhile_nil, List.append_nil, List.dropWhile_nil]
    | cons c rest =>
      have hc : ¬c.isDigit = true := by simp [hrest c rfl]
      rw [List.takeWhile_cons_of_neg hc, List.append_nil, List.dropWhile_cons_of_neg hc]

theorem spanDigits_of_forall {cs : List Char} (h : ∀ c ∈ cs, c.isDigit = true) :
    spanDigits cs = (cs, []) :=
  spanDigits_eq_iff.2 ⟨(List.append_nil cs).symm, h, by simp⟩

theorem natOfDigits?_eq_some_iff {cs : List Char} {n : Nat} :
    natOfDigits? cs = some n ↔ cs ≠ [] ∧ (∀ c ∈ cs, c.isDigit = true) ∧ digitsValue cs = n := by
  simp only [natOfDigits?, Option.ite_none_right_eq_some, Option.some.injEq, List.all_eq_true,
    and_assoc]

/-! ## One width -/

/-- A digit of a number that is less than ten is written behind zeros. -/
theorem paddedDigits_of_lt_ten {n : Nat} (width : Nat) (h : n < 10) :
    paddedDigits (width + 1) n = List.replicate width '0' ++ [digitChar n] := by
  rw [paddedDigits, digits, if_pos h]
  rfl

/-- The last digit of a number stands at the end of its text. -/
theorem paddedDigits_succ {width n : Nat} (hwidth : 1 ≤ width) :
    paddedDigits (width + 1) n = paddedDigits width (n / 10) ++ [digitChar (n % 10)] := by
  by_cases h : n < 10
  · obtain ⟨width, rfl⟩ := Nat.exists_eq_add_of_le' hwidth
    rw [paddedDigits_of_lt_ten _ h, Nat.div_eq_of_lt h, Nat.mod_eq_of_lt h,
      paddedDigits_of_lt_ten _ (by decide), List.replicate_succ']
    rfl
  · rw [paddedDigits, digits, if_neg h, paddedDigits, List.length_append, List.append_assoc]
    simp

theorem length_paddedDigits {width n : Nat} (hwidth : 1 ≤ width) (h : n < 10 ^ width) :
    (paddedDigits width n).length = width := by
  induction width, hwidth using Nat.le_induction generalizing n with
  | base => rw [paddedDigits_of_lt_ten 0 h]; rfl
  | succ width hwidth ih =>
    rw [paddedDigits_succ hwidth, List.length_append, ih (by omega)]
    rfl

theorem paddedDigits_two {n : Nat} (h : n < 100) :
    paddedDigits 2 n = [digitChar (n / 10), digitChar (n % 10)] := by
  rw [paddedDigits_succ (by decide), paddedDigits_of_lt_ten 0 (by omega)]
  rfl

/-- A run of digits is the text of its value, of the width that it has. -/
theorem paddedDigits_digitsValue {ds : List Char} (hds : ∀ d ∈ ds, d.isDigit = true)
    (hne : ds ≠ []) : paddedDigits ds.length (digitsValue ds) = ds := by
  induction ds using List.reverseRecOn with
  | nil => exact absurd rfl hne
  | append_singleton ds d ih =>
    have hd : d.isDigit = true := hds d (by simp)
    obtain ⟨hlow, hhigh⟩ := toNat_bounds_of_isDigit hd
    have hchar := digitChar_toNat_sub hd
    rw [digitsValue_append_singleton, List.length_append, List.length_singleton]
    by_cases hnil : ds = []
    · subst hnil
      have hlt : 10 * digitsValue [] + (d.toNat - 48) < 10 := by
        simp only [digitsValue, List.foldl_nil]
        omega
      rw [List.length_nil, paddedDigits_of_lt_ten 0 hlt, digitsValue, List.foldl_nil,
        Nat.mul_zero, Nat.zero_add, hchar, List.replicate_zero]
    · have hdiv : (10 * digitsValue ds + (d.toNat - 48)) / 10 = digitsValue ds := by omega
      have hmod : (10 * digitsValue ds + (d.toNat - 48)) % 10 = d.toNat - 48 := by omega
      rw [paddedDigits_succ (List.length_pos_of_ne_nil hnil), hdiv, hmod, hchar,
        ih (fun c hc => hds c (by simp [hc])) hnil]

/-! ## Order -/

theorem digitChar_lt {d e : Nat} (h : d < e) (he : e < 10) : digitChar d < digitChar e := by
  rw [Char.lt_def, UInt32.lt_iff_toNat_lt]
  have hd := digitChar_toNat (d := d) (by omega)
  have he' := digitChar_toNat he
  simp only [Char.toNat] at hd he'
  omega

/-- Texts of one length are ordered by their beginnings. -/
theorem append_lt_append {α : Type} [LT α] {xs ys : List α} (h : xs < ys)
    (hlength : xs.length = ys.length) (xs' ys' : List α) : xs ++ xs' < ys ++ ys' := by
  induction h with
  | nil => simp at hlength
  | rel hlt => exact .rel hlt
  | cons _ ih => exact .cons (ih (by simpa using hlength))

/-- Numbers of one width come in the order of their texts. -/
theorem paddedDigits_lt {width n m : Nat} (hwidth : 1 ≤ width) (h : n < m)
    (hm : m < 10 ^ width) : paddedDigits width n < paddedDigits width m := by
  induction width, hwidth using Nat.le_induction generalizing n m with
  | base =>
    rw [paddedDigits_of_lt_ten 0 (by omega), paddedDigits_of_lt_ten 0 hm]
    exact .rel (digitChar_lt h hm)
  | succ width hwidth ih =>
    rw [paddedDigits_succ hwidth, paddedDigits_succ hwidth]
    by_cases hfront : n / 10 = m / 10
    · rw [hfront]
      exact List.append_left_lt (.rel (digitChar_lt (by omega) (by omega)))
    · refine append_lt_append (ih (by omega) (by omega)) ?_ _ _
      rw [length_paddedDigits hwidth (by omega), length_paddedDigits hwidth (by omega)]

end Logbook
