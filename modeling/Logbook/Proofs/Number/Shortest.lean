import Mathlib
import Logbook.Number.Decimal
import Logbook.Proofs.Number.Digits
import Logbook.Proofs.Number.Rounding

/-!
# Decimals that are read back

A decimal is read as the binary number next to it, whatever digits and exponent it is written with.

* `Decimal.toBinary64_mul_pow`, `Decimal.toBinary64_strip`: zeros at the end of the digits may
  stand in the exponent, or be left out.
* `Binary64.ofSteps_steps`: what is a number already is not rounded, so its exact expansion is read
  back (`Finite64.toBinary64_expansion`).
* `Finite64.toBinary64_shortest`: the shortest decimal of a number is read back.
-/

set_option autoImplicit false

namespace Logbook

/-! ## How many digits a number has -/

theorem digits_of_ten_le {n : Nat} (h : 10 ≤ n) :
    digits n = digits (n / 10) ++ [digitChar (n % 10)] := by
  rw [digits, if_neg (by omega)]

/-- The digits of a number tell its size. -/
theorem bounds_length_digits {n : Nat} (h : n ≠ 0) :
    10 ^ ((digits n).length - 1) ≤ n ∧ n < 10 ^ (digits n).length := by
  induction n using Nat.strongRecOn with
  | ind n ih =>
    by_cases hn : n < 10
    · rw [digits, if_pos hn]
      exact ⟨by simp; omega, by simp; omega⟩
    · obtain ⟨hlow, hhigh⟩ := ih (n / 10) (by omega) (by omega)
      obtain ⟨k, hk⟩ := Nat.exists_eq_succ_of_ne_zero
        (mt List.length_eq_zero_iff.1 (digits_ne_nil (n / 10)))
      rw [digits_of_ten_le (by omega), List.length_append, List.length_singleton]
      rw [hk, Nat.succ_eq_add_one, Nat.add_sub_cancel] at hlow
      rw [hk, Nat.succ_eq_add_one] at hhigh ⊢
      rw [Nat.add_sub_cancel, Nat.pow_succ, Nat.pow_succ 10 (k + 1)]
      rw [Nat.pow_succ] at hhigh ⊢
      omega

/-- Powers of ten are zeros at the end. -/
theorem digits_mul_pow {n : Nat} (h : n ≠ 0) (k : Nat) :
    digits (n * 10 ^ k) = digits n ++ List.replicate k '0' := by
  induction k with
  | zero => simp
  | succ k ih =>
    have hpos : 0 < n * 10 ^ k := by positivity
    have hten : n * 10 ^ (k + 1) = n * 10 ^ k * 10 := by ring
    rw [hten, digits_of_ten_le (by omega), Nat.mul_div_cancel _ (by decide), ih, Nat.mul_mod_left,
      List.replicate_succ', List.append_assoc]
    rfl

theorem length_digits_mul_pow {n : Nat} (h : n ≠ 0) (k : Nat) :
    (digits (n * 10 ^ k)).length = (digits n).length + k := by
  rw [digits_mul_pow h, List.length_append, List.length_replicate]

/-- The exact expansion of `n / 2 ^ k` has about as many digits as places behind its point. -/
theorem length_digits_mul_five_pow {n k p : Nat} (hpos : 0 < n) (hn : n < 10 ^ p)
    (hk : 2 ^ k ≤ 10 ^ p) :
    (digits (n * 5 ^ k)).length ≤ k + p ∧ k ≤ (digits (n * 5 ^ k)).length + p := by
  have hfive : 0 < 5 ^ k := Nat.pow_pos (by decide)
  obtain ⟨hlow, hhigh⟩ := bounds_length_digits (Nat.mul_ne_zero hpos.ne' hfive.ne')
  generalize (digits (n * 5 ^ k)).length = length at hlow hhigh ⊢
  have hten : 10 ^ k = 2 ^ k * 5 ^ k := Nat.mul_pow 2 5 k
  constructor
  · by_contra hlong
    have hpower : 10 ^ (p + k) ≤ 10 ^ (length - 1) := Nat.pow_le_pow_right (by decide) (by omega)
    have hless : n * 5 ^ k < 10 ^ p * 10 ^ k :=
      Nat.mul_lt_mul_of_lt_of_le hn (Nat.pow_le_pow_left (by decide) k) (Nat.pow_pos (by decide))
    rw [Nat.pow_add] at hpower
    omega
  · by_contra hshort
    have hpower : 10 ^ (p + length) ≤ 10 ^ k := Nat.pow_le_pow_right (by decide) (by omega)
    have hless : 5 ^ k < 10 ^ length := Nat.lt_of_le_of_lt (Nat.le_mul_of_pos_left _ hpos) hhigh
    have hproduct : 2 ^ k * 5 ^ k < 10 ^ p * 10 ^ length :=
      Nat.mul_lt_mul_of_le_of_lt hk hless (Nat.pow_pos (by decide))
    rw [Nat.pow_add] at hpower
    omega

/-! ## One decimal in several forms -/

namespace Decimal

/-- Zeros behind the digits of a decimal may be taken into its exponent. -/
theorem toBinary64_mul_pow (negative : Bool) (n k : Nat) (exponent : Int) :
    toBinary64 negative ⟨n * 10 ^ k, exponent⟩ = toBinary64 negative ⟨n, exponent + k⟩ := by
  by_cases hn : n = 0
  · simp [toBinary64, hn]
  have hne : n * 10 ^ k ≠ 0 := by positivity
  have hplace : ((Logbook.digits (n * 10 ^ k)).length : Int) + exponent =
      (Logbook.digits n).length + (exponent + k) := by
    rw [length_digits_mul_pow hn]
    omega
  -- the two fractions differ by the power of ten that goes into the exponent below zero
  have hratio :
      Binary64.ofRatio negative (num ⟨n * 10 ^ k, exponent⟩) (den ⟨n * 10 ^ k, exponent⟩) =
        Binary64.ofRatio negative (num ⟨n, exponent + k⟩) (den ⟨n, exponent + k⟩) := by
    have hup : k + exponent.toNat = min k (-exponent).toNat + (exponent + k).toNat := by omega
    have hdown : (-exponent).toNat = min k (-exponent).toNat + (-(exponent + k)).toNat := by omega
    have hnum : n * 10 ^ k * 10 ^ exponent.toNat =
        10 ^ min k (-exponent).toNat * (n * 10 ^ (exponent + k).toNat) := by
      rw [Nat.mul_assoc, ← Nat.pow_add, hup, Nat.pow_add, Nat.mul_left_comm]
    have hden : 10 ^ (-exponent).toNat =
        10 ^ min k (-exponent).toNat * 10 ^ (-(exponent + k)).toNat := by
      rw [← Nat.pow_add, ← hdown]
    simp only [num, den]
    rw [hnum, hden, Binary64.ofRatio_mul_left (by positivity)]
  simp only [toBinary64, hplace, hne, hn, hratio]

/-- As many powers of ten divide a number as there are zeros at the end of its digits. -/
theorem pow_dvd_of_zeros (n : Nat) :
    10 ^ ((Logbook.digits n).reverse.takeWhile (· == '0')).length ∣ n := by
  induction n using Nat.strongRecOn with
  | ind n ih =>
    by_cases hzero : n = 0
    · rw [hzero]
      exact dvd_zero _
    have hlast {d : Nat} (hd : d < 10) (h : digitChar d = '0') : d = 0 := by
      have hvalue := digitChar_toNat hd
      rw [h] at hvalue
      exact (Nat.add_left_cancel hvalue).symm
    by_cases hn : n < 10
    · rw [Logbook.digits, if_pos hn, List.reverse_singleton, List.takeWhile_cons_of_neg]
      · exact one_dvd n
      · rw [beq_iff_eq]
        exact mt (hlast hn) hzero
    · rw [digits_of_ten_le (by omega), List.reverse_append, List.reverse_singleton,
        List.singleton_append, List.takeWhile_cons]
      split
      · rename_i h
        have hmod := hlast (Nat.mod_lt n (by decide)) (beq_iff_eq.1 h)
        rw [List.length_cons, Nat.pow_succ]
        calc _ ∣ n / 10 * 10 := Nat.mul_dvd_mul_right (ih (n / 10) (by omega)) 10
          _ = n := by omega
      · exact one_dvd n

/-- Without the zeros at the end of its digits a decimal is read as before. -/
theorem toBinary64_strip (negative : Bool) (d : Decimal) :
    d.strip.toBinary64 negative = d.toBinary64 negative := by
  obtain ⟨n, exponent⟩ := d
  obtain ⟨m, hm⟩ := pow_dvd_of_zeros n
  simp only [strip]
  generalize ((Logbook.digits n).reverse.takeWhile (· == '0')).length = zeros at hm ⊢
  subst hm
  rw [Nat.mul_comm, toBinary64_mul_pow, Nat.mul_div_cancel _ (by positivity)]

/-- A decimal that is not far off is read as the quotient that it is. -/
theorem toBinary64_of_place {negative : Bool} {d : Decimal} (hd : d.digits ≠ 0)
    (hup : ((Logbook.digits d.digits).length : Int) + d.exponent ≤ 400)
    (hdown : -400 ≤ ((Logbook.digits d.digits).length : Int) + d.exponent) :
    d.toBinary64 negative = Binary64.ofRatio negative d.num d.den := by
  simp only [toBinary64]
  rw [if_neg hd, if_neg (by omega), if_neg (by omega)]

end Decimal

/-! ## Numbers that are not rounded -/

theorem roundHalfEven_mul (n : Nat) {den : Nat} (hden : 0 < den) :
    roundHalfEven (n * den) den = n := by
  simp only [roundHalfEven, Nat.mul_div_cancel _ hden, Nat.mul_mod_left]
  rw [if_neg (by omega)]

/-- The scale of a number is told by its steps. -/
theorem Finite64.log2_steps (x : Finite64) : x.steps.log2 - 52 = x.scale := by
  have hlt := x.significand_lt
  by_cases hscale : x.scale = 0
  · have hsteps : x.steps = x.significand := by rw [steps, hscale, Nat.pow_zero, Nat.mul_one]
    rw [hsteps, hscale]
    by_cases hzero : x.significand = 0
    · rw [hzero]
      rfl
    · have hlog := (Nat.log2_lt hzero).2 hlt
      omega
  · have hlow : 2 ^ 52 ≤ x.significand := x.normal.resolve_left hscale
    have hlog : x.significand.log2 = 52 := (Nat.log2_eq_iff (by omega)).2 ⟨hlow, hlt⟩
    rw [steps, log2_mul_two_pow (by omega), hlog, Nat.add_sub_cancel_left]

/-- The steps of a number are rounded to that number. -/
theorem Binary64.ofSteps_steps (x : Finite64) {den : Nat} (hden : 0 < den) :
    ofSteps x.negative (x.steps * den) den = .finite x := by
  have hround : roundHalfEven (x.steps * den) (den * 2 ^ x.scale) = x.significand := by
    rw [Finite64.steps, Nat.mul_assoc, Nat.mul_comm (2 ^ x.scale), roundHalfEven_mul]
    positivity
  have hparts : x.significand < 2 ^ 53 ∧ x.scale ≤ 2045 ∧
      (x.scale = 0 ∨ 2 ^ 52 ≤ x.significand) :=
    ⟨x.significand_lt, x.scale_le, x.normal⟩
  simp only [ofSteps, Nat.mul_div_cancel _ hden, x.log2_steps, hround, if_pos hparts.1, ofParts,
    dif_pos hparts]

/-! ## The shortest decimal of a number -/

theorem two_pow_le_ten_pow {k p : Nat} (h : k ≤ 3 * p) : 2 ^ k ≤ 10 ^ p := by
  calc 2 ^ k ≤ 2 ^ (3 * p) := Nat.pow_le_pow_right (by decide) h
    _ = (2 ^ 3) ^ p := Nat.pow_mul 2 3 p
    _ ≤ 10 ^ p := Nat.pow_le_pow_left (by decide) p

namespace Finite64

/-- The fraction of a number has its steps. -/
theorem num_mul_stepsPerUnit (x : Finite64) : x.num * stepsPerUnit = x.steps * x.den := by
  have hscale : x.scale - 1074 + 1074 = x.scale + (1074 - x.scale) := by omega
  rw [num, den, steps, stepsPerUnit, Nat.mul_assoc, Nat.mul_assoc, ← Nat.pow_add, ← Nat.pow_add,
    hscale]

theorem num_lt (x : Finite64) : x.num < 10 ^ 400 := by
  have hscale := x.scale_le
  calc x.num < 2 ^ (53 + 971) :=
        Binary64.mul_lt_two_pow x.significand_lt (Nat.pow_le_pow_right (by decide) (by omega))
    _ ≤ 10 ^ 400 := two_pow_le_ten_pow (by decide)

/-- The exact expansion of a number is the fraction of the number. -/
theorem expansion_fraction (x : Finite64) :
    x.expansion.num = 5 ^ (1074 - x.scale) * x.num ∧
      x.expansion.den = 5 ^ (1074 - x.scale) * x.den := by
  simp only [Decimal.num, Decimal.den, expansion, Int.neg_neg, Int.toNat_natCast,
    Int.toNat_neg_natCast, Nat.pow_zero, Nat.mul_one, den, ← Nat.mul_pow, and_true]
  exact Nat.mul_comm _ _

variable {x : Finite64}

/-- The exact expansion of a number is read back as the number. -/
theorem toBinary64_expansion (hx : x.significand ≠ 0) :
    x.expansion.toBinary64 x.negative = .finite x := by
  have hnum : 0 < x.num := Nat.mul_pos (Nat.pos_of_ne_zero hx) (Nat.two_pow_pos _)
  have hfive : 0 < 5 ^ (1074 - x.scale) := Nat.pow_pos (by decide)
  have hexponent : x.expansion.exponent = -((1074 - x.scale : Nat) : Int) := rfl
  obtain ⟨hup, hdown⟩ : (digits x.expansion.digits).length ≤ 1074 - x.scale + 400 ∧
      1074 - x.scale ≤ (digits x.expansion.digits).length + 400 :=
    length_digits_mul_five_pow hnum x.num_lt (two_pow_le_ten_pow (by omega))
  rw [Decimal.toBinary64_of_place (Nat.mul_ne_zero hnum.ne' hfive.ne') (by omega) (by omega),
    x.expansion_fraction.1, x.expansion_fraction.2, Binary64.ofRatio_mul_left hfive,
    Binary64.ofRatio, num_mul_stepsPerUnit, Binary64.ofSteps_steps]
  exact Nat.two_pow_pos _

/-- The shortest decimal of a number is read back as the number. -/
theorem toBinary64_shortest (tie : Tie) (hx : x.significand ≠ 0) :
    (x.shortest tie).toBinary64 x.negative = .finite x := by
  rw [shortest, Decimal.toBinary64_strip]
  cases hfound : (List.range 17).findSome?
      fun n => (x.neighbours tie (x.place - (n + 1 : Nat))).head? with
  | none =>
    rw [Option.getD_none]
    exact toBinary64_expansion hx
  | some d =>
    obtain ⟨n, -, hd⟩ := List.exists_of_findSome?_eq_some hfound
    have hmem := List.mem_of_mem_head? (Option.mem_def.2 hd)
    rw [Option.getD_some]
    exact of_decide_eq_true (List.mem_filter.1 hmem).2

end Finite64

end Logbook
