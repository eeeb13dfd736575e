import Mathlib.Data.Nat.Log
import Logbook.Number.Binary64

/-!
# Finite numbers

* `isFinite_ofSteps`: a number of steps that the format reaches is rounded to a finite number, so
  every integer of 64 bits is (`isFinite_ofInt`).
* `eq_of_steps_eq`: the number of steps determines significand and scale, so two finite numbers
  that are equal are the same data or the two zeros (`Binary64.order?_finite_eq_iff`). The same
  goes for all numbers but `nan` (`Binary64.order?_eq_iff`).
-/

set_option autoImplicit false

namespace Logbook

theorem log2_mul_two_pow {n : Nat} (h : n ≠ 0) (k : Nat) : (n * 2 ^ k).log2 = n.log2 + k := by
  have hpos : 0 < 2 ^ k := Nat.two_pow_pos k
  rw [Nat.log2_eq_iff (Nat.mul_ne_zero h hpos.ne'), Nat.add_right_comm, Nat.pow_add, Nat.pow_add]
  exact ⟨Nat.mul_le_mul_right _ (Nat.log2_self_le h),
    (Nat.mul_lt_mul_right hpos).2 Nat.lt_log2_self⟩

theorem zero_lt_stepsPerUnit : 0 < stepsPerUnit := by
  unfold stepsPerUnit
  apply Nat.two_pow_pos

/-! ## Rounding -/

theorem le_roundHalfEven (num den : Nat) : num / den ≤ roundHalfEven num den := by
  simp only [roundHalfEven]
  split <;> omega

theorem roundHalfEven_le (num den : Nat) : roundHalfEven num den ≤ num / den + 1 := by
  simp only [roundHalfEven]
  split <;> omega

namespace Binary64

theorem isFinite_ofParts {negative : Bool} {significand scale : Nat}
    (hlt : significand < 2 ^ 53) (hscale : scale ≤ 2045)
    (hnormal : scale = 0 ∨ 2 ^ 52 ≤ significand) :
    (ofParts negative significand scale).isFinite := by
  rw [ofParts, dif_pos ⟨hlt, hscale, hnormal⟩]
  rfl

/-- The scale leaves 53 bits to the significand, the first of them a one unless the scale is
zero. -/
theorem significand_bounds (n : Nat) :
    n / 2 ^ (n.log2 - 52) < 2 ^ 53 ∧ (n.log2 - 52 = 0 ∨ 2 ^ 52 ≤ n / 2 ^ (n.log2 - 52)) := by
  have hpos : 0 < 2 ^ (n.log2 - 52) := Nat.two_pow_pos _
  constructor
  · rw [Nat.div_lt_iff_lt_mul hpos, ← Nat.pow_add]
    have hlt : n < 2 ^ (n.log2 + 1) := Nat.lt_log2_self
    exact Nat.lt_of_lt_of_le hlt (Nat.pow_le_pow_right (by decide) (by omega))
  · by_cases hzero : n.log2 - 52 = 0
    · exact .inl hzero
    · right
      have hn : n ≠ 0 := by
        rintro rfl
        exact hzero rfl
      rw [Nat.le_div_iff_mul_le hpos, ← Nat.pow_add]
      calc 2 ^ (52 + (n.log2 - 52)) ≤ 2 ^ n.log2 := Nat.pow_le_pow_right (by decide) (by omega)
        _ ≤ n := Nat.log2_self_le hn

/-- A number of steps that the format reaches is rounded to a finite number. -/
theorem isFinite_ofSteps {negative : Bool} {num den bits : Nat} (hbits : bits ≤ 2097)
    (h : num / den < 2 ^ bits) : (ofSteps negative num den).isFinite := by
  obtain ⟨hlt, hnormal⟩ := significand_bounds (num / den)
  have hscale : (num / den).log2 - 52 ≤ 2044 := by
    by_cases hzero : num / den = 0
    · rw [hzero]
      decide
    · have := (Nat.log2_lt hzero).2 h
      omega
  have hlow := le_roundHalfEven num (den * 2 ^ ((num / den).log2 - 52))
  have hhigh := roundHalfEven_le num (den * 2 ^ ((num / den).log2 - 52))
  rw [← Nat.div_div_eq_div_mul] at hlow hhigh
  simp only [ofSteps]
  split
  · rename_i hround
    exact isFinite_ofParts hround (by omega) (hnormal.imp id fun h => Nat.le_trans h hlow)
  · exact isFinite_ofParts (by decide) (by omega) (.inr (Nat.le_refl _))

theorem mul_lt_two_pow {n k a b : Nat} (hn : n < 2 ^ a) (hk : k ≤ 2 ^ b) :
    n * k < 2 ^ (a + b) := by
  calc n * k ≤ n * 2 ^ b := Nat.mul_le_mul_left n hk
    _ < 2 ^ a * 2 ^ b := (Nat.mul_lt_mul_right (Nat.two_pow_pos b)).2 hn
    _ = 2 ^ (a + b) := (Nat.pow_add 2 a b).symm

/-- An integer of 64 bits is rounded to a finite number. -/
theorem isFinite_ofInt {n : Int} (hlow : -2 ^ 63 ≤ n) (hhigh : n < 2 ^ 64) :
    (ofInt n).isFinite := by
  have habs : n.natAbs < 2 ^ 64 := by omega
  have hsteps := mul_lt_two_pow habs (Nat.le_of_eq stepsPerUnit.eq_1)
  rw [ofInt, ofRatio]
  rw [← Nat.div_one (n.natAbs * stepsPerUnit)] at hsteps
  exact isFinite_ofSteps (by decide) hsteps

end Binary64

/-! ## Equal numbers -/

namespace Finite64

/-- Of two numbers with the same steps neither has the greater scale: the significand of the other
would not fit. -/
theorem scale_le_of_steps_eq {x y : Finite64} (h : x.steps = y.steps) : y.scale ≤ x.scale := by
  refine Nat.le_of_not_lt fun hlt => ?_
  have hy : 2 ^ 52 ≤ y.significand := y.normal.resolve_left (by omega)
  have hx := x.significand_lt
  have hpos : 0 < 2 ^ x.scale := Nat.two_pow_pos _
  obtain ⟨d, hd⟩ := Nat.exists_eq_add_of_lt hlt
  have hsplit : x.significand = y.significand * (2 * 2 ^ d) := by
    refine Nat.eq_of_mul_eq_mul_right hpos ?_
    calc x.significand * 2 ^ x.scale = y.significand * 2 ^ y.scale := h
      _ = y.significand * (2 * 2 ^ d) * 2 ^ x.scale := by
        rw [hd, Nat.pow_succ, Nat.pow_add]
        ac_rfl
  have hlarge := Nat.mul_le_mul hy (Nat.mul_le_mul_left 2 (Nat.one_le_two_pow (n := d)))
  rw [← hsplit] at hlarge
  omega

/-- The number of steps determines significand and scale. -/
theorem eq_of_steps_eq {x y : Finite64} (h : x.steps = y.steps) :
    x.significand = y.significand ∧ x.scale = y.scale := by
  have hscale : x.scale = y.scale :=
    Nat.le_antisymm (scale_le_of_steps_eq h.symm) (scale_le_of_steps_eq h)
  refine ⟨Nat.eq_of_mul_eq_mul_right (Nat.two_pow_pos x.scale) ?_, hscale⟩
  calc x.significand * 2 ^ x.scale = y.significand * 2 ^ y.scale := h
    _ = y.significand * 2 ^ x.scale := by rw [hscale]

/-- The sign and the number of steps determine a number. -/
theorem eq_of_negative_of_steps {x y : Finite64} (hnegative : x.negative = y.negative)
    (hsteps : x.steps = y.steps) : x = y := by
  obtain ⟨hsignificand, hscale⟩ := eq_of_steps_eq hsteps
  obtain ⟨⟩ := x
  obtain ⟨⟩ := y
  simp_all

theorem steps_eq_zero_iff {x : Finite64} : x.steps = 0 ↔ x.significand = 0 := by
  rw [steps, Nat.mul_eq_zero, or_iff_left (Nat.two_pow_pos _).ne']

theorem eq_zero_of_significand {x : Finite64} (h : x.significand = 0) : x = zero x.negative := by
  refine eq_of_negative_of_steps rfl ?_
  rw [steps, h, Nat.zero_mul]
  rfl

/-- The number, or zero without a sign where it is a zero. -/
def unsigned (x : Finite64) : Finite64 := if x.significand = 0 then zero false else x

theorem signedSteps_unsigned (x : Finite64) : x.unsigned.signedSteps = x.signedSteps := by
  unfold unsigned
  split
  · rename_i hzero
    simp [signedSteps, steps, hzero, zero]
  · rfl

theorem unsigned_ne_zero_true (x : Finite64) : x.unsigned ≠ zero true := by
  unfold unsigned
  split
  · decide
  · rename_i h
    rintro rfl
    exact h rfl

/-- Two finite numbers of one value are the same data, unless they are the two zeros. -/
theorem signedSteps_eq_iff {x y : Finite64} :
    x.signedSteps = y.signedSteps ↔ x.unsigned = y.unsigned := by
  constructor
  · intro h
    have hsteps : x.steps = y.steps := by
      unfold signedSteps at h
      split at h <;> split at h <;> omega
    obtain ⟨hsignificand, hscale⟩ := eq_of_steps_eq hsteps
    by_cases hzero : x.significand = 0
    · rw [unsigned, unsigned, if_pos hzero, if_pos (hsignificand ▸ hzero)]
    · rw [unsigned, unsigned, if_neg hzero, if_neg (hsignificand ▸ hzero)]
      have hpos : 0 < x.steps := Nat.mul_pos (Nat.pos_of_ne_zero hzero) (Nat.two_pow_pos _)
      have hnegative : x.negative = y.negative := by
        unfold signedSteps at h
        cases hx : x.negative <;> cases hy : y.negative <;> simp [hx, hy] at h ⊢ <;> omega
      exact eq_of_negative_of_steps hnegative hsteps
  · intro h
    rw [← signedSteps_unsigned x, ← signedSteps_unsigned y, h]

end Finite64

namespace Binary64

/-- Finite numbers are equal when they are the same data or the two zeros. -/
theorem order?_finite_eq_iff {x y : Finite64} :
    (finite x).order? (finite y) = some .eq ↔ x.unsigned = y.unsigned := by
  rw [order?, Option.some_inj, Int.compare_eq_eq, Finite64.signedSteps_eq_iff]

/-- The number, or zero without a sign where it is a zero. -/
def unsigned : Binary64 → Binary64
  | .finite x => .finite x.unsigned
  | x => x

/-- The sign of a zero plays no part in the order of numbers. -/
theorem order?_unsigned (x y : Binary64) : x.unsigned.order? y.unsigned = x.order? y := by
  cases x <;> cases y <;> simp only [unsigned, order?, Finite64.signedSteps_unsigned]

theorem order?_unsigned_left (x y : Binary64) : x.unsigned.order? y = x.order? y := by
  cases x <;> cases y <;> simp only [unsigned, order?, Finite64.signedSteps_unsigned]

theorem order?_nan_right (x : Binary64) : x.order? .nan = none := by
  cases x <;> rfl

/-- Zero has to lose its sign only where it has one. -/
theorem unsigned_of_ne {x : Binary64} (h : x ≠ .finite (.zero true)) : x.unsigned = x := by
  cases x with
  | nan => rfl
  | infinite negative => rfl
  | finite x =>
    rw [unsigned, Finite64.unsigned]
    split
    · rename_i hzero
      have hx := Finite64.eq_zero_of_significand hzero
      cases hnegative : x.negative with
      | false => rw [hx, hnegative]
      | true => exact absurd (by rw [hx, hnegative]) h
    · rfl

/-- Numbers are equal when they are the same data or the two zeros. -/
theorem order?_eq_iff {x y : Binary64} :
    x.order? y = some .eq ↔ x ≠ .nan ∧ x.unsigned = y.unsigned := by
  cases x with
  | nan => simp [order?]
  | infinite s =>
    cases y with
    | nan => simp [order?, unsigned]
    | infinite t => cases s <;> cases t <;> simp [order?, unsigned]
    | finite y => cases s <;> simp [order?, unsigned]
  | finite x =>
    cases y with
    | nan => simp [order?, unsigned]
    | infinite t => cases t <;> simp [order?, unsigned]
    | finite y => simp [order?_finite_eq_iff, unsigned]

end Binary64

/-! ## Whole numbers of 64 bits -/

theorem toInt_clampInt64 (n : Int) :
    (clampInt64 n).toInt = max (-2 ^ 63) (min n (2 ^ 63 - 1)) := by
  have hmin : Int64.minValue.toInt = -2 ^ 63 := by decide
  have hmax : Int64.maxValue.toInt = 2 ^ 63 - 1 := by decide
  rw [clampInt64, hmin, hmax, Int64.toInt_ofInt_of_le (by omega) (by omega)]

end Logbook
