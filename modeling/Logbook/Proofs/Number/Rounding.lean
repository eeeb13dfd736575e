import Mathlib
import Logbook.Proofs.Number.Binary64

/-!
# How far a rounding goes

A number of normal size is rounded by no more than a part of `2 ^ 53` of it. `Binary64.Near` counts
roundings: a result is a rational number up to so many of them, in either direction.

* `near_ofRatio`: a rounded quotient of natural numbers is near to it by one rounding.
* `Near.div`, `Near.mul`: quotients and products of near numbers; each rounds once more.
* `ofRatio_mul_left`: a factor that both numbers share plays no part.
-/

set_option autoImplicit false

namespace Logbook

/-! ## One rounding -/

/-- Rounding to the nearest whole number goes no further than a half. -/
theorem roundHalfEven_bounds (num : Nat) {den : Nat} (hden : 0 < den) :
    2 * num ≤ (2 * roundHalfEven num den + 1) * den ∧
      2 * roundHalfEven num den * den ≤ 2 * num + den := by
  have hsplit := Nat.div_add_mod num den
  have hrest := Nat.mod_lt num hden
  have hdown : 2 * (num / den) * den = 2 * (den * (num / den)) := by ring
  simp only [roundHalfEven]
  split
  · rename_i hup
    have hnext : 2 * (num / den + 1) * den = 2 * (num / den) * den + 2 * den := by ring
    rw [Nat.add_mul, hnext, hdown]
    omega
  · rw [Nat.add_mul, hdown]
    omega

theorem roundHalfEven_mul_left {n num den : Nat} (hn : 0 < n) :
    roundHalfEven (n * num) (n * den) = roundHalfEven num den := by
  have hlt (a b : Nat) : n * a < 2 * (n * b) ↔ a < 2 * b := by
    rw [← Nat.mul_left_comm, Nat.mul_lt_mul_left hn]
  have heq (a b : Nat) : n * a = 2 * (n * b) ↔ a = 2 * b := by
    rw [← Nat.mul_left_comm, Nat.mul_right_inj hn.ne']
  simp only [roundHalfEven, Nat.mul_div_mul_left _ _ hn, Nat.mul_mod_mul_left, hlt, heq]

namespace Binary64

/-- Of two natural numbers a factor that they share plays no part in their rounded quotient. -/
theorem ofRatio_mul_left {n : Nat} (hn : 0 < n) (negative : Bool) (num den : Nat) :
    ofRatio negative (n * num) (n * den) = ofRatio negative num den := by
  simp only [ofRatio, ofSteps, Nat.mul_assoc, Nat.mul_div_mul_left _ _ hn,
    roundHalfEven_mul_left hn]

/-- A number of steps that the format reaches is rounded to a multiple of the scale's step, to the
nearest one. -/
theorem exists_ofSteps (negative : Bool) {num den : Nat} (hhigh : num / den < 2 ^ 2097) :
    ∃ x : Finite64, ofSteps negative num den = .finite x ∧ x.negative = negative ∧
      x.steps = roundHalfEven num (den * 2 ^ ((num / den).log2 - 52)) *
        2 ^ ((num / den).log2 - 52) := by
  have hfinite : (ofSteps negative num den).isFinite := isFinite_ofSteps (by decide) hhigh
  obtain ⟨hlt, hnormal⟩ := significand_bounds (num / den)
  have hround := roundHalfEven_le num (den * 2 ^ ((num / den).log2 - 52))
  rw [← Nat.div_div_eq_div_mul] at hround
  simp only [ofSteps] at hfinite ⊢
  split at hfinite
  · rename_i hsmall
    simp only [hsmall, if_true]
    unfold ofParts at hfinite ⊢
    split at hfinite
    · rename_i hparts
      rw [dif_pos hparts]
      exact ⟨_, rfl, rfl, rfl⟩
    · cases hfinite
  · rename_i hlarge
    have hcarry : roundHalfEven num (den * 2 ^ ((num / den).log2 - 52)) = 2 ^ 53 := by omega
    simp only [hlarge, if_false]
    unfold ofParts at hfinite ⊢
    split at hfinite
    · rename_i hparts
      rw [dif_pos hparts, hcarry]
      refine ⟨_, rfl, rfl, ?_⟩
      simp only [Finite64.steps]
      ring
    · cases hfinite

/-- Where a number of steps fills 53 bits, it is rounded by no more than a part of `2 ^ 53` of
it. -/
theorem exists_ofSteps_close (negative : Bool) {num den : Nat} (hden : 0 < den)
    (hlow : 2 ^ 52 * den ≤ num) (hhigh : num / den < 2 ^ 2097) :
    ∃ x : Finite64, ofSteps negative num den = .finite x ∧ x.negative = negative ∧
      2 ^ 53 * num ≤ 2 ^ 53 * (x.steps * den) + num ∧
      2 ^ 53 * (x.steps * den) ≤ 2 ^ 53 * num + num := by
  obtain ⟨x, hx, hnegative, hsteps⟩ := exists_ofSteps negative hhigh
  refine ⟨x, hx, hnegative, ?_⟩
  generalize hscale : (num / den).log2 - 52 = scale at hsteps
  have hstep : 0 < den * 2 ^ scale := Nat.mul_pos hden (Nat.two_pow_pos scale)
  obtain ⟨hbelow, habove⟩ := roundHalfEven_bounds num hstep
  have hproduct : roundHalfEven num (den * 2 ^ scale) * (den * 2 ^ scale) = x.steps * den := by
    rw [hsteps]
    ring
  -- a step of the scale is no more than a part of `2 ^ 52` of the number
  have hpart : 2 ^ 52 * (den * 2 ^ scale) ≤ num := by
    have hquotient : 2 ^ 52 ≤ num / den := (Nat.le_div_iff_mul_le hden).2 hlow
    have hlog : 52 + scale ≤ (num / den).log2 := by
      have := (Nat.le_log2 (by omega)).2 hquotient
      omega
    have hpow : 2 ^ 52 * 2 ^ scale ≤ num / den := by
      rw [← Nat.pow_add]
      exact (Nat.pow_le_pow_right (by decide) hlog).trans (Nat.log2_self_le (by omega))
    calc 2 ^ 52 * (den * 2 ^ scale) = 2 ^ 52 * 2 ^ scale * den := by ring
      _ ≤ num / den * den := Nat.mul_le_mul_right _ hpow
      _ ≤ num := Nat.div_mul_le_self _ _
  rw [Nat.add_mul, Nat.mul_assoc, hproduct, Nat.one_mul] at hbelow
  rw [Nat.mul_assoc, hproduct] at habove
  omega

end Binary64

/-! ## Several roundings -/

theorem stepsPerUnit_pos : (0 : ℚ) < stepsPerUnit := by
  exact_mod_cast zero_lt_stepsPerUnit

namespace Finite64

/-- The magnitude of a number. -/
def magnitude (x : Finite64) : ℚ := x.steps / stepsPerUnit

theorem magnitude_nonneg (x : Finite64) : 0 ≤ x.magnitude :=
  div_nonneg (Nat.cast_nonneg _) stepsPerUnit_pos.le

theorem magnitude_zero (negative : Bool) : (zero negative).magnitude = 0 := by
  have hsteps : (zero negative).steps = 0 := rfl
  rw [magnitude, hsteps, Nat.cast_zero, zero_div]

end Finite64

namespace Binary64

/-- How much of a number a rounding leaves at least. -/
def left : ℚ := 1 - 1 / 2 ^ 53

/-- A number without a sign that is `q` up to so many roundings. -/
def Near (roundings : Nat) (x : Binary64) (q : ℚ) : Prop :=
  ∃ y : Finite64, x = .finite y ∧ y.negative = false ∧
    q * left ^ roundings ≤ y.magnitude ∧ y.magnitude * left ^ roundings ≤ q

/-- Zero, or a number in the middle of the format, which stays of normal size in products and
quotients of a few numbers. -/
def InRange (q : ℚ) : Prop := q = 0 ∨ 1 / 2 ^ 200 ≤ q ∧ q ≤ 2 ^ 200

theorem left_pos : 0 < left := by norm_num [left]

theorem left_le_one : left ≤ 1 := by norm_num [left]

/-- Few roundings leave at least a half. -/
theorem half_le_left_pow {k : Nat} (hk : k ≤ 100) : 1 / 2 ≤ left ^ k := by
  calc (1 / 2 : ℚ) ≤ left ^ 100 := by norm_num [left]
    _ ≤ left ^ k := pow_le_pow_of_le_one left_pos.le left_le_one hk

/-- A step is small, and the format goes far beyond one. -/
theorem stepsPerUnit_bounds :
    (2 ^ 52 * 2 ^ 201 : ℚ) ≤ stepsPerUnit ∧ (2 ^ 201 * stepsPerUnit : ℚ) < 2 ^ 2097 := by
  rw [stepsPerUnit, Nat.cast_pow, Nat.cast_ofNat, ← pow_add, ← pow_add]
  exact ⟨pow_le_pow_right₀ one_le_two (by decide), pow_lt_pow_right₀ one_lt_two (by decide)⟩

theorem near_ofSteps {num den : Nat} (hden : 0 < den) (hlow : 2 ^ 52 * den ≤ num)
    (hhigh : num / den < 2 ^ 2097) :
    (ofSteps false num den).Near 1 (num / den / stepsPerUnit) := by
  obtain ⟨x, hx, hnegative, hbelow, habove⟩ := exists_ofSteps_close false hden hlow hhigh
  have hden' : (0 : ℚ) < den := by exact_mod_cast hden
  have hbelow' : (2 ^ 53 * num : ℚ) ≤ 2 ^ 53 * (x.steps * den) + num := by exact_mod_cast hbelow
  have habove' : (2 ^ 53 * (x.steps * den) : ℚ) ≤ 2 ^ 53 * num + num := by exact_mod_cast habove
  have hnum : (0 : ℚ) ≤ num := Nat.cast_nonneg num
  refine ⟨x, hx, hnegative, ?_, ?_⟩
  · rw [Finite64.magnitude, pow_one, div_mul_eq_mul_div,
      div_le_div_iff_of_pos_right stepsPerUnit_pos, div_mul_eq_mul_div, div_le_iff₀ hden', left]
    linarith
  · rw [Finite64.magnitude, pow_one, div_mul_eq_mul_div,
      div_le_div_iff_of_pos_right stepsPerUnit_pos, le_div_iff₀ hden', left]
    linarith

/-- What is rounded may itself be some roundings away from a number. -/
theorem Near.trans {j k : Nat} {x : Binary64} {m q : ℚ} (h : x.Near k m)
    (hbelow : q * left ^ j ≤ m) (habove : m * left ^ j ≤ q) : x.Near (j + k) q := by
  obtain ⟨y, hy, hnegative, hlow, hhigh⟩ := h
  have hj : 0 < left ^ j := pow_pos left_pos j
  have hk : 0 < left ^ k := pow_pos left_pos k
  refine ⟨y, hy, hnegative, ?_, ?_⟩
  · calc q * left ^ (j + k) = q * left ^ j * left ^ k := by ring
      _ ≤ m * left ^ k := mul_le_mul_of_nonneg_right hbelow hk.le
      _ ≤ y.magnitude := hlow
  · calc y.magnitude * left ^ (j + k) = y.magnitude * left ^ k * left ^ j := by ring
      _ ≤ m * left ^ j := mul_le_mul_of_nonneg_right hhigh hj.le
      _ ≤ q := habove

/-- A number in the middle of the format stays of normal size after a few roundings. -/
theorem normal_of_middle {j : Nat} {m q : ℚ} (hlow : 1 / 2 ^ 200 ≤ q) (hhigh : q ≤ 2 ^ 200)
    (hj : j ≤ 100) (hbelow : q * left ^ j ≤ m) (habove : m * left ^ j ≤ q) :
    1 / 2 ^ 201 ≤ m ∧ m ≤ 2 ^ 201 := by
  have hhalf := half_le_left_pow hj
  have hpos : 0 < q := lt_of_lt_of_le (by positivity) hlow
  have hm : 0 < m := lt_of_lt_of_le (mul_pos hpos (pow_pos left_pos j)) hbelow
  have hdown : q * (1 / 2) ≤ q * left ^ j := mul_le_mul_of_nonneg_left hhalf hpos.le
  have hup : m * (1 / 2) ≤ m * left ^ j := mul_le_mul_of_nonneg_left hhalf hm.le
  constructor
  · calc (1 / 2 ^ 201 : ℚ) = 1 / 2 ^ 200 * (1 / 2) := by norm_num
      _ ≤ m := by linarith
  · calc m ≤ 2 ^ 200 * 2 := by linarith
      _ = 2 ^ 201 := by norm_num

theorem ofSteps_zero (negative : Bool) (den : Nat) :
    ofSteps negative 0 den = .finite (Finite64.zero negative) := by
  have hround (d : Nat) : roundHalfEven 0 d = 0 := by simp [roundHalfEven]
  simp only [ofSteps, hround, Nat.zero_div]
  rfl

/-- A number of steps is rounded once more than what it is taken from. -/
theorem near_ofSteps_of_near {j num den : Nat} {q : ℚ} (hden : 0 < den) (hq : InRange q)
    (hj : j ≤ 100) (hbelow : q * left ^ j ≤ num / den / stepsPerUnit)
    (habove : (num / den / stepsPerUnit : ℚ) * left ^ j ≤ q) :
    (ofSteps false num den).Near (j + 1) q := by
  have hden' : (0 : ℚ) < den := by exact_mod_cast hden
  obtain rfl | ⟨hmiddle, hmiddle'⟩ := hq
  · have hnone : (num / den / stepsPerUnit : ℚ) ≤ 0 :=
      nonpos_of_mul_nonpos_left habove (pow_pos left_pos j)
    rw [div_le_iff₀ stepsPerUnit_pos, zero_mul, div_le_iff₀ hden', zero_mul, Nat.cast_nonpos]
      at hnone
    rw [hnone, ofSteps_zero]
    refine ⟨_, rfl, rfl, ?_, ?_⟩
    · rw [Finite64.magnitude_zero, zero_mul]
    · rw [Finite64.magnitude_zero, zero_mul]
  obtain ⟨hlow, hhigh⟩ := normal_of_middle hmiddle hmiddle' hj hbelow habove
  obtain ⟨hsmall, hlarge⟩ := stepsPerUnit_bounds
  refine (near_ofSteps hden ?_ ?_).trans hbelow habove
  · have hsteps : (2 ^ 52 : ℚ) ≤ num / den := by
      rw [le_div_iff₀ stepsPerUnit_pos, one_div, inv_mul_le_iff₀ (by positivity)] at hlow
      linarith
    have hsteps := (le_div_iff₀ hden').1 hsteps
    exact_mod_cast hsteps
  · rw [Nat.div_lt_iff_lt_mul hden]
    have hsteps : (num / den : ℚ) < 2 ^ 2097 :=
      lt_of_le_of_lt ((div_le_iff₀ stepsPerUnit_pos).1 hhigh) hlarge
    have hsteps := (div_lt_iff₀ hden').1 hsteps
    exact_mod_cast hsteps

/-- A quotient of natural numbers is rounded once. -/
theorem near_ofRatio {num den : Nat} (hden : 0 < den) (hq : InRange (num / den)) :
    (ofRatio false num den).Near 1 (num / den) := by
  have hsteps : ((num * stepsPerUnit : Nat) / den / stepsPerUnit : ℚ) = num / den := by
    rw [Nat.cast_mul, div_right_comm, mul_div_assoc, div_self stepsPerUnit_pos.ne', mul_one]
  rw [ofRatio]
  refine near_ofSteps_of_near (j := 0) hden hq (by decide) ?_ ?_
  · rw [hsteps, pow_zero, mul_one]
  · rw [hsteps, pow_zero, mul_one]

theorem near_ofNat {n : Nat} (hn : InRange n) : (ofNat n).Near 1 n := by
  have hone : InRange (n / (1 : Nat)) := by rwa [Nat.cast_one, div_one]
  have h := near_ofRatio Nat.one_pos hone
  rwa [Nat.cast_one, div_one] at h

theorem Near.of_magnitude_eq {y : Finite64} (hnegative : y.negative = false) :
    (Binary64.finite y).Near 0 y.magnitude :=
  ⟨y, rfl, hnegative, by rw [pow_zero, mul_one], by rw [pow_zero, mul_one]⟩

/-- What is near to a positive number has steps. -/
theorem steps_pos {k : Nat} {y : Finite64} {q : ℚ} (hq : 0 < q)
    (h : q * left ^ k ≤ y.magnitude) : 0 < y.steps := by
  have hpos : 0 < y.magnitude := lt_of_lt_of_le (mul_pos hq (pow_pos left_pos k)) h
  refine Nat.pos_of_ne_zero fun hzero => ?_
  rw [Finite64.magnitude, hzero, Nat.cast_zero, zero_div] at hpos
  exact lt_irrefl _ hpos

/-- A quotient is rounded once more than its two numbers. -/
theorem Near.div {j k : Nat} {x y : Binary64} {p q : ℚ} (hx : x.Near j p) (hy : y.Near k q)
    (hp : 0 ≤ p) (hq : 0 < q) (hrange : InRange (p / q)) (hk : j + k ≤ 100) :
    (x.div y).Near (j + k + 1) (p / q) := by
  obtain ⟨a, rfl, ha, hpa, hap⟩ := hx
  obtain ⟨b, rfl, hb, hqb, hbq⟩ := hy
  have hk' : 0 < left ^ k := pow_pos left_pos k
  have hapos : 0 ≤ a.magnitude := a.magnitude_nonneg
  have hbpos : 0 < b.magnitude := lt_of_lt_of_le (mul_pos hq hk') hqb
  have hsteps : 0 < b.steps := steps_pos hq hqb
  have hquotient : ((a.steps * stepsPerUnit : Nat) / b.steps / stepsPerUnit : ℚ) =
      a.magnitude / b.magnitude := by
    rw [Finite64.magnitude, Finite64.magnitude, Nat.cast_mul,
      div_div_div_cancel_right₀ stepsPerUnit_pos.ne', div_right_comm, mul_div_assoc,
      div_self stepsPerUnit_pos.ne', mul_one]
  rw [Binary64.div, if_neg hsteps.ne', ha, hb, bne_self_eq_false, ofRatio]
  refine near_ofSteps_of_near hsteps hrange hk ?_ ?_
  · rw [hquotient, div_mul_eq_mul_div, div_le_div_iff₀ hq hbpos]
    calc p * left ^ (j + k) * b.magnitude = p * left ^ j * (b.magnitude * left ^ k) := by ring
      _ ≤ a.magnitude * q := mul_le_mul hpa hbq (mul_pos hbpos hk').le hapos
  · rw [hquotient, div_mul_eq_mul_div, div_le_div_iff₀ hbpos hq]
    calc a.magnitude * left ^ (j + k) * q = a.magnitude * left ^ j * (q * left ^ k) := by ring
      _ ≤ p * b.magnitude := mul_le_mul hap hqb (mul_pos hq hk').le hp

/-- A product is rounded once more than its two numbers. -/
theorem Near.mul {j k : Nat} {x y : Binary64} {p q : ℚ} (hx : x.Near j p) (hy : y.Near k q)
    (hp : 0 ≤ p) (hq : 0 ≤ q) (hrange : InRange (p * q)) (hk : j + k ≤ 100) :
    (x.mul y).Near (j + k + 1) (p * q) := by
  obtain ⟨a, rfl, ha, hpa, hap⟩ := hx
  obtain ⟨b, rfl, hb, hqb, hbq⟩ := hy
  have hk' : 0 < left ^ k := pow_pos left_pos k
  have hproduct : ((a.steps * b.steps : Nat) / stepsPerUnit / stepsPerUnit : ℚ) =
      a.magnitude * b.magnitude := by
    rw [Finite64.magnitude, Finite64.magnitude, Nat.cast_mul, div_mul_div_comm, div_div]
  rw [Binary64.mul, ha, hb, bne_self_eq_false]
  refine near_ofSteps_of_near (by exact_mod_cast stepsPerUnit_pos) hrange hk ?_ ?_
  · rw [hproduct]
    calc p * q * left ^ (j + k) = p * left ^ j * (q * left ^ k) := by ring
      _ ≤ a.magnitude * b.magnitude :=
        mul_le_mul hpa hqb (mul_nonneg hq hk'.le) a.magnitude_nonneg
  · rw [hproduct]
    calc a.magnitude * b.magnitude * left ^ (j + k) =
        a.magnitude * left ^ j * (b.magnitude * left ^ k) := by ring
      _ ≤ p * q := mul_le_mul hap hbq (mul_nonneg b.magnitude_nonneg hk'.le) hp

/-- Of a positive number the quotient by itself is one. -/
theorem Near.div_self {k : Nat} {x : Binary64} {q : ℚ} (hx : x.Near k q) (hq : 0 < q) :
    x.div x = ofNat 1 := by
  obtain ⟨y, rfl, hnegative, hbelow, -⟩ := hx
  have hsteps : 0 < y.steps := steps_pos hq hbelow
  have hone := ofRatio_mul_left hsteps false 1 1
  rw [Nat.mul_one] at hone
  rw [Binary64.div, if_neg hsteps.ne', hnegative, bne_self_eq_false, hone, ofNat]

/-- Four roundings change a number by no more than a part of `2 ^ 50` of it. -/
theorem Near.four {x : Binary64} {q : ℚ} (hx : x.Near 4 q) (hq : 0 ≤ q) :
    ∃ y : Finite64, x = .finite y ∧ y.negative = false ∧ |y.magnitude - q| ≤ q / 2 ^ 50 := by
  obtain ⟨y, hy, hnegative, hbelow, habove⟩ := hx
  have hleft : 1 - 1 / 2 ^ 51 ≤ left ^ 4 := by norm_num [left]
  have hlow := mul_le_mul_of_nonneg_left hleft hq
  have hhigh := mul_le_mul_of_nonneg_left hleft y.magnitude_nonneg
  refine ⟨y, hy, hnegative, abs_le.2 ⟨?_, ?_⟩⟩
  · linarith
  · linarith

end Binary64

/-! ## Whole numbers -/

/-- A whole number is the nearest to `q`, or of the two nearest ones the one away from zero. -/
def IsRoundedHalfAway (q : ℚ) (n : ℤ) : Prop :=
  |q - n| ≤ 1 / 2 ∧ (|q - n| = 1 / 2 → |q| ≤ |(n : ℚ)|)

namespace Finite64

/-- A number as a fraction. -/
def value (x : Finite64) : ℚ := if x.negative then -x.magnitude else x.magnitude

/-- Half a unit more than a magnitude is cut to the nearest whole number. -/
theorem magnitude_bounds (x : Finite64) {n : Nat}
    (hn : (2 * x.steps + stepsPerUnit) / (2 * stepsPerUnit) = n) :
    n - 1 / 2 ≤ x.magnitude ∧ x.magnitude < n + 1 / 2 := by
  have hunit := zero_lt_stepsPerUnit
  have hbelow : n * (2 * stepsPerUnit) ≤ 2 * x.steps + stepsPerUnit :=
    hn ▸ Nat.div_mul_le_self _ _
  have habove : 2 * x.steps + stepsPerUnit < (n + 1) * (2 * stepsPerUnit) :=
    Nat.lt_mul_of_div_lt (hn ▸ Nat.lt_succ_self n) (by omega)
  have hbelow' : (n * (2 * stepsPerUnit) : ℚ) ≤ 2 * x.steps + stepsPerUnit := by
    exact_mod_cast hbelow
  have habove' : (2 * x.steps + stepsPerUnit : ℚ) < (n + 1) * (2 * stepsPerUnit) := by
    exact_mod_cast habove
  constructor
  · rw [magnitude, le_div_iff₀ stepsPerUnit_pos]
    linarith
  · rw [magnitude, div_lt_iff₀ stepsPerUnit_pos]
    linarith

theorem isRoundedHalfAway_roundHalfAway (x : Finite64) :
    IsRoundedHalfAway x.value x.roundHalfAway := by
  generalize hn : (2 * x.steps + stepsPerUnit) / (2 * stepsPerUnit) = n
  obtain ⟨hbelow, habove⟩ := x.magnitude_bounds hn
  have hnear : |x.magnitude - n| ≤ 1 / 2 := abs_le.2 ⟨by linarith, by linarith⟩
  have htie : |x.magnitude - n| = 1 / 2 → |x.magnitude| ≤ |(n : ℚ)| := by
    intro heq
    obtain h | h := (abs_eq (by norm_num)).1 heq
    · linarith
    · exact abs_le_abs_of_nonneg x.magnitude_nonneg (by linarith)
  unfold value roundHalfAway
  simp only [hn]
  split
  · rw [IsRoundedHalfAway, Int.cast_neg, Int.cast_natCast, neg_sub_neg, abs_sub_comm, abs_neg,
      abs_neg]
    exact ⟨hnear, htie⟩
  · exact ⟨hnear, htie⟩

end Finite64

/-- A finite number is rounded to a word with a sign: to the nearest whole number, a half away from
zero, and to the end of the words beyond which that lies. -/
theorem Binary64.toInt_roundToInt64 (x : Finite64) :
    ∃ n, IsRoundedHalfAway x.value n ∧
      (Binary64.finite x).roundToInt64.toInt = max (-2 ^ 63) (min n (2 ^ 63 - 1)) :=
  ⟨x.roundHalfAway, x.isRoundedHalfAway_roundHalfAway, toInt_clampInt64 _⟩

end Logbook
