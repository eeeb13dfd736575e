import Logbook.Proofs.Number.PlainText

/-!
# Whole numbers in plain text

The search for the shortest decimal of a whole number looks at multiples of a power of ten, and it
does not go beyond the multiples of one, where the number itself is found. Below `2 ^ 53` every
whole number is a number of the format, so that the decimal it finds is no other whole number
(`Finite64.shortest_whole`). `Layout.text_whole`: below `10 ^ 15` a whole number is written as the
integer that it is.
-/

set_option autoImplicit false

namespace Logbook

/-- Of a search that succeeds at `j` the result is found there or before. -/
theorem exists_findSome?_range {α : Type} {f : Nat → Option α} {j k : Nat} (hj : j < k)
    (hsome : (f j).isSome) : ∃ i ≤ j, ∃ a, (List.range k).findSome? f = some a ∧ f i = some a := by
  induction k with
  | zero => omega
  | succ k ih =>
    rw [List.range_succ, List.findSome?_append]
    by_cases hjk : j < k
    · obtain ⟨i, hi, a, hfound, ha⟩ := ih hjk
      exact ⟨i, hi, a, by rw [hfound, Option.some_or], ha⟩
    · obtain rfl : j = k := by omega
      cases hfound : (List.range j).findSome? f with
      | none =>
        obtain ⟨a, ha⟩ := Option.isSome_iff_exists.1 hsome
        exact ⟨j, le_rfl, a, by simp [ha], ha⟩
      | some a =>
        obtain ⟨i, hi, ha⟩ := List.exists_of_findSome?_eq_some hfound
        exact ⟨i, (List.mem_range.1 hi).le, a, rfl, ha⟩

/-! ## Whole numbers of the format -/

namespace Finite64

/-- Whole numbers below `2 ^ 53` are numbers of the format. -/
theorem exists_whole (negative : Bool) {n : Nat} (hpos : n ≠ 0) (hn : n < 2 ^ 53) :
    ∃ x : Finite64, x.negative = negative ∧ x.steps = n * stepsPerUnit := by
  have hlow := Nat.log2_self_le hpos
  have hhigh : n < 2 ^ (n.log2 + 1) := Nat.lt_log2_self
  have hlog : n.log2 < 53 := (Nat.log2_lt hpos).2 hn
  have hpower (k : Nat) : 2 ^ k * 2 ^ (52 - n.log2) = 2 ^ (k + (52 - n.log2)) :=
    (Nat.pow_add 2 k _).symm
  refine ⟨⟨negative, n * 2 ^ (52 - n.log2), 1022 + n.log2, ?_, by omega, .inr ?_⟩, rfl, ?_⟩
  · calc n * 2 ^ (52 - n.log2) < 2 ^ (n.log2 + 1) * 2 ^ (52 - n.log2) :=
          (Nat.mul_lt_mul_right (Nat.two_pow_pos _)).2 hhigh
      _ = 2 ^ 53 := by rw [hpower]; congr 1; omega
  · calc 2 ^ 52 = 2 ^ n.log2 * 2 ^ (52 - n.log2) := by rw [hpower]; congr 1; omega
      _ ≤ n * 2 ^ (52 - n.log2) := Nat.mul_le_mul_right _ hlow
  · have hunit : 2 ^ (52 - n.log2 + (1022 + n.log2)) = stepsPerUnit := by
      rw [stepsPerUnit]
      congr 1
      omega
    simp only [steps]
    rw [Nat.mul_assoc, ← Nat.pow_add, hunit]

end Finite64

namespace Decimal

/-- A whole number that the format has is read as itself. -/
theorem toBinary64_whole {x : Finite64} {n : Nat} (hpos : n ≠ 0) (hn : n < 2 ^ 53)
    (hsteps : x.steps = n * stepsPerUnit) : toBinary64 x.negative ⟨n, 0⟩ = .finite x := by
  obtain ⟨hlow, -⟩ := bounds_length_digits hpos
  have hlength : (Logbook.digits n).length - 1 < 16 := by
    by_contra hlong
    have hpower : 10 ^ 16 ≤ 10 ^ ((Logbook.digits n).length - 1) :=
      Nat.pow_le_pow_right (by decide) (by omega)
    omega
  rw [toBinary64_of_place hpos (by simp only [add_zero]; omega) (by simp only [add_zero]; omega)]
  simp only [num, den, Binary64.ofRatio]
  have hexact := Binary64.ofSteps_steps x Nat.one_pos
  rw [Nat.mul_one, hsteps] at hexact
  simpa using hexact

/-- What is read from a whole number below `2 ^ 53` is this number. -/
theorem steps_of_toBinary64_whole {x : Finite64} {negative : Bool} {n : Nat} (hn : n < 2 ^ 53)
    (h : toBinary64 negative ⟨n, 0⟩ = .finite x) : x.steps = n * stepsPerUnit := by
  by_cases hpos : n = 0
  · simp only [hpos, toBinary64, if_true, Binary64.finite.injEq] at h
    rw [← h, hpos, Nat.zero_mul]
    exact Nat.zero_mul _
  · obtain ⟨y, rfl, hy⟩ := Finite64.exists_whole negative hpos hn
    rw [toBinary64_whole hpos hn hy, Binary64.finite.injEq] at h
    rw [← h, hy]

end Decimal

/-! ## The shortest decimal of a whole number -/

namespace Finite64

section

variable {x : Finite64} {n : Nat}

theorem num_of_whole (hx : x.steps = n * stepsPerUnit) : x.num = n * x.den := by
  refine Nat.eq_of_mul_eq_mul_right zero_lt_stepsPerUnit ?_
  calc x.num * stepsPerUnit = x.steps * x.den := x.num_mul_stepsPerUnit
    _ = n * x.den * stepsPerUnit := by rw [hx]; ring

/-- The place of the first digit is found among the first places. -/
theorem place_bounds_of_whole (hx : x.steps = n * stepsPerUnit) (hpos : n ≠ 0) (hn : n < 10 ^ 15) :
    1 ≤ x.place ∧ x.place ≤ 16 := by
  have hden : 0 < x.den := Nat.two_pow_pos _
  have hnum := num_of_whole hx
  have hlog : x.num.log2 = n.log2 + x.den.log2 := by
    rw [hnum, den, log2_mul_two_pow hpos, Nat.log2_two_pow]
  have hlog' : n.log2 < 50 := (Nat.log2_lt hpos).2 (by omega)
  have hbelow (p : Int) : x.num * 10 ^ (-p).toNat < x.den * 10 ^ p.toNat ↔
      n * 10 ^ (-p).toNat < 10 ^ p.toNat := by
    rw [hnum, Nat.mul_comm n, Nat.mul_assoc, Nat.mul_lt_mul_left hden]
  simp only [place, hbelow, hlog]
  generalize hguess : (((n.log2 + x.den.log2 : Nat) : Int) - x.den.log2) * 1233 / 4096 = guess
  have hguess' : 0 ≤ guess ∧ guess ≤ 14 := by omega
  cases hfind : [guess - 1, guess, guess + 1, guess + 2].find? fun p =>
      decide (n * 10 ^ (-p).toNat < 10 ^ p.toNat) with
  | none =>
    rw [Option.getD_none]
    have hlast := List.find?_eq_none.1 hfind (guess + 2) (by simp)
    have hnegative : (-(guess + 2)).toNat = 0 := by omega
    rw [decide_eq_true_eq, hnegative, Nat.pow_zero, Nat.mul_one, Nat.not_lt] at hlast
    have hshort : (guess + 2).toNat < 15 :=
      (Nat.pow_lt_pow_iff_right (by decide)).1 (Nat.lt_of_le_of_lt hlast hn)
    omega
  | some p =>
    rw [Option.getD_some]
    have hp : n * 10 ^ (-p).toNat < 10 ^ p.toNat := by
      simpa only [decide_eq_true_eq] using List.find?_some hfind
    have hmem := List.mem_of_find?_eq_some hfind
    constructor
    · by_contra hlow
      have hzero : p.toNat = 0 := by omega
      rw [hzero, Nat.pow_zero] at hp
      have hlarge : 0 < n * 10 ^ (-p).toNat :=
        Nat.mul_pos (Nat.pos_of_ne_zero hpos) (Nat.pow_pos (by decide))
      omega
    · simp only [List.mem_cons, List.not_mem_nil, or_false] at hmem
      omega

/-- On the grid of the whole numbers the number itself is found. -/
theorem neighbours_zero (tie : Tie) (hx : x.steps = n * stepsPerUnit) (hpos : n ≠ 0)
    (hn : n < 10 ^ 15) : x.neighbours tie 0 = [⟨n, 0⟩] := by
  have hden : 0 < x.den := Nat.two_pow_pos _
  have hread := Decimal.toBinary64_whole hpos (hn.trans (by decide)) hx
  simp [neighbours, num_of_whole hx, Nat.mul_div_cancel _ hden, hread]

/-- On the coarser grids no other whole number is. -/
theorem eq_of_mem_neighbours {tie : Tie} (hx : x.steps = n * stepsPerUnit) (hn : n < 10 ^ 15)
    {k : Nat} (hk : k ≤ 15) {d : Decimal} (hd : d ∈ x.neighbours tie k) :
    ∃ m, d = ⟨m, k⟩ ∧ m * 10 ^ k = n := by
  have hden : 0 < x.den := Nat.two_pow_pos _
  simp only [neighbours, List.mem_filter, List.mem_map, decide_eq_true_eq] at hd
  obtain ⟨⟨m, hm, rfl⟩, hread⟩ := hd
  rw [Int.toNat_neg_natCast, Int.toNat_natCast, Nat.pow_zero, Nat.mul_one, num_of_whole hx,
    Nat.mul_comm n, Nat.mul_div_mul_left _ _ hden] at hm
  have hle : m ≤ n / 10 ^ k + 1 := by
    split at hm <;> [skip; split at hm <;> [skip; split at hm]] <;>
      simp only [List.mem_cons, List.not_mem_nil, or_false] at hm <;> omega
  have hsize : m * 10 ^ k < 2 ^ 53 := by
    have hpower : 10 ^ k ≤ 10 ^ 15 := Nat.pow_le_pow_right (by decide) hk
    calc m * 10 ^ k ≤ (n / 10 ^ k + 1) * 10 ^ k := Nat.mul_le_mul_right _ hle
      _ = n / 10 ^ k * 10 ^ k + 10 ^ k := Nat.succ_mul _ _
      _ ≤ n + 10 ^ 15 := Nat.add_le_add (Nat.div_mul_le_self n _) hpower
      _ < 2 ^ 53 := by omega
  have hzero : Decimal.toBinary64 x.negative ⟨m * 10 ^ k, 0⟩ = .finite x := by
    rw [Decimal.toBinary64_mul_pow, zero_add, hread]
  have hsteps := Decimal.steps_of_toBinary64_whole hsize hzero
  rw [hx] at hsteps
  exact ⟨m, rfl, (Nat.eq_of_mul_eq_mul_right zero_lt_stepsPerUnit hsteps).symm⟩

/-- The shortest decimal of a whole number is this number, with its last zeros in the exponent. -/
theorem shortest_whole (tie : Tie) (hx : x.steps = n * stepsPerUnit) (hpos : n ≠ 0)
    (hn : n < 10 ^ 15) : ∃ m k : Nat, x.shortest tie = ⟨m, k⟩ ∧ m * 10 ^ k = n := by
  obtain ⟨hlow, hhigh⟩ := place_bounds_of_whole hx hpos hn
  -- the grid of the whole numbers comes `place` steps after the coarsest one
  obtain ⟨j, hj⟩ : ∃ j : Nat, x.place = (j + 1 : Nat) := ⟨(x.place - 1).toNat, by omega⟩
  obtain ⟨i, hi, d, hfound, hd⟩ := exists_findSome?_range (k := 17)
    (f := fun i => (x.neighbours tie (x.place - (i + 1 : Nat))).head?) (j := j) (by omega)
    (by simp only [hj, sub_self, neighbours_zero tie hx hpos hn]; rfl)
  have hgrid : x.place - (i + 1 : Nat) = (j - i : Nat) := by omega
  rw [hgrid] at hd
  obtain ⟨m, rfl, hm⟩ := eq_of_mem_neighbours hx hn (by omega) (List.mem_of_mem_head? hd)
  obtain ⟨m', hm'⟩ := Decimal.pow_dvd_of_zeros m
  simp only [shortest, hfound, Option.getD_some, Decimal.strip]
  generalize ((digits m).reverse.takeWhile (· == '0')).length = zeros at hm' ⊢
  subst hm'
  refine ⟨m', j - i + zeros, ?_, ?_⟩
  · rw [Nat.mul_div_cancel_left _ (Nat.pow_pos (by decide)), Int.natCast_add]
  · rw [← hm]
    ring

end

end Finite64

/-! ## Their text -/

namespace Layout

variable {layout : Layout}

theorem chars_whole (hpositional : layout.positional = none) (hmark : layout.wholeMark = "")
    {x : Finite64} {n : Nat} (hx : x.steps = n * stepsPerUnit) (hn : n < 10 ^ 15) :
    layout.chars x = if x.negative then '-' :: digits n else digits n := by
  by_cases hpos : n = 0
  · have hzero : x.significand = 0 := by
      rw [← Finite64.steps_eq_zero_iff, hx, hpos, Nat.zero_mul]
    have hdigits : digits 0 = ['0'] := by simp [digits, digitChar]
    simp [chars, hzero, hmark, hpos, hdigits]
  · have hsignificand : x.significand ≠ 0 := by
      rw [Ne, ← Finite64.steps_eq_zero_iff, hx]
      exact Nat.mul_ne_zero hpos zero_lt_stepsPerUnit.ne'
    obtain ⟨m, k, hshortest, hm⟩ := Finite64.shortest_whole layout.tie hx hpos hn
    have hmpos : m ≠ 0 := by
      rintro rfl
      exact hpos (by rw [← hm, Nat.zero_mul])
    have hlength := List.length_pos_iff.2 (digits_ne_nil m)
    have hpoint : ¬((digits m).length : Int) + k ≤ 0 := by omega
    have hlong : ((digits m).length : Int) ≤ (digits m).length + k := by omega
    simp only [chars, if_neg hsignificand, hpositional, hshortest, positionalChars]
    rw [if_neg hpoint, if_pos hlong, hmark, add_sub_cancel_left, Int.toNat_natCast,
      String.toList_empty, List.append_nil, ← digits_mul_pow hmpos, hm]

/-- Below `10 ^ 15` a whole number is written as an integer, unless it is zero with a sign. -/
theorem text_whole (hpositional : layout.positional = none) (hmark : layout.wholeMark = "")
    {x : Finite64} {n : Int} (hx : x.signedSteps = n * stepsPerUnit) (hn : n.natAbs < 10 ^ 15)
    (hzero : x ≠ .zero true) : layout.text (.finite x) = intText n := by
  have hunit : (0 : Int) < stepsPerUnit := Int.natCast_pos.2 zero_lt_stepsPerUnit
  have hsteps : x.steps = n.natAbs * stepsPerUnit := by
    have habs := congrArg Int.natAbs hx
    rw [Int.natAbs_mul, Int.natAbs_natCast] at habs
    rw [← habs, Finite64.signedSteps]
    split <;> simp
  rw [text, chars_whole hpositional hmark hsteps hn, intText, intChars]
  congr 1
  cases hnegative : x.negative with
  | false =>
    have hsteps' : (x.steps : Int) = n * stepsPerUnit := by
      rw [← hx, Finite64.signedSteps, hnegative]
      rfl
    have hnonneg : 0 ≤ n := by
      by_contra hneg
      have hproduct := Int.mul_neg_of_neg_of_pos (not_le.1 hneg) hunit
      omega
    rw [if_neg (not_lt.2 hnonneg)]
    rfl
  | true =>
    have hsteps' : -(x.steps : Int) = n * stepsPerUnit := by
      rw [← hx, Finite64.signedSteps, hnegative]
      rfl
    have hneg : n < 0 := by
      by_contra hnonneg
      have hproduct := Int.mul_nonneg (not_lt.1 hnonneg) hunit.le
      have hnone : x.significand = 0 := Finite64.steps_eq_zero_iff.1 (by omega)
      exact hzero (hnegative ▸ Finite64.eq_zero_of_significand hnone)
    rw [if_pos hneg]
    rfl

end Layout

end Logbook
