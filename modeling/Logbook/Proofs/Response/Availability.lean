import Logbook.Proofs.Number.Rounding
import Logbook.Proofs.Response.Totals

/-!
# Availability and what was counted

A share of successes is a quotient of two counts, and both and the quotient are rounded. `IsShare`
says how far a number may be from the quotient that it stands for, and `share` is such a number
(`isShare_share`). Availability is that share where successes and failures together fit a word
(`availability_of_counts_in_word`). Where they do not, there is none, even if half of the documents
failed (`no_availability_of_total_beyond_word`).
-/

set_option autoImplicit false

namespace Logbook

/-- A number is the share of successes in percent, up to the rounding of a few operations. -/
structure IsShare (success failure : Nat) (x : Binary64) : Prop where
  /-- Where nothing failed it is all, exactly. -/
  full : failure = 0 → x = Binary64.ofNat 100
  close : 0 < success + failure → ∃ y : Finite64, x = .finite y ∧ y.negative = false ∧
    |y.magnitude - success / ((success + failure : Nat) : ℚ) * 100| ≤
      success / ((success + failure : Nat) : ℚ) * 100 / 2 ^ 50

/-! ## Shares -/

/-- A number of documents in a word is zero or in the middle of the format. -/
theorem inRange_of_lt {n : Nat} (h : n < 2 ^ 64) : Binary64.InRange n := by
  obtain rfl | hn := Nat.eq_zero_or_pos n
  · exact .inl Nat.cast_zero
  have hlow : (1 : ℚ) ≤ n := by exact_mod_cast hn
  have hhigh : (n : ℚ) ≤ 2 ^ 64 := by exact_mod_cast h.le
  exact .inr ⟨le_trans (by norm_num) hlow, hhigh.trans (by norm_num)⟩

/-- Hundred is not rounded. -/
theorem ofNat_hundred : ∃ y : Finite64, Binary64.ofNat 100 = .finite y ∧ y.negative = false ∧
    y.magnitude = 100 := by
  have hsteps : (Binary64.ofNat 100).finite?.map (fun y => (y.negative, y.steps)) =
      some (false, 100 * stepsPerUnit) := by decide +kernel
  cases hfinite : Binary64.ofNat 100 with
  | finite y =>
    rw [hfinite, Binary64.finite?, Option.map_some, Option.some.injEq, Prod.mk.injEq] at hsteps
    refine ⟨y, rfl, hsteps.1, ?_⟩
    rw [Finite64.magnitude, hsteps.2, Nat.cast_mul, mul_div_assoc,
      div_self stepsPerUnit_pos.ne', mul_one, Nat.cast_ofNat]
  | infinite negative => rw [hfinite] at hsteps; cases hsteps
  | nan => rw [hfinite] at hsteps; cases hsteps

section
variable {success failure : Nat} (htotal : 0 < success + failure)
  (h : success + failure < 2 ^ 64)
include htotal

/-- The part of the documents that are successes. -/
theorem part_bounds : (0 : ℚ) ≤ success / (success + failure : Nat) ∧
    (success : ℚ) / (success + failure : Nat) ≤ 1 :=
  ⟨by positivity, div_le_one_of_le₀ (by exact_mod_cast Nat.le_add_right _ _) (by positivity)⟩

include h

theorem inRange_part {n : Nat} (hn : 0 < n) (hn' : n ≤ 100) :
    Binary64.InRange (success / (success + failure : Nat) * n) := by
  obtain rfl | hsuccess := Nat.eq_zero_or_pos success
  · left
    rw [Nat.cast_zero, zero_div, zero_mul]
  have hs : (1 : ℚ) ≤ success := by exact_mod_cast hsuccess
  have ht : (0 : ℚ) < (success + failure : Nat) := by exact_mod_cast htotal
  have ht' : ((success + failure : Nat) : ℚ) ≤ 2 ^ 64 := by exact_mod_cast h.le
  have hone : (1 : ℚ) ≤ n := by exact_mod_cast hn
  have hhundred : (n : ℚ) ≤ 100 := by exact_mod_cast hn'
  have hlow : (1 / 2 ^ 64 : ℚ) ≤ success / (success + failure : Nat) := by
    rw [div_le_div_iff₀ (by positivity) ht]
    linarith
  obtain ⟨hpos, hhigh⟩ := part_bounds htotal
  right
  constructor
  · calc (1 / 2 ^ 200 : ℚ) ≤ 1 / 2 ^ 64 * 1 := by norm_num
      _ ≤ success / (success + failure : Nat) * n := mul_le_mul hlow hone (by norm_num) hpos
  · calc (success : ℚ) / (success + failure : Nat) * n ≤ 1 * 100 :=
        mul_le_mul hhigh hhundred (by positivity) (by norm_num)
      _ ≤ 2 ^ 200 := by norm_num

/-- A share is rounded four times: both counts, their quotient and the percentage. -/
theorem near_share :
    (share success failure).Near 4 (success / (success + failure : Nat) * 100) := by
  obtain ⟨y, hy, hnegative, hmagnitude⟩ := ofNat_hundred
  have hpercent : (Binary64.ofNat 100).Near 0 100 := by
    rw [hy, ← hmagnitude]
    exact .of_magnitude_eq hnegative
  have hpart : Binary64.InRange (success / (success + failure : Nat)) := by
    simpa using inRange_part htotal h (n := 1) (by decide) (by decide)
  have hquotient := (Binary64.near_ofNat (inRange_of_lt (by omega))).div
    (Binary64.near_ofNat (inRange_of_lt h)) (Nat.cast_nonneg success)
    (by exact_mod_cast htotal) hpart (by decide)
  rw [share, if_neg htotal.ne']
  exact hquotient.mul hpercent (part_bounds htotal).1 (by norm_num)
    (inRange_part htotal h (n := 100) (by decide) (by decide)) (by decide)

end

theorem share_of_no_failure {success : Nat} (h : success < 2 ^ 64) :
    share success 0 = Binary64.ofNat 100 := by
  obtain rfl | hsuccess := Nat.eq_zero_or_pos success
  · rw [share, if_pos (Nat.add_zero 0)]
  have hone : (Binary64.ofNat 1).mul (Binary64.ofNat 100) = Binary64.ofNat 100 := by
    decide +kernel
  rw [share, if_neg (by omega), Nat.add_zero,
    (Binary64.near_ofNat (inRange_of_lt h)).div_self (by exact_mod_cast hsuccess), hone]

theorem isShare_share {success failure : Nat} (h : success + failure < 2 ^ 64) :
    IsShare success failure (share success failure) := by
  refine ⟨?_, fun htotal => (near_share htotal h).four ?_⟩
  · rintro rfl
    exact share_of_no_failure h
  · exact mul_nonneg (part_bounds htotal).1 (by norm_num)

/-- Where a share is all, nothing was counted or nearly nothing failed. -/
theorem IsShare.of_full {success failure : Nat}
    (h : IsShare success failure (Binary64.ofNat 100)) :
    success + failure = 0 ∨ 2 ^ 50 * failure ≤ success := by
  obtain htotal | htotal := Nat.eq_zero_or_pos (success + failure)
  · exact .inl htotal
  right
  obtain ⟨y, hy, -, hmagnitude⟩ := ofNat_hundred
  obtain ⟨x, hx, -, hclose⟩ := h.close htotal
  rw [hy, Binary64.finite.injEq] at hx
  rw [← hx, hmagnitude] at hclose
  have ht : (0 : ℚ) < (success + failure : Nat) := by exact_mod_cast htotal
  have hpart : (success + failure : Nat) * (success / (success + failure : Nat) : ℚ) = success :=
    mul_div_cancel₀ _ ht.ne'
  have hscaled : (success + failure : Nat) * (100 : ℚ) - success * 100 ≤ success * 100 / 2 ^ 50 :=
    calc (success + failure : Nat) * (100 : ℚ) - success * 100
        = (success + failure : Nat) * (100 - success / (success + failure : Nat) * 100) := by
          rw [mul_sub, ← mul_assoc, hpart]
      _ ≤ (success + failure : Nat) * (success / (success + failure : Nat) * 100 / 2 ^ 50) :=
          mul_le_mul_of_nonneg_left (abs_le.1 hclose).2 ht.le
      _ = success * 100 / 2 ^ 50 := by rw [← mul_div_assoc, ← mul_assoc, hpart]
  rw [Nat.cast_add] at hscaled
  have hfew : (2 ^ 50 * failure : ℚ) ≤ success := by linarith
  exact_mod_cast hfew

/-! ## Availability -/

/-- **Availability is counted in words.** The totals of groups are computed where both fit a word,
and they are the true ones then. Where successes and failures together fit one, availability is the
share of the true total, and it is all of it only where nothing was counted or, as far as rounding
can tell, nothing failed. In every other case the sum overflows, and nothing is computed. -/
theorem availability_of_counts_in_word (groups : List Group) (success failure : UInt64) :
    (∀ totals, outcomeTotals groups = .ok totals ↔
        totals.1.toNat = successes groups ∧ totals.2.toNat = failures groups) ∧
      (∀ overflow, outcomeTotals groups = .error overflow ↔
        (2 ^ 64 ≤ successes groups ∨ 2 ^ 64 ≤ failures groups) ∧ overflow = .sum) ∧
      (∀ overflow, availability success failure = .error overflow ↔
        2 ^ 64 ≤ success.toNat + failure.toNat ∧ overflow = .sum) ∧
      (success.toNat + failure.toNat < 2 ^ 64 →
        ∃ x, availability success failure = .ok x ∧ x = share success.toNat failure.toNat ∧
          IsShare success.toNat failure.toNat x ∧
          (x = Binary64.ofNat 100 →
            success.toNat + failure.toNat = 0 ∨ 2 ^ 50 * failure.toNat ≤ success.toNat)) := by
  refine ⟨fun totals => outcomeTotals_eq_ok_iff, fun overflow => outcomeTotals_eq_error_iff,
    fun overflow => availability_eq_error_iff, fun h => ?_⟩
  have hshare := isShare_share h
  refine ⟨_, availability_eq_ok_iff.2 ⟨h, rfl⟩, rfl, hshare, fun hfull => ?_⟩
  rw [hfull] at hshare
  exact hshare.of_full

/-- Three successes and a failure. -/
theorem availability_of_four_in_word :
    (3 : UInt64).toNat + (1 : UInt64).toNat < 2 ^ 64 ∧ availability 3 1 = .ok (share 3 1) := by
  have hfits : (3 : UInt64).toNat + (1 : UInt64).toNat < 2 ^ 64 := by decide
  obtain ⟨x, hx, hshare, -⟩ := (availability_of_counts_in_word [] 3 1).2.2.2 hfits
  exact ⟨hfits, hx.trans (congrArg Except.ok hshare)⟩

/-- Half of the documents failed, and together they are one more than a word holds. There is no
availability, though the share is a half. -/
theorem no_availability_of_total_beyond_word :
    availability 9223372036854775808 9223372036854775808 = .error .sum ∧
      share 9223372036854775808 9223372036854775808 = Binary64.ofNat 50 := by
  decide +kernel

end Logbook
