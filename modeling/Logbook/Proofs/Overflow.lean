import Logbook.Number.Power
import Logbook.Overflow
import Logbook.Proofs.Fallible

/-!
# Results that fit their types

A sum of counts and the time between two instants are exact where they fit a word, and there is
none where they do not: `addCounts_eq_ok_iff` and `timeBetween_eq_ok_iff` say which word a result
is, by the number that it stands for.
-/

set_option autoImplicit false

namespace Logbook

/-- A sum of counts is the count that stands for the sum of their numbers. -/
theorem addCounts_eq_ok_iff {a b c : UInt64} :
    addCounts a b = .ok c ↔ c.toNat = a.toNat + b.toNat := by
  rw [addCounts, Fallible.ite_eq_ok_iff]
  constructor
  · rintro ⟨hfits, rfl⟩
    rw [UInt64.toNat_add, Nat.mod_eq_of_lt hfits]
  · intro hsum
    have hfits : a.toNat + b.toNat < UInt64.size := hsum ▸ c.toNat_lt
    refine ⟨hfits, UInt64.toNat_inj.1 ?_⟩
    rw [UInt64.toNat_add, Nat.mod_eq_of_lt hfits, hsum]

/-- There is no sum of counts that are more than a word together. -/
theorem addCounts_eq_error_iff {a b : UInt64} {overflow : Overflow} :
    addCounts a b = .error overflow ↔ 2 ^ 64 ≤ a.toNat + b.toNat ∧ overflow = .sum := by
  rw [addCounts, Fallible.ite_eq_error_iff, Nat.not_lt, eq_comm (a := overflow)]
  rfl

/-- A number below `2 ^ 64` is a count. -/
theorem exists_toNat_eq {n : Nat} (h : n < 2 ^ 64) : ∃ c : UInt64, c.toNat = n :=
  ⟨.ofNat n, UInt64.toNat_ofNat_of_lt' h⟩

/-- The time between two instants is the word that stands for their difference. -/
theorem timeBetween_eq_ok_iff {start stop width : Int64} :
    timeBetween start stop = .ok width ↔ width.toInt = stop.toInt - start.toInt := by
  have hmin : Int64.minValue.toInt = -2 ^ 63 := by decide
  have hmax : Int64.maxValue.toInt = 2 ^ 63 - 1 := by decide
  have hdifference (hlow : -2 ^ 63 ≤ stop.toInt - start.toInt)
      (hhigh : stop.toInt - start.toInt ≤ 2 ^ 63 - 1) :
      (stop - start).toInt = stop.toInt - start.toInt := by
    rw [Int64.toInt_sub, Int.bmod_eq_iff (by decide)]
    omega
  simp only [timeBetween, hmin, hmax, Fallible.ite_eq_ok_iff]
  constructor
  · rintro ⟨⟨hlow, hhigh⟩, rfl⟩
    exact hdifference hlow hhigh
  · intro hwidth
    have hlow := width.le_toInt
    have hhigh := width.toInt_lt
    have hfits : -2 ^ 63 ≤ stop.toInt - start.toInt ∧ stop.toInt - start.toInt ≤ 2 ^ 63 - 1 := by
      omega
    exact ⟨hfits, Int64.toInt_inj.1 ((hdifference hfits.1 hfits.2).trans hwidth.symm)⟩

/-- There is no time between instants that are too far from each other. -/
theorem timeBetween_eq_error_iff {start stop : Int64} {overflow : Overflow} :
    timeBetween start stop = .error overflow ↔
      (stop.toInt - start.toInt < -2 ^ 63 ∨ 2 ^ 63 ≤ stop.toInt - start.toInt) ∧
        overflow = .difference := by
  have hmin : Int64.minValue.toInt = -2 ^ 63 := by decide
  have hmax : Int64.maxValue.toInt = 2 ^ 63 - 1 := by decide
  simp only [timeBetween, hmin, hmax, Fallible.ite_eq_error_iff]
  rw [eq_comm (a := overflow)]
  refine and_congr_left' ?_
  omega

/-! ## The two ways to have no result -/

namespace Halt

variable {ε α : Type}

theorem mapError_fault_eq_fault_iff {x : Except ε α} {e : ε} :
    x.mapError fault = .error (.fault e) ↔ x = .error e := by
  rw [Fallible.mapError_eq_error_iff]
  simp

theorem mapError_fault_ne_overflow {x : Except ε α} {o : Overflow} :
    x.mapError fault ≠ .error (.overflow o) := by
  rw [ne_eq, Fallible.mapError_eq_error_iff]
  simp

theorem mapError_overflow_eq_overflow_iff {x : Except Overflow α} {o : Overflow} :
    x.mapError overflow = .error (.overflow o : Halt ε) ↔ x = .error o := by
  rw [Fallible.mapError_eq_error_iff]
  simp

theorem mapError_overflow_ne_fault {x : Except Overflow α} {e : ε} :
    x.mapError overflow ≠ .error (.fault e) := by
  rw [ne_eq, Fallible.mapError_eq_error_iff]
  simp

end Halt

end Logbook
