import Mathlib.Algebra.Order.Ring.Nat
import Logbook.Proofs.Fallible
import Logbook.Proofs.Overflow
import Logbook.Response.Series

/-!
# Totals of successes and failures

Counts of documents are added up in words. `successes`, `failures` and `share` are the totals and
the share of successes in numbers without an end. A fold over groups has totals in words where both
fit a word, and they are these numbers then (`outcomeTotals_eq_ok_iff`); a share is computed where
the successes and failures together fit one (`availability_eq`, `availabilityOf_eq`). All else ends
in an overflow.
-/

set_option autoImplicit false

namespace Logbook

/-- How many documents the groups with the label `true` count. -/
def successes (groups : List Group) : Nat :=
  ((groups.filter fun group => group.keyLabel = "true").map fun group => group.count.toNat).sum

/-- How many documents the other groups count. -/
def failures (groups : List Group) : Nat :=
  ((groups.filter fun group => group.keyLabel ≠ "true").map fun group => group.count.toNat).sum

/-- The share of successes in percent, of their true total; all of it where nothing was counted. -/
def share (success failure : Nat) : Binary64 :=
  if success + failure = 0 then Binary64.ofNat 100
  else ((Binary64.ofNat success).div (Binary64.ofNat (success + failure))).mul (Binary64.ofNat 100)

/-- Groups that count half a word of successes and as many failures, as JSON: each of the two totals
fits a word, and both together do not. -/
def halvedCounts : Json :=
  let group (label : String) : Json :=
    .object [("key_as_string", .string label), ("doc_count", .int 9223372036854775808)]
  .object [("buckets", .array [group "true", group "false"])]

theorem successes_cons (group : Group) (groups : List Group) :
    successes (group :: groups) =
      (if group.keyLabel = "true" then group.count.toNat else 0) + successes groups := by
  unfold successes
  split
  · rename_i h
    rw [List.filter_cons_of_pos (by simpa using h), List.map_cons, List.sum_cons]
  · rename_i h
    rw [List.filter_cons_of_neg (by simpa using h), Nat.zero_add]

theorem failures_cons (group : Group) (groups : List Group) :
    failures (group :: groups) =
      (if group.keyLabel = "true" then 0 else group.count.toNat) + failures groups := by
  unfold failures
  split
  · rename_i h
    rw [List.filter_cons_of_neg (by simpa using h), Nat.zero_add]
  · rename_i h
    rw [List.filter_cons_of_pos (by simpa using h), List.map_cons, List.sum_cons]

/-! ## Totals in words -/

/-- One more group is added to the total that it belongs to, exactly. -/
theorem addOutcome_eq_ok_iff {totals next : UInt64 × UInt64} {group : Group} :
    addOutcome totals group = .ok next ↔
      next.1.toNat =
          totals.1.toNat + (if group.keyLabel = "true" then group.count.toNat else 0) ∧
        next.2.toNat =
          totals.2.toNat + (if group.keyLabel = "true" then 0 else group.count.toNat) := by
  obtain ⟨success, failure⟩ := next
  unfold addOutcome
  split
  · rw [Fallible.bind_eq_ok_iff]
    simp only [addCounts_eq_ok_iff, Nat.add_zero, UInt64.toNat_inj]
    constructor
    · rintro ⟨sum, hsum, h⟩
      cases h
      exact ⟨hsum, rfl⟩
    · rintro ⟨hsum, rfl⟩
      exact ⟨success, hsum, rfl⟩
  · rw [Fallible.bind_eq_ok_iff]
    simp only [addCounts_eq_ok_iff, Nat.add_zero, UInt64.toNat_inj]
    constructor
    · rintro ⟨sum, hsum, h⟩
      cases h
      exact ⟨rfl, hsum⟩
    · rintro ⟨rfl, hsum⟩
      exact ⟨failure, hsum, rfl⟩

theorem addOutcome_eq_error {totals : UInt64 × UInt64} {group : Group} {overflow : Overflow}
    (h : addOutcome totals group = .error overflow) : overflow = .sum := by
  unfold addOutcome at h
  split at h
  · exact (addCounts_eq_error_iff.1 (Fallible.bind_ok_eq_error_iff.1 h)).2
  · exact (addCounts_eq_error_iff.1 (Fallible.bind_ok_eq_error_iff.1 h)).2

/-- Totals that more groups are added to grow by what these count. -/
theorem foldlM_addOutcome_eq_ok_iff {groups : List Group} {start totals : UInt64 × UInt64} :
    groups.foldlM addOutcome start = .ok totals ↔
      totals.1.toNat = start.1.toNat + successes groups ∧
        totals.2.toNat = start.2.toNat + failures groups := by
  induction groups generalizing start with
  | nil =>
    simp only [List.foldlM_nil, successes, failures, List.filter_nil, List.map_nil, List.sum_nil,
      Nat.add_zero, UInt64.toNat_inj]
    constructor
    · intro h
      cases h
      exact ⟨rfl, rfl⟩
    · rintro ⟨hsuccess, hfailure⟩
      exact congrArg Except.ok (Prod.ext hsuccess.symm hfailure.symm)
  | cons group groups ih =>
    rw [List.foldlM_cons, Fallible.bind_eq_ok_iff, successes_cons, failures_cons]
    simp only [addOutcome_eq_ok_iff, ih]
    have hsuccess := totals.1.toNat_lt
    have hfailure := totals.2.toNat_lt
    constructor
    · rintro ⟨next, ⟨hnext, hnext'⟩, htotal, htotal'⟩
      omega
    · rintro ⟨htotal, htotal'⟩
      -- the totals after one group fit where those after all groups do
      obtain ⟨success, hone⟩ := exists_toNat_eq
        (n := start.1.toNat + if group.keyLabel = "true" then group.count.toNat else 0) (by omega)
      obtain ⟨failure, hone'⟩ := exists_toNat_eq
        (n := start.2.toNat + if group.keyLabel = "true" then 0 else group.count.toNat) (by omega)
      exact ⟨(success, failure), ⟨hone, hone'⟩, by rw [hone]; omega, by rw [hone']; omega⟩

/-- The totals of groups are the numbers of successes and failures, where these fit a word. -/
theorem outcomeTotals_eq_ok_iff {groups : List Group} {totals : UInt64 × UInt64} :
    outcomeTotals groups = .ok totals ↔
      totals.1.toNat = successes groups ∧ totals.2.toNat = failures groups := by
  rw [outcomeTotals, foldlM_addOutcome_eq_ok_iff]
  simp only [UInt64.toNat_zero, Nat.zero_add]

theorem exists_outcomeTotals {groups : List Group} (hsuccess : successes groups < 2 ^ 64)
    (hfailure : failures groups < 2 ^ 64) : ∃ totals, outcomeTotals groups = .ok totals := by
  obtain ⟨success, hsuccess⟩ := exists_toNat_eq hsuccess
  obtain ⟨failure, hfailure⟩ := exists_toNat_eq hfailure
  exact ⟨(success, failure), outcomeTotals_eq_ok_iff.2 ⟨hsuccess, hfailure⟩⟩

/-- There are no totals where one of the two numbers does not fit a word. -/
theorem outcomeTotals_eq_error_iff {groups : List Group} {overflow : Overflow} :
    outcomeTotals groups = .error overflow ↔
      (2 ^ 64 ≤ successes groups ∨ 2 ^ 64 ≤ failures groups) ∧ overflow = .sum := by
  constructor
  · intro h
    obtain ⟨group, -, totals, hgroup⟩ := Fallible.exists_of_foldlM_eq_error h
    refine ⟨?_, addOutcome_eq_error hgroup⟩
    by_contra hfit
    simp only [not_or, Nat.not_le] at hfit
    obtain ⟨totals, htotals⟩ := exists_outcomeTotals hfit.1 hfit.2
    rw [h] at htotals
    cases htotals
  · rintro ⟨hbeyond, rfl⟩
    cases htotals : outcomeTotals groups with
    | error overflow =>
      obtain ⟨group, -, totals, hgroup⟩ := Fallible.exists_of_foldlM_eq_error htotals
      rw [addOutcome_eq_error hgroup]
    | ok totals =>
      obtain ⟨hsuccess, hfailure⟩ := outcomeTotals_eq_ok_iff.1 htotals
      have hlt := totals.1.toNat_lt
      have hlt' := totals.2.toNat_lt
      omega

/-! ## Shares -/

/-- A share is computed where successes and failures together fit a word. -/
theorem availability_eq (success failure : UInt64) :
    availability success failure =
      if success.toNat + failure.toNat < 2 ^ 64 then .ok (share success.toNat failure.toNat)
      else .error .sum := by
  cases htotal : addCounts success failure with
  | error overflow =>
    obtain ⟨hbeyond, rfl⟩ := addCounts_eq_error_iff.1 htotal
    rw [availability, htotal, if_neg (Nat.not_lt.2 hbeyond)]
    rfl
  | ok total =>
    have hsum := addCounts_eq_ok_iff.1 htotal
    have hzero : total = 0 ↔ success.toNat + failure.toNat = 0 := by
      rw [← hsum, ← UInt64.toNat_inj, UInt64.toNat_zero]
    rw [availability, htotal, if_pos (hsum ▸ total.toNat_lt), share]
    by_cases hnone : success.toNat + failure.toNat = 0
    · rw [if_pos hnone]
      exact if_pos (hzero.2 hnone)
    · rw [if_neg hnone, ← hsum]
      exact if_neg (mt hzero.1 hnone)

theorem availability_eq_ok_iff {success failure : UInt64} {x : Binary64} :
    availability success failure = .ok x ↔
      success.toNat + failure.toNat < 2 ^ 64 ∧ x = share success.toNat failure.toNat := by
  rw [availability_eq, Fallible.ite_eq_ok_iff, eq_comm (a := x)]

theorem availability_eq_error_iff {success failure : UInt64} {overflow : Overflow} :
    availability success failure = .error overflow ↔
      2 ^ 64 ≤ success.toNat + failure.toNat ∧ overflow = .sum := by
  rw [availability_eq, Fallible.ite_eq_error_iff, Nat.not_lt, eq_comm (a := overflow)]

/-- The share of successes in what groups count is computed where all that they count fits a
word. -/
theorem availabilityOf_eq (groups : List Group) :
    availabilityOf groups =
      if successes groups + failures groups < 2 ^ 64 then
        .ok (share (successes groups) (failures groups))
      else .error .sum := by
  cases htotals : outcomeTotals groups with
  | error overflow =>
    obtain ⟨hbeyond, rfl⟩ := outcomeTotals_eq_error_iff.1 htotals
    rw [availabilityOf, htotals, if_neg (by omega)]
    rfl
  | ok totals =>
    obtain ⟨hsuccess, hfailure⟩ := outcomeTotals_eq_ok_iff.1 htotals
    rw [availabilityOf, htotals, ← hsuccess, ← hfailure, ← availability_eq]
    rfl

theorem availabilityOf_eq_ok_iff {groups : List Group} {x : Binary64} :
    availabilityOf groups = .ok x ↔
      successes groups + failures groups < 2 ^ 64 ∧
        x = share (successes groups) (failures groups) := by
  rw [availabilityOf_eq, Fallible.ite_eq_ok_iff, eq_comm (a := x)]

theorem availabilityOf_eq_error_iff {groups : List Group} {overflow : Overflow} :
    availabilityOf groups = .error overflow ↔
      2 ^ 64 ≤ successes groups + failures groups ∧ overflow = .sum := by
  rw [availabilityOf_eq, Fallible.ite_eq_error_iff, Nat.not_lt, eq_comm (a := overflow)]

end Logbook
