import Logbook.Command.Argument
import Logbook.Proofs.Keyed
import Logbook.Proofs.Number.Digits
import Logbook.Proofs.Text.Blank

/-!
# Intervals on a command line

An interval is an amount and a unit. `intervals_are_amounts_of_units`: a word is an interval where
it is digits and one of the units, neither the amount nor the product with the unit leaves 64 bits,
and the amount is not zero; the interval is then that product, and every other word is refused.
-/

set_option autoImplicit false

namespace Logbook

theorem Interval.ofMillis_eq_ok_iff {millis : UInt64} {interval : Interval} :
    ofMillis millis = .ok interval ↔ interval.millis = millis := by
  obtain ⟨n, hpositive⟩ := interval
  unfold ofMillis
  split
  · rename_i hzero
    rw [hzero]
    exact ⟨fun h => (by cases h), fun h => absurd h hpositive⟩
  · rw [Except.ok.injEq, Interval.mk.injEq, eq_comm]

namespace Argument

/-- The units of intervals and how many milliseconds each has. -/
inductive IsUnit : List Char → Nat → Prop
  | milliseconds : IsUnit ['m', 's'] 1
  | seconds : IsUnit ['s'] 1000
  | minutes : IsUnit ['m'] (60 * 1000)
  | hours : IsUnit ['h'] (60 * (60 * 1000))
  | days : IsUnit ['d'] (24 * (60 * (60 * 1000)))

/-- The characters are an amount and a unit. -/
structure IsAmount (cs amount : List Char) (factor : Nat) : Prop where
  nonempty : amount ≠ []
  digits : ∀ c ∈ amount, c.isDigit = true
  unit : ∃ unit, cs = amount ++ unit ∧ IsUnit unit factor

theorem lookup_units_eq_some_iff {unit : List Char} {factor : Nat} :
    units.lookup (String.ofList unit) = some factor ↔ IsUnit unit factor := by
  rw [Keyed.lookup_eq_some_iff (by decide)]
  constructor
  · intro h
    have hname (s : String) : String.ofList unit = s ↔ unit = s.toList := by
      rw [← String.toList_inj, String.toList_ofList]
    simp only [units, List.mem_cons, Prod.mk.injEq, hname, List.not_mem_nil, or_false] at h
    rcases h with ⟨rfl, rfl⟩ | ⟨rfl, rfl⟩ | ⟨rfl, rfl⟩ | ⟨rfl, rfl⟩ | ⟨rfl, rfl⟩
    · exact .milliseconds
    · exact .seconds
    · exact .minutes
    · exact .hours
    · exact .days
  · rintro (_ | _ | _ | _ | _) <;> decide

/-- A unit does not begin with a digit. -/
theorem IsUnit.isDigit_head? {unit : List Char} {factor : Nat} (h : IsUnit unit factor) :
    ∀ c ∈ unit.head?, c.isDigit = false := by
  intro c hc
  cases h <;> cases hc <;> rfl

/-- An interval is the product of an amount and a unit, where that fits 64 bits. -/
theorem interval_eq_ok_iff {word : String} {interval : Interval} :
    Argument.interval word = .ok interval ↔
      ∃ amount factor, IsAmount (trim word).toList amount factor ∧
        digitsValue amount < 2 ^ 64 ∧ digitsValue amount * factor < 2 ^ 64 ∧
          interval.millis.toNat = digitsValue amount * factor := by
  have hsize : UInt64.size = 2 ^ 64 := rfl
  constructor
  · intro h
    rcases hspan : spanDigits (trim word).toList with ⟨amount, unit⟩
    obtain ⟨hsplit, hdigits, -⟩ := spanDigits_eq_iff.1 hspan
    simp only [Argument.interval, hspan] at h
    split at h
    · cases h
    rename_i n hamount
    obtain ⟨hamount, hfits⟩ := Option.filter_eq_some_iff.1 hamount
    obtain ⟨hne, -, rfl⟩ := natOfDigits?_eq_some_iff.1 hamount
    rw [decide_eq_true_eq, hsize] at hfits
    split at h
    · cases h
    rename_i factor hunit
    rw [lookup_units_eq_some_iff] at hunit
    split at h
    · cases h
    rename_i hproduct
    rw [hsize, Nat.not_le] at hproduct
    split at h
    · rename_i read hread
      cases h
      refine ⟨amount, factor, ⟨hne, hdigits, unit, hsplit, hunit⟩, hfits, hproduct, ?_⟩
      rw [Interval.ofMillis_eq_ok_iff.1 hread, UInt64.toNat_ofNat_of_lt' hproduct]
    · cases h
  · rintro ⟨amount, factor, ⟨hne, hdigits, unit, hsplit, hunit⟩, hfits, hproduct, hmillis⟩
    have hspan := spanDigits_eq_iff.2 ⟨hsplit, hdigits, hunit.isDigit_head?⟩
    have hamount : (natOfDigits? amount).filter (· < UInt64.size) = some (digitsValue amount) := by
      rw [natOfDigits?_eq_some_iff.2 ⟨hne, hdigits, rfl⟩, Option.filter_some, hsize,
        if_pos (decide_eq_true hfits)]
    have hsmall : ¬UInt64.size ≤ digitsValue amount * factor := Nat.not_le.2 hproduct
    have hword : UInt64.ofNat (digitsValue amount * factor) = interval.millis := by
      rw [← hmillis, UInt64.ofNat_toNat]
    simp only [Argument.interval, hspan, hamount, lookup_units_eq_some_iff.2 hunit, hsmall,
      if_false, hword, Interval.ofMillis_eq_ok_iff.2 rfl]

end Argument

open Argument in
/-- **An interval is an amount of a unit.** A word is read as an interval where, white space around
it apart, it is a run of digits and a unit, the number that the digits write is positive, and
neither it nor the product with the unit leaves 64 bits. The interval is that product, so none
wraps around and none is zero. Any other word is refused. -/
theorem intervals_are_amounts_of_units (word : String) :
    (∀ interval : Interval, Argument.interval word = .ok interval ↔
      ∃ amount factor, IsAmount (trim word).toList amount factor ∧
        1 ≤ digitsValue amount ∧ digitsValue amount ≤ 2 ^ 64 - 1 ∧
          digitsValue amount * factor ≤ 2 ^ 64 - 1 ∧
            interval.millis.toNat = digitsValue amount * factor) ∧
    ((∃ interval, Argument.interval word = .ok interval ∧ 0 < interval.millis.toNat ∧
        Interval.ofMillis interval.millis = .ok interval) ∨
      ∃ fault, Argument.interval word = .error fault) := by
  constructor
  · intro interval
    rw [interval_eq_ok_iff]
    constructor
    · rintro ⟨amount, factor, hword, hfits, hproduct, hmillis⟩
      have hpositive : digitsValue amount ≠ 0 := by
        intro hzero
        rw [hzero, Nat.zero_mul] at hmillis
        exact interval.positive (UInt64.toNat_inj.1 hmillis)
      exact ⟨amount, factor, hword, by omega, by omega, by omega, hmillis⟩
    · rintro ⟨amount, factor, hword, -, hfits, hproduct, hmillis⟩
      exact ⟨amount, factor, hword, by omega, by omega, hmillis⟩
  · cases hread : Argument.interval word with
    | error fault => exact .inr ⟨fault, rfl⟩
    | ok interval =>
      have hpositive : interval.millis.toNat ≠ 0 :=
        fun hzero => interval.positive (UInt64.toNat_inj.1 hzero)
      exact .inl ⟨interval, rfl, by omega, Interval.ofMillis_eq_ok_iff.2 rfl⟩

end Logbook
