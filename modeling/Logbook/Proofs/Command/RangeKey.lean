import Logbook.Command.Argument
import Logbook.Proofs.Number.WholeText
import Logbook.Proofs.Text.Blank
import Logbook.Proofs.Text.Split
import Logbook.Search.OfQuery

/-!
# Keys of ranges

The hyphen between the bounds of a range is the character that stands before a negative bound too.
But a bound has no hyphen behind its first character, so the first one there is in a key behind the
first character is the one between the bounds.

* `NumberRange.boundText_whole`: below `10 ^ 15` a bound without a fraction is written as an
  integer, which is how it would be written as a number; so every bound is written as a number
  (`NumberRange.boundText_eq`).
* `Argument.splitRange?_key`, `Argument.numberRange_key`: a key is split between its bounds, and
  both are read back.
* `range_keys_are_unambiguous`: ranges in order that have one key have equal bounds.
-/

set_option autoImplicit false

namespace Logbook

namespace NumberRange

/-- The lower bound is less than the upper one or equal to it, so neither is `nan`. -/
def IsOrdered (range : NumberRange) : Prop :=
  range.low.order? range.high = some .lt ∨ range.low.order? range.high = some .eq

instance (range : NumberRange) : Decidable range.IsOrdered :=
  inferInstanceAs (Decidable (_ ∨ _))

/-- The bounds of two ranges are equal as numbers. -/
def SameBounds (range other : NumberRange) : Prop :=
  range.low.order? other.low = some .eq ∧ range.high.order? other.high = some .eq

namespace IsOrdered

variable {range : NumberRange}

theorem gt_eq_false (h : range.IsOrdered) : range.low.gt range.high = false := by
  rcases h with h | h <;> rw [Binary64.gt, h] <;> rfl

theorem low_ne_nan (h : range.IsOrdered) : range.low ≠ .nan := by
  intro hnan
  simp [IsOrdered, hnan, Binary64.order?] at h

theorem high_ne_nan (h : range.IsOrdered) : range.high ≠ .nan := by
  intro hnan
  simp [IsOrdered, hnan, Binary64.order?_nan_right] at h

/-- Bounds that differ in the sign of a zero at most are equal. -/
theorem sameBounds {other : NumberRange} (h : range.IsOrdered)
    (hlow : range.low.unsigned = other.low.unsigned)
    (hhigh : range.high.unsigned = other.high.unsigned) : range.SameBounds other :=
  ⟨Binary64.order?_eq_iff.2 ⟨h.low_ne_nan, hlow⟩, Binary64.order?_eq_iff.2 ⟨h.high_ne_nan, hhigh⟩⟩

end IsOrdered

/-! ## The text of a bound -/

theorem isWholeBound_iff {x : Finite64} :
    isWholeBound (.finite x) = true ↔
      ∃ n : Int, x.signedSteps = n * stepsPerUnit ∧ n.natAbs < 10 ^ 15 := by
  have hunit := zero_lt_stepsPerUnit
  have hnatAbs : x.signedSteps.natAbs = x.steps := by
    unfold Finite64.signedSteps
    split <;> simp
  simp only [isWholeBound, decide_eq_true_eq]
  constructor
  · rintro ⟨hwhole, hsmall⟩
    have hsteps := Nat.div_mul_cancel (Nat.dvd_of_mod_eq_zero hwhole)
    have hcount : x.steps / stepsPerUnit < 10 ^ 15 := Nat.div_lt_of_lt_mul (by
      rwa [Nat.mul_comm])
    unfold Finite64.signedSteps
    split
    · exact ⟨-(x.steps / stepsPerUnit : Nat), by rw [Int.neg_mul, ← Int.natCast_mul, hsteps],
        by rwa [Int.natAbs_neg]⟩
    · exact ⟨(x.steps / stepsPerUnit : Nat), by rw [← Int.natCast_mul, hsteps], hcount⟩
  · rintro ⟨n, hsteps, hn⟩
    rw [← hnatAbs, hsteps, Int.natAbs_mul, Int.natAbs_natCast]
    exact ⟨Nat.mul_mod_left _ _, Nat.mul_lt_mul_of_pos_right hn hunit⟩

/-- Below `10 ^ 15` a bound without a fraction is written as an integer, and it would be written no
differently as a number, but for the sign of a zero. -/
theorem boundText_whole {x : Finite64} {n : Int} (hx : x.signedSteps = n * stepsPerUnit)
    (hn : n.natAbs < 10 ^ 15) :
    boundText (.finite x) = intText n ∧
      boundLayout.text (Binary64.finite x).unsigned = intText n := by
  have hcut : x.truncate = n := by
    rw [Finite64.truncate, hx, Int.mul_tdiv_cancel]
    have hunit := zero_lt_stepsPerUnit
    omega
  have hword : (Binary64.finite x).toInt64.toInt = n := by
    rw [Binary64.toInt64, hcut, toInt_clampInt64]
    omega
  refine ⟨?_, Layout.text_whole rfl rfl (x.signedSteps_unsigned.trans hx) hn
    x.unsigned_ne_zero_true⟩
  rw [boundText, if_pos (isWholeBound_iff.2 ⟨n, hx, hn⟩), hword]

/-- Either way a bound is written without the sign of a zero. -/
theorem boundText_eq (x : Binary64) : boundText x = boundLayout.text x.unsigned := by
  by_cases hwhole : isWholeBound x = true
  · cases x with
    | nan | infinite => cases hwhole
    | finite x =>
      obtain ⟨n, hx, hn⟩ := isWholeBound_iff.1 hwhole
      obtain ⟨hinteger, hnumber⟩ := boundText_whole hx hn
      rw [hinteger, hnumber]
  · have hzero : x ≠ .finite (.zero true) := by
      rintro rfl
      refine hwhole (isWholeBound_iff.2 ⟨0, ?_, by decide⟩)
      rw [Int.zero_mul]
      rfl
    rw [boundText, if_neg hwhole, Binary64.unsigned_of_ne hzero]

/-- A bound has no hyphen behind its first character, and visible characters of ASCII only. -/
theorem exists_toList_boundText (x : Binary64) :
    ∃ c cs, (boundText x).toList = c :: cs ∧ '-' ∉ cs ∧
      ∀ d ∈ c :: cs, 32 < d.toNat ∧ d.toNat < 128 := by
  rw [boundText_eq]
  cases x.unsigned with
  | nan => exact ⟨'N', "aN".toList, rfl, by decide, by simp⟩
  | infinite negative =>
    cases negative with
    | false => exact ⟨'i', "nf".toList, rfl, by decide, by simp⟩
    | true => exact ⟨'-', "inf".toList, rfl, by decide, by simp⟩
  | finite x =>
    obtain ⟨whole, fraction, cs, h, hchars, -⟩ :=
      @Layout.exists_positional_chars boundLayout rfl rfl x
    have hvisible : ∀ d ∈ cs, 32 < d.toNat ∧ d.toNat < 128 := by
      intro d hd
      rcases h.isDigit_or_eq_point d hd with hdigit | rfl
      · obtain ⟨hlow, hhigh⟩ := toNat_bounds_of_isDigit hdigit
        omega
      · decide
    have hhyphen : '-' ∉ cs := by
      intro hmem
      rcases h.isDigit_or_eq_point _ hmem with hdigit | heq
      · cases hdigit
      · cases heq
    rw [Layout.text, String.toList_ofList, hchars]
    cases x.negative with
    | true => exact ⟨'-', cs, rfl, hhyphen, List.forall_mem_cons.2 ⟨by decide, hvisible⟩⟩
    | false =>
      obtain ⟨c, rest, rfl, -⟩ := h.exists_eq_cons
      exact ⟨c, rest, rfl, mt (List.mem_cons_of_mem c) hhyphen, hvisible⟩

end NumberRange

/-! ## Reading a key -/

namespace Argument

open NumberRange

/-- A bound is read back, but for the sign of a zero. -/
theorem numberOfChars?_boundText (x : Binary64) :
    numberOfChars? (boundText x).toList = some x.unsigned := by
  obtain ⟨c, cs, hchars, -, hvisible⟩ := exists_toList_boundText x
  have hblank : ∀ d ∈ (boundText x).toList, isBlank d = false := by
    intro d hd
    obtain ⟨hlow, hhigh⟩ := hvisible d (hchars ▸ hd)
    exact isBlank_of_visible hlow hhigh
  rw [numberOfChars?, String.ofList_toList, trim, trimChars_eq_self_of_forall hblank,
    String.ofList_toList, boundText_eq]
  exact Layout.ofText?_text rfl rfl _

/-- A key is split between its bounds. -/
theorem splitRange?_key (range : NumberRange) :
    splitRange? range.key.toList =
      some ((boundText range.low).toList, (boundText range.high).toList) := by
  obtain ⟨c, cs, hchars, hhyphen, hvisible⟩ := exists_toList_boundText range.low
  have hkey : range.key.toList = c :: (cs ++ '-' :: (boundText range.high).toList) := by
    rw [key, String.toList_append, String.toList_append, hchars]
    simp
  have hsplit : splitAt? (· == '-') (cs ++ '-' :: (boundText range.high).toList) =
      some (cs, (boundText range.high).toList) := splitAt?_beq_eq_some_iff.2 ⟨rfl, hhyphen⟩
  rw [hkey, splitRange?, if_pos (hvisible c List.mem_cons_self).2, hsplit, hchars, Option.map_some]

/-- A key is read as the range with its bounds, unless these are the wrong way round. -/
theorem numberRange_key (range : NumberRange) :
    Argument.numberRange range.key =
      if range.low.gt range.high then .error (.reversedRange range.key)
      else .ok ⟨range.low.unsigned, range.high.unsigned⟩ := by
  simp only [Argument.numberRange, splitRange?_key, Option.bind_some, numberOfChars?_boundText,
    Option.bind_eq_bind, Option.pure_def, Binary64.gt, Binary64.order?_unsigned]
  rfl

end Argument

namespace NumberRange

variable {range other : NumberRange}

/-- The key of a range in order is read back as a range with its bounds. -/
theorem IsOrdered.numberRange_key (h : range.IsOrdered) :
    ∃ read, Argument.numberRange range.key = .ok read ∧ read.SameBounds range := by
  refine ⟨⟨range.low.unsigned, range.high.unsigned⟩, ?_, ?_⟩
  · rw [Argument.numberRange_key, h.gt_eq_false]
    rfl
  · rw [SameBounds, Binary64.order?_unsigned_left, Binary64.order?_unsigned_left]
    exact h.sameBounds rfl rfl

/-- Ranges in order that have one key have equal bounds. -/
theorem IsOrdered.sameBounds_of_key (h : range.IsOrdered) (hother : other.IsOrdered)
    (hkey : other.key = range.key) : other.SameBounds range := by
  have hread := congrArg Argument.numberRange hkey
  rw [Argument.numberRange_key, Argument.numberRange_key, h.gt_eq_false, hother.gt_eq_false]
    at hread
  simp only [Bool.false_eq_true, if_false, Except.ok.injEq, NumberRange.mk.injEq] at hread
  exact hother.sameBounds hread.1 hread.2

end NumberRange

/-- The key of a range in order is read back as a range with its bounds, two such ranges have one
key only if their bounds are equal, and so no two groups of a question that differ in their bounds
have one key. -/
theorem range_keys_are_unambiguous {range : NumberRange} (h : range.IsOrdered) :
    (∃ read, Argument.numberRange range.key = .ok read ∧ read.SameBounds range) ∧
      (∀ other : NumberRange, other.IsOrdered → other.key = range.key → other.SameBounds range) ∧
      ∀ (field : String) (ranges : List NumberRange) (order : Option GroupOrder),
        range ∈ ranges → (∀ other ∈ ranges, other.IsOrdered) →
          ∃ groups,
            Question.groupsAggregation field ranges order =
                .groups (SeriesName.ranges field).text field (.ranges groups) [] ∧
              (∃ group ∈ groups, group.key = range.key ∧ group.range = range) ∧
              ∀ group ∈ groups, group.key = range.key → group.range.SameBounds range := by
  refine ⟨h.numberRange_key, fun other hother => h.sameBounds_of_key hother, ?_⟩
  intro field ranges order hrange hordered
  have hfull : ranges.isEmpty = false := List.isEmpty_eq_false_iff_exists_mem.2 ⟨range, hrange⟩
  refine ⟨ranges.map NumberRange.group, ?_, ?_, ?_⟩
  · unfold Question.groupsAggregation
    rw [hfull]
    rfl
  · exact ⟨range.group, List.mem_map_of_mem hrange, rfl, rfl⟩
  · intro group hgroup hkey
    obtain ⟨other, hmem, rfl⟩ := List.mem_map.1 hgroup
    exact h.sameBounds_of_key (hordered other hmem) hkey

/-- All numbers below minus one half. -/
def belowMinusHalf : NumberRange :=
  ⟨.infinite true, .finite ⟨true, 2 ^ 52, 1021, by decide, by decide, .inr (by decide)⟩⟩

theorem range_key_below_minus_half :
    belowMinusHalf.IsOrdered ∧ belowMinusHalf.key = "-inf--0.5" ∧
      (∃ read, Argument.numberRange "-inf--0.5" = .ok read ∧ read.SameBounds belowMinusHalf) ∧
      ∀ other : NumberRange, other.IsOrdered → other.key = "-inf--0.5" →
        other.SameBounds belowMinusHalf := by
  have hkey : belowMinusHalf.key = "-inf--0.5" := by decide +kernel
  have hordered : belowMinusHalf.IsOrdered := by decide
  obtain ⟨hread, hother, -⟩ := range_keys_are_unambiguous hordered
  rw [hkey] at hread hother
  exact ⟨hordered, hkey, hread, hother⟩

end Logbook
