import Logbook.Proofs.Fallible
import Logbook.Proofs.Number.Binary64
import Logbook.Proofs.Overflow
import Logbook.Query.Basic

/-!
# Time ranges and their widths

A time range is built from two instants in order, or as the window of a width up to an instant.
`Built` says of a range that it comes from one of the two, and holds of the ranges in order and of
no others (`built_iff`). A range is up to twice as long (`duration`) as a word with a sign can say,
and its width is such a word, or there is none.

* `between_eq_ok_iff`, `between_eq_error_iff`: which two instants are taken for a range.
* `toInt_start_upTo`: a window reaches back by its width, or to the first instant.
* `width_eq_ok_iff`, `exists_width_iff`: the width of a range is its duration, and a range in order
  has one where that is below `2 ^ 63`.
* `exists_upTo_iff`: the ranges that are windows are those whose duration is below `2 ^ 63`.
* `widths_exact_below_half_of_words`: all of them together. The shortest of the other ranges has no
  width (`no_width_of_range_in_order`).
-/

set_option autoImplicit false

namespace Logbook

namespace TimeRange

/-- The ranges that are built from instants, or from a width and an instant. -/
inductive Built : TimeRange → Prop
  | between {start stop : Int64} {range : TimeRange} (h : between start stop = .ok range) :
      Built range
  | upTo (width now : Int64) : Built (upTo width now)

/-- How long a range is, in milliseconds, without a word's end. -/
def duration (range : TimeRange) : Int := range.stop.toInt - range.start.toInt

/-! ## Ranges of two instants -/

theorem check_eq_ok_iff {range : TimeRange} : range.check = .ok () ↔ range.start ≤ range.stop := by
  unfold check
  split
  · rename_i hlt
    exact ⟨fun h => (by cases h), fun hle => absurd hlt (Int64.not_lt.2 hle)⟩
  · rename_i hnlt
    exact ⟨fun _ => Int64.not_lt.1 hnlt, fun _ => rfl⟩

theorem check_eq_error_iff {range : TimeRange} {fault : QueryFault} :
    range.check = .error fault ↔
      range.stop < range.start ∧ fault = .inverted range.start range.stop := by
  unfold check
  split
  · simp_all [eq_comm]
  · rename_i hnlt
    simp [hnlt]

theorem between_eq_ok_iff {start stop : Int64} {range : TimeRange} :
    between start stop = .ok range ↔ start ≤ stop ∧ range = ⟨start, stop⟩ := by
  unfold between
  rw [Fallible.bind_eq_ok_iff]
  constructor
  · rintro ⟨_, hcheck, hrange⟩
    cases hrange
    exact ⟨check_eq_ok_iff.1 hcheck, rfl⟩
  · rintro ⟨hle, rfl⟩
    exact ⟨(), check_eq_ok_iff.2 hle, rfl⟩

theorem between_eq_error_iff {start stop : Int64} {fault : QueryFault} :
    between start stop = .error fault ↔ stop < start ∧ fault = .inverted start stop :=
  Fallible.bind_ok_eq_error_iff.trans check_eq_error_iff

/-! ## Windows up to an instant -/

section
variable (width now : Int64)

theorem toInt_start_upTo :
    (upTo width now).start.toInt = max (-2 ^ 63) (now.toInt - max width.toInt 0) := by
  have hnow := now.toInt_lt
  rw [upTo, toInt_clampInt64]
  omega

/-- A range up to an instant never ends before it starts. -/
theorem start_le_stop_upTo : (upTo width now).start ≤ (upTo width now).stop := by
  have hlow := now.le_toInt
  rw [Int64.le_iff_toInt_le, toInt_start_upTo]
  change _ ≤ now.toInt
  omega

/-- A window is as long as it is wide, or reaches back to the first instant. -/
theorem duration_upTo :
    (upTo width now).duration = min (max width.toInt 0) (now.toInt + 2 ^ 63) := by
  rw [duration, toInt_start_upTo]
  change now.toInt - _ = _
  omega

end

variable {range : TimeRange}

theorem built_iff : range.Built ↔ range.start ≤ range.stop := by
  constructor
  · rintro (h | ⟨width, now⟩)
    · obtain ⟨hle, rfl⟩ := between_eq_ok_iff.1 h
      exact hle
    · exact start_le_stop_upTo width now
  · intro hle
    exact .between (between_eq_ok_iff.2 ⟨hle, rfl⟩)

/-! ## Widths -/

/-- The width of a range is the word that stands for its duration. -/
theorem width_eq_ok_iff {width : Int64} :
    range.width = .ok width ↔ width.toInt = range.duration :=
  timeBetween_eq_ok_iff

section
variable (h : range.start ≤ range.stop)
include h

/-- A range in order is shorter than there are words. -/
theorem duration_bounds : 0 ≤ range.duration ∧ range.duration < 2 ^ 64 := by
  have hle := Int64.le_iff_toInt_le.1 h
  have hlow := range.start.le_toInt
  have hhigh := range.stop.toInt_lt
  unfold duration
  omega

theorem zero_le_width {width : Int64} (hwidth : range.width = .ok width) : 0 ≤ width := by
  rw [Int64.le_iff_toInt_le, width_eq_ok_iff.1 hwidth, Int64.toInt_zero]
  exact (duration_bounds h).1

/-- A range in order has a width where its duration is below half of the words. -/
theorem exists_width_iff : (∃ width, range.width = .ok width) ↔ range.duration < 2 ^ 63 := by
  obtain ⟨hnonneg, -⟩ := duration_bounds h
  constructor
  · rintro ⟨width, hwidth⟩
    rw [← width_eq_ok_iff.1 hwidth]
    exact width.toInt_lt
  · intro hshort
    exact ⟨Int64.ofInt range.duration,
      width_eq_ok_iff.2 (Int64.toInt_ofInt_of_le (by omega) hshort)⟩

theorem width_eq_error_iff {overflow : Overflow} :
    range.width = .error overflow ↔ 2 ^ 63 ≤ range.duration ∧ overflow = .difference := by
  obtain ⟨hnonneg, -⟩ := duration_bounds h
  rw [width, timeBetween_eq_error_iff]
  refine and_congr_left fun _ => ?_
  unfold duration at hnonneg ⊢
  omega

/-- A range that has a width is the window of that width. -/
theorem upTo_width {width : Int64} (hwidth : range.width = .ok width) :
    upTo width range.stop = range := by
  have hle := Int64.le_iff_toInt_le.1 h
  have hlow := range.start.le_toInt
  have hduration := width_eq_ok_iff.1 hwidth
  have hstart : (upTo width range.stop).start = range.start := by
    rw [← Int64.toInt_inj, toInt_start_upTo, hduration]
    unfold duration
    omega
  calc upTo width range.stop
      = ⟨(upTo width range.stop).start, range.stop⟩ := rfl
    _ = range := by rw [hstart]

theorem exists_upTo_iff :
    (∃ width, upTo width range.stop = range) ↔ range.duration < 2 ^ 63 := by
  constructor
  · rintro ⟨width, hrange⟩
    have hwidth := width.toInt_lt
    rw [← hrange, duration_upTo]
    omega
  · intro hshort
    obtain ⟨width, hwidth⟩ := (exists_width_iff h).2 hshort
    exact ⟨width, upTo_width h hwidth⟩

end

end TimeRange

open TimeRange in
/-- **Widths are exact below half of the words.** Two instants are taken for a range where they are
in order and refused otherwise. A window up to an instant ends there and starts earlier by its
width, or at the first instant there is; a negative width counts as none. Every range that is built
in one of these ways is in order, and a width that it has is its duration, without a word's end and
never negative. It has one exactly where its duration is below `2 ^ 63`: so all windows have one,
and no other range has. From there on there is an overflow. -/
theorem widths_exact_below_half_of_words (start stop width now : Int64) :
    (∀ range, between start stop = .ok range ↔ start ≤ stop ∧ range = ⟨start, stop⟩) ∧
    (∀ fault, between start stop = .error fault ↔
      stop < start ∧ fault = .inverted start stop) ∧
    (∃ first length : Int64, upTo width now = ⟨first, now⟩ ∧
      first.toInt = max (-2 ^ 63) (now.toInt - max width.toInt 0) ∧
      (upTo width now).width = .ok length ∧
      length.toInt = now.toInt - first.toInt ∧ 0 ≤ length) ∧
    ∀ range, Built range →
      range.start ≤ range.stop ∧
      (∀ length, range.width = .ok length → length.toInt = range.duration ∧ 0 ≤ length) ∧
      ((∃ length, range.width = .ok length) ↔ range.duration < 2 ^ 63) ∧
      ((∃ width, upTo width range.stop = range) ↔ range.duration < 2 ^ 63) ∧
      (∀ overflow, range.width = .error overflow ↔
        2 ^ 63 ≤ range.duration ∧ overflow = .difference) := by
  refine ⟨fun range => between_eq_ok_iff, fun fault => between_eq_error_iff, ?window,
    fun range hbuilt => ?built⟩
  case window =>
    have hle := start_le_stop_upTo width now
    obtain ⟨length, hlength⟩ := (exists_width_iff hle).2 ((exists_upTo_iff hle).1 ⟨width, rfl⟩)
    exact ⟨_, length, rfl, toInt_start_upTo width now, hlength, width_eq_ok_iff.1 hlength,
      zero_le_width hle hlength⟩
  case built =>
    have hle := built_iff.1 hbuilt
    exact ⟨hle, fun length hlength => ⟨width_eq_ok_iff.1 hlength, zero_le_width hle hlength⟩,
      exists_width_iff hle, exists_upTo_iff hle, fun overflow => width_eq_error_iff hle⟩

open TimeRange in
/-- The longest range with a width that starts before zero, and the range of all instants. -/
theorem widths_of_longest_ranges :
    let short : TimeRange := ⟨-1, 9223372036854775806⟩
    let all : TimeRange := ⟨-9223372036854775808, 9223372036854775807⟩
    Built short ∧ short.duration = 2 ^ 63 - 1 ∧
      (∃ length, short.width = .ok length ∧ length.toInt = 2 ^ 63 - 1) ∧
      Built all ∧ all.duration = 2 ^ 64 - 1 ∧ all.width = .error .difference := by
  intro short all
  obtain ⟨hbetween, -, -, hwidths⟩ :=
    widths_exact_below_half_of_words short.start short.stop 0 0
  have hshort : Built short := .between ((hbetween short).2 ⟨by decide, rfl⟩)
  have hall : Built all := .between (between_eq_ok_iff.2 ⟨by decide, rfl⟩)
  obtain ⟨-, hexact, hexists, -⟩ := hwidths short hshort
  obtain ⟨-, -, -, -, hlong⟩ := hwidths all hall
  obtain ⟨length, hlength⟩ := hexists.2 (by decide)
  refine ⟨hshort, by decide, ⟨length, hlength, ?_⟩, hall, by decide, ?_⟩
  · exact (hexact length hlength).1.trans (by decide)
  · exact (hlong _).2 ⟨by decide, rfl⟩

/-- A range in order that is one millisecond longer than a word with a sign can say: it has no
width. -/
theorem no_width_of_range_in_order :
    ∃ range : TimeRange, TimeRange.between (-1) 9223372036854775807 = .ok range ∧
      range.start ≤ range.stop ∧ range.duration = 2 ^ 63 ∧
      range.width = .error .difference := by
  refine ⟨⟨-1, 9223372036854775807⟩, ?_⟩
  decide

end Logbook
