import Logbook.Command.Basic
import Logbook.Proofs.Command.IntervalText
import Logbook.Proofs.Query.TimeRange

/-!
# Windows that end now

A window is chosen by a span of milliseconds that leads up to now. Spans are words of 64 bits
without a sign, every positive one of which can be written (`interval_natText`), and the range of
the window is computed in words with a sign (`TimeRange.toInt_start_upTo`).

* `filter_last`: a span below `2 ^ 63` is the width of the window; from there on the word with a
  sign is negative, and the window is a single instant (`longer_span_narrower_window`).
* `short_spans_widen_windows`: below that bound a longer span never gives a narrower window.
-/

set_option autoImplicit false

namespace Logbook

/-! ## Words with a sign -/

theorem UInt64.toInt_toInt64 (n : UInt64) :
    n.toInt64.toInt = if n.toNat < 2 ^ 63 then (n.toNat : Int) else n.toNat - 2 ^ 64 := by
  have hcond := BitVec.toInt_eq_toNat_cond n.toBitVec
  show n.toBitVec.toInt = _
  rw [hcond]
  simp only [UInt64.toNat_toBitVec]
  split <;> split <;> omega

/-! ## Spans -/

/-- Every span can be written in milliseconds. -/
theorem Argument.interval_natText (span : Interval) :
    interval (natText span.millis.toNat ++ "ms") = .ok span := by
  have hdigits : ∀ c ∈ digits span.millis.toNat, c.isDigit = true := fun _ => isDigit_of_mem_digits
  have hword : (natText span.millis.toNat ++ "ms").toList =
      digits span.millis.toNat ++ ['m', 's'] := by
    simp [natText]
  have hblank : isBlank 'm' = false ∧ isBlank 's' = false := by decide
  have htrim : (trim (natText span.millis.toNat ++ "ms")).toList =
      digits span.millis.toNat ++ ['m', 's'] := by
    rw [trim, String.toList_ofList, hword]
    apply trimChars_eq_self_of_forall
    simp only [List.mem_append, List.mem_cons, List.not_mem_nil, or_false]
    rintro c (hc | rfl | rfl)
    · exact isBlank_of_isDigit (hdigits c hc)
    · exact hblank.1
    · exact hblank.2
  have hlt : digitsValue (digits span.millis.toNat) < 2 ^ 64 := by
    rw [digitsValue_digits]
    exact span.millis.toNat_lt
  rw [interval_eq_ok_iff, htrim]
  refine ⟨digits span.millis.toNat, 1, ⟨digits_ne_nil _, hdigits, _, rfl, .milliseconds⟩, hlt,
    ?_, ?_⟩
  · rwa [Nat.mul_one]
  · rw [Nat.mul_one, digitsValue_digits]

namespace WindowChoice

variable {choice : WindowChoice} {width : UInt64}

/-- The window of a span, whatever else is chosen. -/
theorem filter_last (hlast : choice.last = some width) (now : Int64) :
    ∃ start : Int64,
      choice.filter now = .ok ⟨some ⟨start, now⟩, choice.scope, choice.text⟩ ∧
      start.toInt = if width.toNat < 2 ^ 63 then max (-2 ^ 63) (now.toInt - width.toNat)
        else now.toInt := by
  have hwidth := width.toNat_lt
  have hlow := now.le_toInt
  refine ⟨(TimeRange.upTo width.toInt64 now).start, ?_, ?_⟩
  · simp only [filter, range, hlast]
    rfl
  · rw [TimeRange.toInt_start_upTo, UInt64.toInt_toInt64]
    split <;> omega

/-- A longer span, below half of the words, gives a window that holds the window of a shorter one.
Both reach back by their span, or to the first instant. -/
theorem short_spans_widen_windows (choice : WindowChoice) (now : Int64) {span longer : Interval}
    (hle : span.millis ≤ longer.millis) (hshort : longer.millis.toNat < 2 ^ 63) :
    ∃ start earlier : Int64,
      { choice with last := some span.millis }.filter now =
        .ok ⟨some ⟨start, now⟩, choice.scope, choice.text⟩ ∧
      { choice with last := some longer.millis }.filter now =
        .ok ⟨some ⟨earlier, now⟩, choice.scope, choice.text⟩ ∧
      start.toInt = max (-2 ^ 63) (now.toInt - span.millis.toNat) ∧
      earlier.toInt = max (-2 ^ 63) (now.toInt - longer.millis.toNat) ∧
      earlier ≤ start := by
  obtain ⟨start, hfilter, hstart⟩ :=
    @filter_last { choice with last := some span.millis } _ rfl now
  obtain ⟨earlier, hfilter', hearlier⟩ :=
    @filter_last { choice with last := some longer.millis } _ rfl now
  have hle' : span.millis.toNat ≤ longer.millis.toNat := UInt64.le_iff_toNat_le.1 hle
  rw [if_pos (by omega)] at hstart
  rw [if_pos hshort] at hearlier
  refine ⟨start, earlier, hfilter, hfilter', hstart, hearlier, ?_⟩
  rw [Int64.le_iff_toInt_le]
  omega

theorem short_spans_widen_windows_to_first_instant :
    ∃ start earlier : Int64,
      { all with last := some 900000 }.filter (-10) = .ok ⟨some ⟨start, -10⟩, none, none⟩ ∧
      { all with last := some 9223372036854775807 }.filter (-10) =
        .ok ⟨some ⟨earlier, -10⟩, none, none⟩ ∧
      start.toInt = -900010 ∧ earlier.toInt = -2 ^ 63 ∧ earlier ≤ start := by
  obtain ⟨start, earlier, hfilter, hfilter', hstart, hearlier, hle⟩ :=
    @short_spans_widen_windows all (-10) ⟨900000, by decide⟩ ⟨9223372036854775807, by decide⟩
      (by decide) (by decide)
  exact ⟨start, earlier, hfilter, hfilter', by rw [hstart]; decide, by rw [hearlier]; decide, hle⟩

/-- From half of the words on a span is read as a negative width, and its window is one instant. -/
theorem longer_span_narrower_window :
    ∃ span longer : Interval,
      Argument.interval "9223372036854775807ms" = .ok span ∧
      Argument.interval "9223372036854775808ms" = .ok longer ∧
      span.millis < longer.millis ∧
      { all with last := some span.millis }.filter 10000000 =
        .ok ⟨some ⟨-9223372036844775807, 10000000⟩, none, none⟩ ∧
      { all with last := some longer.millis }.filter 10000000 =
        .ok ⟨some ⟨10000000, 10000000⟩, none, none⟩ := by
  refine ⟨⟨9223372036854775807, by decide⟩, ⟨9223372036854775808, by decide⟩, ?_, ?_, ?_, ?_, ?_⟩
  · decide +kernel
  · decide +kernel
  · decide
  · decide +kernel
  · decide +kernel

end WindowChoice

end Logbook
