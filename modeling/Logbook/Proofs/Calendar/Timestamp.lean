import Logbook.Calendar.Timestamp
import Logbook.Proofs.Calendar.DateText
import Logbook.Proofs.Partition.Days
import Logbook.Proofs.Text.Blank

/-!
# Written timestamps

An instant is written from an offset as the local date and time and a spelling of the offset.

* `Offset.Spells`: the spellings of an offset, a sign and four digits with or without a colon, or
  `Z` for none.
* `Timestamp.ofInstant`: the local date and time of an instant; they name that instant again
  (`Timestamp.instant?_ofInstant`).
* `instantOfText?_timestampText`: with a local year of four digits a written timestamp is read back
  to its instant, a spelling with a colon or `Z` in the strict form and one without in the loose
  form, after the strict one has failed on it.
-/

set_option autoImplicit false

namespace Logbook

/-! ## Spellings of offsets -/

namespace Offset

/-- The sign in front of an offset. -/
def signChar (negative : Bool) : Char := if negative then '-' else '+'

/-- A sign, two digits of hours, what stands between, and two digits of minutes. -/
def signedChars (negative : Bool) (hours : Nat) (between : List Char) (minutes : Nat) : List Char :=
  signChar negative :: (paddedDigits 2 hours ++ (between ++ paddedDigits 2 minutes))

/-- The characters are a spelling of the offset. -/
inductive Spells (offset : Offset) : List Char → Prop
  /-- Hours and minutes with a colon or nothing between them; zero has either sign. -/
  | signed {negative : Bool} {hours minutes : Nat} {between : List Char} (hhours : hours ≤ 23)
      (hminutes : minutes ≤ 59) (hbetween : between = [':'] ∨ between = [])
      (hoffset : offset.minutes =
        if negative then -(60 * hours + minutes : Int) else 60 * hours + minutes) :
      Spells offset (signedChars negative hours between minutes)
  | letter (hoffset : offset.minutes = 0) : Spells offset ['Z']

/-- An offset is its sign, its hours and its minutes. -/
theorem minutes_eq_signed (offset : Offset) :
    offset.minutes = if (decide (offset.minutes < 0)) then
        -(60 * (offset.minutes.natAbs / 60 : Nat) + (offset.minutes.natAbs % 60 : Nat) : Int)
      else 60 * (offset.minutes.natAbs / 60 : Nat) + (offset.minutes.natAbs % 60 : Nat) := by
  by_cases hneg : offset.minutes < 0
  · rw [decide_eq_true hneg, if_pos rfl]
    omega
  · rw [decide_eq_false hneg, if_neg (by decide)]
    omega

theorem ofParts?_of_minutes {offset : Offset} {negative : Bool} {hours minutes : Nat}
    (hhours : hours ≤ 23) (hminutes : minutes ≤ 59)
    (hoffset : offset.minutes =
      if negative then -(60 * hours + minutes : Int) else 60 * hours + minutes) :
    ofParts? negative hours minutes = some offset := by
  have hlow := offset.minutes_gt
  have hhigh := offset.minutes_lt
  have hmade : ofParts? negative hours minutes = ofMinutes? offset.minutes := by
    rw [hoffset]
    exact if_pos ⟨hhours, hminutes⟩
  rw [hmade, ofMinutes?, dif_pos ⟨hlow, hhigh⟩]

theorem eq_utc_of_minutes {offset : Offset} (h : offset.minutes = 0) : offset = utc := by
  cases offset
  cases h
  rfl

theorem isDigit_signChar (negative : Bool) : (signChar negative).isDigit = false := by
  cases negative <;> rfl

/-- A spelling does not begin with a digit. -/
theorem Spells.exists_eq_cons {offset : Offset} {zone : List Char} (h : offset.Spells zone) :
    ∃ c rest, zone = c :: rest ∧ c.isDigit = false := by
  cases h with
  | signed => exact ⟨_, _, rfl, isDigit_signChar _⟩
  | letter => exact ⟨_, _, rfl, rfl⟩

end Offset

/-! ## Instants as dates and times -/

namespace Timestamp

/-- The local date and time of an instant. -/
def ofInstant (offset : Offset) (instant : Int) : Timestamp :=
  let time := (instant + offset.millis) % millisPerDay
  { date := Date.ofDay (localDay offset instant)
    hour := (time / 3600000).toNat
    minute := (time / 60000 % 60).toNat
    second := (time / 1000 % 60).toNat
    milli := (time % 1000).toNat
    offset }

variable {offset : Offset} {instant : Int}

theorem bounds_ofInstant (offset : Offset) (instant : Int) :
    (ofInstant offset instant).hour ≤ 23 ∧ (ofInstant offset instant).minute ≤ 59 ∧
      (ofInstant offset instant).second ≤ 59 ∧ (ofInstant offset instant).milli ≤ 999 := by
  simp only [ofInstant, millisPerDay]
  omega

/-- Date and time of an instant name it again. -/
theorem toInstant_ofInstant (offset : Offset) (instant : Int) :
    (ofInstant offset instant).toInstant = instant := by
  simp only [toInstant, ofInstant, Date.toDay_ofDay, localDay, dayOf, millisPerDay]
  omega

theorem day_ofInstant (offset : Offset) (instant : Int) :
    (ofInstant offset instant).day = dayOf instant := by
  obtain ⟨-, -, hsecond, -⟩ := bounds_ofInstant offset instant
  rw [day, Nat.min_eq_left hsecond]
  exact congrArg dayOf (toInstant_ofInstant offset instant)

/-- A date with a year of four digits is far from the ends of the calendar. -/
theorem bounds_of_hasFourDigits {day : Int} (hfour : (Date.ofDay day).HasFourDigits) :
    firstDay < day ∧ day < lastDay := by
  obtain ⟨hlow, hhigh⟩ := hfour
  have hfirst : (Date.ofDay (firstDay + 1)).year = firstYear := by decide
  have hlast : (Date.ofDay (lastDay - 1)).year = lastYear := by decide
  simp only [firstYear, lastYear] at hfirst hlast
  constructor
  · by_contra hle
    have hbefore := Date.before_ofDay (show day < firstDay + 1 by omega)
    unfold Date.Before at hbefore
    omega
  · by_contra hle
    have hbefore := Date.before_ofDay (show lastDay - 1 < day by omega)
    unfold Date.Before at hbefore
    omega

theorem isValid_ofInstant (hfour : (ofInstant offset instant).date.HasFourDigits) :
    (ofInstant offset instant).isValid = true := by
  obtain ⟨hhour, hminute, hsecond, -⟩ := bounds_ofInstant offset instant
  obtain ⟨⟨hmonth, hmonth'⟩, hday, hday'⟩ := Date.bounds_ofDay (localDay offset instant)
  obtain ⟨hlow, hhigh⟩ := hfour
  simp only [isValid, Date.isValid, Bool.and_eq_true, decide_eq_true_eq]
  refine ⟨⟨⟨⟨⟨⟨⟨⟨?_, ?_⟩, hmonth⟩, hmonth'⟩, hday⟩, hday'⟩, hhour⟩, hminute⟩, by omega⟩
  · exact Int.le_trans (by decide) hlow
  · exact Int.le_trans hhigh (by decide)

/-- With a local year of four digits, the date and time of an instant are understood. -/
theorem instant?_ofInstant (hfour : (ofInstant offset instant).date.HasFourDigits) :
    (ofInstant offset instant).instant? = some instant := by
  obtain ⟨hbefore, hafter⟩ := localDay_bounds offset instant
  obtain ⟨hfirst, hlast⟩ := bounds_of_hasFourDigits hfour
  have hin : inCalendar (dayOf instant) = true := inCalendar_iff.2 (by omega)
  rw [instant?, isValid_ofInstant hfour, day_ofInstant, hin, toInstant_ofInstant]
  rfl

/-! ## The text -/

/-- Date and time as `yyyy-MM-ddTHH:mm:ss.SSS`, in front of a spelling of the offset. -/
def chars (t : Timestamp) (zone : List Char) : List Char :=
  paddedDigits 4 t.date.year.natAbs ++ '-' :: (paddedDigits 2 t.date.month ++
    '-' :: (paddedDigits 2 t.date.day ++ 'T' :: (paddedDigits 2 t.hour ++
      ':' :: (paddedDigits 2 t.minute ++ ':' :: (paddedDigits 2 t.second ++
        '.' :: (paddedDigits 3 t.milli ++ zone))))))

open Scanner

/-! ## Parts of the notation -/

theorem exists_paddedDigits_eq_cons (width n : Nat) :
    ∃ c rest, paddedDigits width n = c :: rest ∧ c.isDigit = true := by
  cases hcs : paddedDigits width n with
  | nil =>
    have hnil := (List.append_eq_nil_iff.1 hcs).2
    exact absurd hnil (digits_ne_nil n)
  | cons c rest => exact ⟨c, rest, rfl, isDigit_of_mem_paddedDigits (hcs ▸ List.mem_cons_self)⟩

/-- In front of a number there is nothing to pass over. -/
theorem run_skipWhile_paddedDigits {p : Char → Bool} (hp : ∀ c, c.isDigit = true → p c = false)
    (width n : Nat) (rest : List Char) :
    (skipWhile p).run (paddedDigits width n ++ rest) = some ((), paddedDigits width n ++ rest) := by
  obtain ⟨c, cs, hcs, hc⟩ := exists_paddedDigits_eq_cons width n
  rw [hcs, List.cons_append, run_skipWhile_of_neg (hp c hc)]

theorem run_looseNumber {n : Nat} (hn : n < 100) (rest : List Char) :
    looseNumber.run (paddedDigits 2 n ++ rest) = some (n, rest) := by
  rw [looseNumber,
    run_bind_of_some (run_skipWhile_paddedDigits (fun _ => isBlank_of_isDigit) 2 n _)]
  exact run_number_paddedDigits (by decide) (by decide) hn rest

theorem run_looseYear {n : Nat} (hn : n < 10000) (rest : List Char) :
    looseYear.run (paddedDigits 4 n ++ rest) = some ((n : Int), rest) := by
  obtain ⟨c, cs, hcs, hc⟩ := exists_paddedDigits_eq_cons 4 n
  have hnot {sign : Char} (hsign : sign.isDigit = false) :
      (accept sign).run (paddedDigits 4 n ++ rest) = some (false, paddedDigits 4 n ++ rest) := by
    apply run_accept_of_head?
    rw [hcs]
    rintro ⟨⟩
    rw [hc] at hsign
    cases hsign
  rw [looseYear, run_bind_of_some (run_skipWhile_paddedDigits (fun _ => isBlank_of_isDigit) 4 n _),
    run_bind_of_some (hnot rfl)]
  simp only [Bool.false_eq_true, if_false]
  rw [run_bind_of_some (hnot rfl)]
  simp only [Bool.false_eq_true, if_false]
  rw [run_bind_of_some (run_number_paddedDigits (by decide) (by decide) hn rest)]
  rfl

/-- Three digits behind a point are milliseconds. -/
theorem run_fraction {n : Nat} (hn : n < 1000) {c : Char} (hc : c.isDigit = false)
    (rest : List Char) :
    fraction.run ('.' :: (paddedDigits 3 n ++ c :: rest)) = some (n, c :: rest) := by
  have hdigits : ∀ d ∈ paddedDigits 3 n, d.isDigit = true := fun _ => isDigit_of_mem_paddedDigits
  have hlength : (paddedDigits 3 n).length = 3 := length_paddedDigits (by decide) hn
  have htaken : (takeWhile Char.isDigit).run (paddedDigits 3 n ++ c :: rest) =
      some (paddedDigits 3 n, c :: rest) := by
    show some (_, _) = _
    rw [List.takeWhile_append_of_pos hdigits, List.dropWhile_append_of_pos hdigits,
      List.takeWhile_cons_of_neg (by simp [hc]), List.dropWhile_cons_of_neg (by simp [hc]),
      List.append_nil]
  have hsome : (guard (!(paddedDigits 3 n).isEmpty) : Scanner Unit).run (c :: rest) =
      some ((), c :: rest) := by
    obtain ⟨d, ds, hds, -⟩ := exists_paddedDigits_eq_cons 3 n
    rw [hds]
    rfl
  rw [fraction, run_bind_of_some (run_accept_self '.' _)]
  simp only [if_true]
  rw [run_bind_of_some htaken, run_bind_of_some hsome, List.take_append_of_le_length (by omega),
    List.take_of_length_le (by omega), digitsValue_paddedDigits]
  rfl

section
variable {negative : Bool} {hours minutes : Nat} {between rest : List Char}

theorem run_offsetSign (negative : Bool) (cs : List Char) :
    offsetSign.run (Offset.signChar negative :: cs) = some (negative, cs) := by
  cases negative <;> rfl

/-- Sign and digits are read as an offset, where what stands between the digits is passed over. -/
theorem run_offsetWith {scan : Scanner Unit} (hhours : hours ≤ 23) (hminutes : minutes ≤ 59)
    (hoffset : offset.minutes =
      if negative then -(60 * hours + minutes : Int) else 60 * hours + minutes)
    (hscan : scan.run (between ++ paddedDigits 2 minutes) = some ((), paddedDigits 2 minutes)) :
    (offsetWith scan).run (Offset.signedChars negative hours between minutes) =
      some (offset, []) := by
  have hlast : (number 2 2).run (paddedDigits 2 minutes ++ []) = some (minutes, []) :=
    run_number_paddedDigits (by decide) (by decide) (by omega) []
  rw [List.append_nil] at hlast
  rw [offsetWith, Offset.signedChars, run_bind_of_some (run_offsetSign negative _),
    run_bind_of_some (run_number_paddedDigits (by decide) (by decide) (by omega) _),
    run_bind_of_some hscan, run_bind_of_some hlast,
    Offset.ofParts?_of_minutes hhours hminutes hoffset]
  rfl

theorem run_strictOffset_signed (negative : Bool) (cs : List Char) :
    strictOffset.run (Offset.signChar negative :: cs) =
      (offsetWith (char ':')).run (Offset.signChar negative :: cs) := by
  cases negative <;> rfl

/-- Without a colon the offset is none of the strict form. -/
theorem run_strictOffset_plain (hhours : hours ≤ 23) :
    strictOffset.run (Offset.signedChars negative hours [] minutes) = none := by
  obtain ⟨c, cs, hcs, hc⟩ := exists_paddedDigits_eq_cons 2 minutes
  have hne : c ≠ ':' := by
    rintro rfl
    cases hc
  rw [Offset.signedChars, run_strictOffset_signed, offsetWith,
    run_bind_of_some (run_offsetSign negative _),
    run_bind_of_some (run_number_paddedDigits (by decide) (by decide) (by omega) _)]
  apply run_bind_of_none
  rw [List.nil_append, hcs, run_char, if_neg hne]

end

/-! ## Whole timestamps -/

/-- Every part fits into the width in which it is written. -/
structure Fits (t : Timestamp) : Prop where
  year : t.date.HasFourDigits
  month : t.date.month < 100
  day : t.date.day < 100
  hour : t.hour < 100
  minute : t.minute < 100
  second : t.second < 100
  milli : t.milli < 1000

theorem fits_ofInstant (hfour : (ofInstant offset instant).date.HasFourDigits) :
    (ofInstant offset instant).Fits := by
  obtain ⟨hhour, hminute, hsecond, hmilli⟩ := bounds_ofInstant offset instant
  obtain ⟨⟨-, hmonth⟩, -, hday⟩ := Date.bounds_ofDay (localDay offset instant)
  have hle := Date.daysInMonth_le (Date.ofDay (localDay offset instant)).year
    (Date.ofDay (localDay offset instant)).month
  exact ⟨hfour, Nat.lt_of_le_of_lt hmonth (by decide),
    Nat.lt_of_le_of_lt (hday.trans hle) (by decide), by omega, by omega, by omega, by omega⟩

section
variable {t : Timestamp} {zone : List Char} {c : Char}

/-- In the strict form all depends on the offset. -/
theorem run_strict (h : t.Fits) (hc : c.isDigit = false) :
    strict.run (t.chars (c :: zone)) =
      (strictOffset.run (c :: zone)).map fun read => ({ t with offset := read.1 }, read.2) := by
  have hdigits {width n : Nat} (hwidth : 1 ≤ width) (hn : n < 10 ^ width) (rest : List Char) :
      (number width width).run (paddedDigits width n ++ rest) = some (n, rest) :=
    run_number_paddedDigits (Nat.le_refl _) hwidth hn rest
  obtain ⟨hlow, hhigh⟩ := h.year
  rw [strict, chars, run_bind_of_some (hdigits (by decide) (by omega) _),
    run_bind_of_some (run_char '-' '-' _), run_bind_of_some (hdigits (by decide) h.month _),
    run_bind_of_some (run_char '-' '-' _), run_bind_of_some (hdigits (by decide) h.day _),
    run_bind_of_some (run_satisfy_of_pos rfl _), run_bind_of_some (hdigits (by decide) h.hour _),
    run_bind_of_some (run_char ':' ':' _), run_bind_of_some (hdigits (by decide) h.minute _),
    run_bind_of_some (run_char ':' ':' _), run_bind_of_some (hdigits (by decide) h.second _),
    run_bind_of_some (run_fraction h.milli hc zone), Int.natAbs_of_nonneg hlow]
  cases hoffset : strictOffset.run (c :: zone) with
  | none => exact run_bind_of_none hoffset
  | some read => exact run_bind_of_some hoffset

/-- A timestamp whose offset is written without a colon is read in the loose form. -/
theorem run_loose {negative : Bool} {hours minutes : Nat} (h : t.Fits) (hhours : hours ≤ 23)
    (hminutes : minutes ≤ 59) (hoffset : t.offset.minutes =
      if negative then -(60 * hours + minutes : Int) else 60 * hours + minutes) :
    loose.run (t.chars (Offset.signedChars negative hours [] minutes)) = some (t, []) := by
  obtain ⟨hlow, hhigh⟩ := h.year
  have hsign : isBlank (Offset.signChar negative) = false := by cases negative <;> rfl
  have hnone : (skipWhile fun c => c == ':' || isBlank c).run ([] ++ paddedDigits 2 minutes) =
      some ((), paddedDigits 2 minutes) := by
    have hskip := run_skipWhile_paddedDigits (p := fun c => c == ':' || isBlank c)
      (fun c hc => ?_) 2 minutes []
    · rwa [List.append_nil] at hskip
    · rw [isBlank_of_isDigit hc, Bool.or_false, beq_eq_false_iff_ne]
      rintro rfl
      cases hc
  have hwith := run_offsetWith hhours hminutes hoffset hnone
  rw [Offset.signedChars] at hwith
  rw [loose, chars, Offset.signedChars, run_bind_of_some (run_looseYear (by omega) _),
    run_bind_of_some (run_char '-' '-' _), run_bind_of_some (run_looseNumber h.month _),
    run_bind_of_some (run_char '-' '-' _), run_bind_of_some (run_looseNumber h.day _),
    run_bind_of_some (run_char 'T' 'T' _), run_bind_of_some (run_looseNumber h.hour _),
    run_bind_of_some (run_char ':' ':' _), run_bind_of_some (run_looseNumber h.minute _),
    run_bind_of_some (run_char ':' ':' _), run_bind_of_some (run_looseNumber h.second _),
    run_bind_of_some (run_fraction h.milli (Offset.isDigit_signChar negative) _),
    run_bind_of_some (run_skipWhile_of_neg hsign _), run_bind_of_some hwith,
    Int.natAbs_of_nonneg hlow]
  rfl

end

end Timestamp

/-- An instant as it is written from an offset of the given spelling. -/
def timestampText (offset : Offset) (zone : List Char) (instant : Int) : String :=
  String.ofList ((Timestamp.ofInstant offset instant).chars zone)

open Timestamp Scanner in
/-- **A written timestamp is read back to its instant.** -/
theorem instantOfText?_timestampText {offset : Offset} {zone : List Char} {instant : Int}
    (hfour : (Date.ofDay (localDay offset instant)).HasFourDigits) (hzone : offset.Spells zone) :
    instantOfText? (timestampText offset zone instant) = some instant := by
  have hfits : (ofInstant offset instant).Fits := fits_ofInstant hfour
  have hinstant : (ofInstant offset instant).instant? = some instant := instant?_ofInstant hfour
  -- what the strict form makes of the offset decides
  have hstrict (hread : strictOffset.run zone = some (offset, [])) :
      instantOfText? (timestampText offset zone instant) = some instant := by
    obtain ⟨c, rest, rfl, hc⟩ := hzone.exists_eq_cons
    have hrun := @run_strict _ rest _ hfits hc
    rw [hread, Option.map_some] at hrun
    simp only [instantOfText?, strictInstant?, timestampText, Scanner.all?, String.toList_ofList,
      hrun, Option.bind_some]
    exact congrArg (Option.orElse · _) hinstant
  cases hzone with
  | letter hoffset =>
    apply hstrict
    rw [Offset.eq_utc_of_minutes hoffset]
    rfl
  | @signed negative hours minutes between hhours hminutes hbetween hoffset =>
    rcases hbetween with rfl | rfl
    · apply hstrict
      rw [Offset.signedChars, run_strictOffset_signed]
      exact run_offsetWith hhours hminutes hoffset (run_char ':' ':' _)
    · have hfails : strict.run ((ofInstant offset instant).chars
          (Offset.signedChars negative hours [] minutes)) = none := by
        have hrun := @run_strict _ (paddedDigits 2 hours ++ ([] ++ paddedDigits 2 minutes)) _
          hfits (Offset.isDigit_signChar negative)
        have hplain := @run_strictOffset_plain negative hours minutes hhours
        rw [Offset.signedChars] at hplain ⊢
        rw [hrun, hplain]
        rfl
      have hrun := run_loose (t := ofInstant offset instant) hfits hhours hminutes hoffset
      simp only [instantOfText?, strictInstant?, timestampText, Scanner.all?,
        String.toList_ofList, hfails, hrun, Option.bind_none, Option.bind_some]
      exact hinstant

end Logbook
