import Mathlib.Algebra.Order.Ring.Int
import Logbook.Proofs.Calendar.Date
import Logbook.Proofs.Number.Digits
import Logbook.Proofs.Text.Bytes
import Logbook.Proofs.Text.Scanner
import Logbook.Proofs.Text.Split

/-!
# Dates as text

* `Date.chars_injective`: no two dates have one text, whatever their years.
* `Date.Before`, `Date.before_ofDay`: later days have later dates; `Date.chars_ofDay_lt`: with
  years of four digits they have later texts.
* `dayOfText?_chars`: a text with a year of four digits is read back to its day.
-/

set_option autoImplicit false

namespace Logbook

namespace Date

/-! ## No two dates have one text -/

theorem point_not_mem_paddedDigits (width n : Nat) : '.' ∉ paddedDigits width n :=
  not_mem_paddedDigits rfl width n

theorem point_not_mem_yearChars (year : Int) : '.' ∉ yearChars year := by
  have hdigits := point_not_mem_paddedDigits 4 year.natAbs
  unfold yearChars
  split
  · exact hdigits
  · split <;> simpa using hdigits

theorem paddedDigits_ne_cons {c : Char} (hc : c.isDigit = false) (width n : Nat)
    (rest : List Char) : paddedDigits width n ≠ c :: rest := by
  intro h
  have hdigit := isDigit_of_mem_paddedDigits (h ▸ List.mem_cons_self)
  rw [hc] at hdigit
  cases hdigit

/-- A sign tells years of more digits and negative ones from the others. -/
theorem yearChars_injective : Function.Injective yearChars := by
  intro year other h
  have hvalue {n m : Nat} (h : paddedDigits 4 n = paddedDigits 4 m) : n = m :=
    paddedDigits_injective 4 h
  unfold yearChars at h
  by_cases hfour : 0 ≤ year ∧ year ≤ 9999
  · by_cases hfour' : 0 ≤ other ∧ other ≤ 9999
    · rw [if_pos hfour, if_pos hfour'] at h
      have := hvalue h
      omega
    · rw [if_pos hfour, if_neg hfour'] at h
      exact absurd h (paddedDigits_ne_cons (by split <;> rfl) _ _ _)
  · by_cases hfour' : 0 ≤ other ∧ other ≤ 9999
    · rw [if_neg hfour, if_pos hfour'] at h
      exact absurd h.symm (paddedDigits_ne_cons (by split <;> rfl) _ _ _)
    · rw [if_neg hfour, if_neg hfour', List.cons.injEq] at h
      obtain ⟨hsign, hdigits⟩ := h
      have hsame := hvalue hdigits
      have hsigns : year < 0 ↔ other < 0 := by
        by_cases hneg : year < 0 <;> by_cases hneg' : other < 0 <;>
          simp [hneg, hneg'] at hsign ⊢
      omega

theorem chars_eq (date : Date) :
    date.chars = yearChars date.year ++
      '.' :: (paddedDigits 2 date.month ++ '.' :: paddedDigits 2 date.day) := by
  rw [chars, List.append_assoc]
  rfl

/-- No two dates have one text. -/
theorem chars_injective : Function.Injective chars := by
  rintro ⟨year, month, day⟩ ⟨year', month', day'⟩ h
  simp only [chars_eq] at h
  obtain ⟨hyear, h⟩ :=
    append_cons_inj (point_not_mem_yearChars year) (point_not_mem_yearChars year') h
  obtain ⟨hmonth, hday⟩ :=
    append_cons_inj (point_not_mem_paddedDigits 2 month) (point_not_mem_paddedDigits 2 month') h
  rw [yearChars_injective hyear, paddedDigits_injective 2 hmonth, paddedDigits_injective 2 hday]

/-! ## Order -/

/-- A date is before another one. -/
def Before (date other : Date) : Prop :=
  date.year < other.year ∨ date.year = other.year ∧
    (date.month < other.month ∨ date.month = other.month ∧ date.day < other.day)

theorem Before.trans {a b c : Date} (h : a.Before b) (h' : b.Before c) : a.Before c := by
  unfold Before at *
  omega

theorem before_next (date : Date) : date.Before date.next := by
  unfold next Before
  split
  · simp
  · split <;> simp

/-- Later days have later dates. -/
theorem before_ofDay {day other : Int} (h : day < other) : (ofDay day).Before (ofDay other) := by
  induction other, Int.add_one_le_of_lt h using Int.leInduction with
  | base =>
    rw [ofDay_add_one]
    exact before_next _
  | succ other hle ih =>
    rw [ofDay_add_one]
    exact (ih (by omega)).trans (before_next _)

/-- The year has four digits. -/
def HasFourDigits (date : Date) : Prop := 0 ≤ date.year ∧ date.year ≤ 9999

theorem daysInMonth_le (year : Int) (month : Nat) : daysInMonth year month ≤ 31 := by
  unfold daysInMonth
  split
  · split <;> decide
  all_goals decide

/-- With years of four digits later days have later texts. -/
theorem chars_ofDay_lt {day other : Int} (h : day < other) (hfour : (ofDay day).HasFourDigits)
    (hfour' : (ofDay other).HasFourDigits) : (ofDay day).chars < (ofDay other).chars := by
  obtain ⟨⟨-, hmonth⟩, -, hday⟩ := bounds_ofDay day
  obtain ⟨⟨-, hmonth'⟩, -, hday'⟩ := bounds_ofDay other
  have hle := daysInMonth_le (ofDay day).year (ofDay day).month
  have hle' := daysInMonth_le (ofDay other).year (ofDay other).month
  obtain ⟨hlow, hhigh⟩ := hfour
  obtain ⟨hlow', hhigh'⟩ := hfour'
  have hlength {width n m : Nat} (hwidth : 1 ≤ width) (hn : n < 10 ^ width) (hm : m < 10 ^ width) :
      (paddedDigits width n).length = (paddedDigits width m).length := by
    rw [length_paddedDigits hwidth hn, length_paddedDigits hwidth hm]
  rw [chars_eq, chars_eq, yearChars, yearChars, if_pos ⟨hlow, hhigh⟩, if_pos ⟨hlow', hhigh'⟩]
  rcases before_ofDay h with hyear | ⟨hyear, hmonths | ⟨hmonths, hdays⟩⟩
  · exact append_lt_append (paddedDigits_lt (by decide) (by omega) (by omega))
      (hlength (by decide) (by omega) (by omega)) _ _
  · rw [hyear]
    refine List.append_left_lt (.cons ?_)
    exact append_lt_append (paddedDigits_lt (by decide) hmonths (by omega))
      (hlength (by decide) (by omega) (by omega)) _ _
  · rw [hyear, hmonths]
    refine List.append_left_lt (.cons (List.append_left_lt (.cons ?_)))
    exact paddedDigits_lt (by decide) hdays (by omega)

/-- A date is written with digits, points and, in front, a sign. -/
theorem isDigit_or_mark_of_mem_chars {date : Date} {c : Char} (h : c ∈ date.chars) :
    c.isDigit = true ∨ c ∈ ['.', '+', '-'] := by
  have hyear : ∀ c ∈ yearChars date.year, c.isDigit = true ∨ c ∈ ['.', '+', '-'] := by
    intro c hc
    unfold yearChars at hc
    split at hc
    · exact .inl (isDigit_of_mem_paddedDigits hc)
    · rcases List.mem_cons.1 hc with rfl | hc
      · right
        split <;> decide
      · exact .inl (isDigit_of_mem_paddedDigits hc)
  rw [chars_eq] at h
  simp only [List.mem_append, List.mem_cons] at h
  rcases h with h | rfl | h | rfl | h
  · exact hyear c h
  · exact .inr (by decide)
  · exact .inl (isDigit_of_mem_paddedDigits h)
  · exact .inr (by decide)
  · exact .inl (isDigit_of_mem_paddedDigits h)

theorem isAscii_of_mem_chars {date : Date} {c : Char} (h : c ∈ date.chars) : IsAscii c := by
  rcases isDigit_or_mark_of_mem_chars h with hdigit | hmark
  · exact (toNat_bounds_of_isDigit hdigit).2.trans (by decide)
  · simp only [List.mem_cons, List.not_mem_nil, or_false] at hmark
    rcases hmark with rfl | rfl | rfl <;> decide

/-! ## Reading -/

open Scanner in
/-- A date with a year of four digits. -/
def scan : Scanner Date := do
  let year ← number 4 4
  char '.'
  let month ← number 2 2
  char '.'
  let day ← number 2 2
  return ⟨year, month, day⟩

end Date

/-- The day of a text `yyyy.mm.dd`, where there is such a date. -/
def dayOfText? (text : String) : Option Int :=
  ((Date.scan.all? text).filter Date.isValid).map Date.toDay

open Scanner in
/-- A text with a year of four digits is read back to its day. -/
theorem dayOfText?_chars {day : Int} (hfour : (Date.ofDay day).HasFourDigits) :
    dayOfText? (String.ofList (Date.ofDay day).chars) = some day := by
  obtain ⟨⟨hmonth, hmonth'⟩, hday, hday'⟩ := Date.bounds_ofDay day
  have hle := Date.daysInMonth_le (Date.ofDay day).year (Date.ofDay day).month
  obtain ⟨hlow, hhigh⟩ := hfour
  have hnumber {width n : Nat} (hwidth : 1 ≤ width) (hn : n < 10 ^ width) (rest : List Char) :
      (number width width).run (paddedDigits width n ++ rest) = some (n, rest) :=
    run_number_paddedDigits (Nat.le_refl _) hwidth hn rest
  have hscan : Date.scan.run (Date.ofDay day).chars = some (Date.ofDay day, []) := by
    have hlast := hnumber (by decide) (show (Date.ofDay day).day < 10 ^ 2 by omega) []
    rw [List.append_nil] at hlast
    rw [Date.chars_eq, Date.yearChars, if_pos ⟨hlow, hhigh⟩, Date.scan,
      run_bind_of_some (hnumber (by decide) (by omega) _), run_bind_of_some (run_char '.' '.' _),
      run_bind_of_some (hnumber (by decide) (by omega) _), run_bind_of_some (run_char '.' '.' _),
      run_bind_of_some hlast, Int.natAbs_of_nonneg hlow]
    rfl
  have hvalid : (Date.ofDay day).isValid = true := by
    simp only [Date.isValid, Bool.and_eq_true, decide_eq_true_eq]
    simp only [firstYear, lastYear]
    omega
  simp [dayOfText?, Scanner.all?, hscan, hvalid, Date.toDay_ofDay]

end Logbook
