import Logbook.Number.Layout
import Logbook.Number.Reading
import Logbook.Proofs.Number.Shortest

/-!
# Numbers in plain text

Written without an exponent and without a mark on whole numbers, a number is digits, with a point
among them where it has a fraction, behind a minus where it is negative.

* `Positional`: digits with or without a point; `Positional.ofChars?_eq` says which decimal they
  are read as.
* `Layout.exists_positional`: digits with a point put in its place are read as the decimal that has
  these digits.
* `Layout.ofText?_text`: a number is read back from its text.
-/

set_option autoImplicit false

namespace Logbook

theorem digitsValue_append_replicate (cs : List Char) (k : Nat) :
    digitsValue (cs ++ List.replicate k '0') = digitsValue cs * 10 ^ k := by
  induction k with
  | zero => simp
  | succ k ih =>
    have hzero : '0'.toNat - 48 = 0 := by decide
    rw [List.replicate_succ', ← List.append_assoc, digitsValue_append_singleton, ih, hzero]
    ring

/-! ## Digits with or without a point -/

/-- The characters are some digits, and a point and more digits or nothing behind them. -/
inductive Positional : List Char → List Char → List Char → Prop
  | whole {ds : List Char} (hne : ds ≠ []) (hds : ∀ d ∈ ds, d.isDigit = true) : Positional ds [] ds
  | point {ds es : List Char} (hne : ds ≠ []) (hds : ∀ d ∈ ds, d.isDigit = true)
      (hes : ∀ d ∈ es, d.isDigit = true) : Positional ds es (ds ++ '.' :: es)

namespace Positional

variable {whole fraction cs : List Char}

/-- Digits with a point are read as a decimal with an exponent. -/
theorem ofChars?_eq (h : Positional whole fraction cs) :
    Decimal.ofChars? cs = some ⟨digitsValue (whole ++ fraction), -(fraction.length : Int)⟩ := by
  cases h with
  | whole hne hds =>
    simp [Decimal.ofChars?, spanDigits_of_forall hds, hne, exponentOfChars?]
  | point hne hds hes =>
    have hspan : spanDigits (whole ++ '.' :: fraction) = (whole, '.' :: fraction) :=
      spanDigits_eq_iff.2 ⟨rfl, hds, by simp⟩
    simp [Decimal.ofChars?, hspan, spanDigits_of_forall hes, hne, exponentOfChars?]

theorem isDigit_or_eq_point (h : Positional whole fraction cs) :
    ∀ c ∈ cs, c.isDigit = true ∨ c = '.' := by
  intro c hc
  cases h with
  | whole hne hds => exact .inl (hds c hc)
  | point hne hds hes =>
    rcases List.mem_append.1 hc with hc | hc
    · exact .inl (hds c hc)
    · rcases List.mem_cons.1 hc with rfl | hc
      · exact .inr rfl
      · exact .inl (hes c hc)

/-- There is a digit in front. -/
theorem exists_eq_cons (h : Positional whole fraction cs) :
    ∃ c rest, cs = c :: rest ∧ c.isDigit = true := by
  cases h with
  | whole hne hds =>
    obtain ⟨c, rest, rfl⟩ := List.exists_cons_of_ne_nil hne
    exact ⟨c, rest, rfl, hds c List.mem_cons_self⟩
  | point hne hds hes =>
    obtain ⟨c, rest, rfl⟩ := List.exists_cons_of_ne_nil hne
    exact ⟨c, _, rfl, hds c List.mem_cons_self⟩

end Positional

namespace Layout

variable {layout : Layout}

/-- Digits with a point put in its place are read as the decimal that has these digits. -/
theorem exists_positional (hmark : layout.wholeMark = "") {ds : List Char} (hne : ds ≠ [])
    (hds : ∀ d ∈ ds, d.isDigit = true) (point : Int) :
    ∃ whole fraction, Positional whole fraction (layout.positionalChars ds point) ∧
      ∀ negative, Decimal.toBinary64 negative
          ⟨digitsValue (whole ++ fraction), -(fraction.length : Int)⟩ =
        Decimal.toBinary64 negative ⟨digitsValue ds, point - ds.length⟩ := by
  have hzeros (k : Nat) : ∀ c ∈ List.replicate k '0', c.isDigit = true := by
    intro c hc
    rw [List.eq_of_mem_replicate hc]
    rfl
  have happend {xs ys : List Char} (hxs : ∀ c ∈ xs, c.isDigit = true)
      (hys : ∀ c ∈ ys, c.isDigit = true) : ∀ c ∈ xs ++ ys, c.isDigit = true :=
    List.forall_mem_append.2 ⟨hxs, hys⟩
  unfold positionalChars
  split
  · rename_i hpoint
    refine ⟨['0'], List.replicate (-point).toNat '0' ++ ds,
      .point (List.cons_ne_nil _ _) (hzeros 1) (happend (hzeros _) hds), fun negative => ?_⟩
    have hvalue := digitsValue_replicate_append ((-point).toNat + 1) ds
    rw [List.replicate_succ, List.cons_append] at hvalue
    rw [List.singleton_append, hvalue, List.length_append, List.length_replicate]
    congr 2
    omega
  · split
    · rename_i hpoint hlong
      refine ⟨ds ++ List.replicate (point - ds.length).toNat '0', [], ?_, fun negative => ?_⟩
      · rw [hmark, String.toList_empty, List.append_nil]
        exact .whole (List.append_ne_nil_of_left_ne_nil hne _) (happend hds (hzeros _))
      · rw [List.append_nil, digitsValue_append_replicate, Decimal.toBinary64_mul_pow]
        congr 2
        simp
        omega
    · rename_i hpoint hshort
      have hsplit := List.take_append_drop point.toNat ds
      refine ⟨ds.take point.toNat, ds.drop point.toNat, .point ?_ ?_ ?_, fun negative => ?_⟩
      · rw [Ne, List.take_eq_nil_iff]
        exact not_or.2 ⟨by omega, hne⟩
      · exact fun c hc => hds c (List.mem_of_mem_take hc)
      · exact fun c hc => hds c (List.mem_of_mem_drop hc)
      · rw [hsplit, List.length_drop]
        congr 2
        omega

/-- The characters of a number are its sign and digits that are read back. -/
theorem exists_positional_chars (hpositional : layout.positional = none)
    (hmark : layout.wholeMark = "") (x : Finite64) :
    ∃ whole fraction cs, Positional whole fraction cs ∧
      layout.chars x = (if x.negative then '-' :: cs else cs) ∧
      Decimal.toBinary64 x.negative ⟨digitsValue (whole ++ fraction), -(fraction.length : Int)⟩ =
        .finite x := by
  by_cases hx : x.significand = 0
  · refine ⟨['0'], [], ['0'], .whole (by decide) (List.forall_mem_singleton.2 rfl),
      ?_, ?_⟩
    · simp only [chars, if_pos hx, hmark, String.toList_empty]
    · conv_rhs => rw [Finite64.eq_zero_of_significand hx]
      rfl
  · obtain ⟨whole, fraction, h, hread⟩ := exists_positional hmark
      (digits_ne_nil (x.shortest layout.tie).digits) (fun _ => isDigit_of_mem_digits)
      ((digits (x.shortest layout.tie).digits).length + (x.shortest layout.tie).exponent)
    refine ⟨whole, fraction, _, h, ?_, ?_⟩
    · simp only [chars, if_neg hx, hpositional]
    · rw [hread, digitsValue_digits, add_sub_cancel_left]
      exact Finite64.toBinary64_shortest layout.tie hx

end Layout

/-! ## Reading a text back -/

theorem toLower_of_isDigit {c : Char} (hc : c.isDigit = true) : c.toLower = c := by
  obtain ⟨-, hhigh⟩ := toNat_bounds_of_isDigit hc
  unfold Char.toLower
  rw [dif_neg]
  rintro ⟨hlow, -⟩
  have hlow' : 65 ≤ c.toNat := hlow
  omega

theorem spanSign_of_isDigit {c : Char} (hc : c.isDigit = true) (rest : List Char) :
    spanSign (c :: rest) = (false, c :: rest) := by
  unfold spanSign
  split
  · rename_i heq
    cases heq
    cases hc
  · rename_i heq
    cases heq
    cases hc
  · rfl

namespace Binary64

/-- A text with a digit behind its sign is not one of the names of infinity or of no number. -/
theorem ofText?_of_isDigit {text : String} {negative : Bool} {c : Char} {rest : List Char}
    (hsign : spanSign text.toList = (negative, c :: rest)) (hc : c.isDigit = true) :
    ofText? text = (Decimal.ofChars? (c :: rest)).map (·.toBinary64 negative) := by
  have hname {name : String} {d : Char} {ds : List Char} (hname : name.toList = d :: ds)
      (hd : d.isDigit = false) : String.ofList ((c :: rest).map Char.toLower) ≠ name := by
    rw [Ne, ← String.toList_inj, String.toList_ofList, hname, List.map_cons, toLower_of_isDigit hc]
    rintro ⟨⟩
    rw [hc] at hd
    cases hd
  simp only [ofText?, hsign]
  rw [if_neg (not_or.2 ⟨hname rfl rfl, hname rfl rfl⟩), if_neg (hname rfl rfl)]

end Binary64

/-- A number is read back from its text. -/
theorem Layout.ofText?_text {layout : Layout} (hpositional : layout.positional = none)
    (hmark : layout.wholeMark = "") (x : Binary64) :
    Binary64.ofText? (layout.text x) = some x := by
  cases x with
  | nan =>
    show Binary64.ofText? "NaN" = some .nan
    decide +kernel
  | infinite negative =>
    cases negative with
    | false =>
      show Binary64.ofText? "inf" = some (.infinite false)
      decide +kernel
    | true =>
      show Binary64.ofText? "-inf" = some (.infinite true)
      decide +kernel
  | finite x =>
    obtain ⟨whole, fraction, cs, h, hchars, hread⟩ := exists_positional_chars hpositional hmark x
    obtain ⟨c, rest, rfl, hc⟩ := h.exists_eq_cons
    have hsign : spanSign (layout.text (.finite x)).toList = (x.negative, c :: rest) := by
      rw [text, String.toList_ofList, hchars]
      cases x.negative with
      | false => exact spanSign_of_isDigit hc rest
      | true => rfl
    rw [Binary64.ofText?_of_isDigit hsign hc, h.ofChars?_eq, Option.map_some, hread]

end Logbook
