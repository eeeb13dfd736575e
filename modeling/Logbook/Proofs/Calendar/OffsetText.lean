import Logbook.Proofs.Calendar.Timestamp

/-!
# Offsets read from texts

Offsets are read from a few forms, but the colons behind the sign are left out before anything is
looked at.

* `Offset.Documented`: the forms that are meant, a name of universal time or a sign with hours or
  with hours and minutes.
* `Offset.ofTrimmed?_eq_some_iff_documented`: a text is read where it has one of these forms, or
  where it would have one without its colons.
* `Offset.documented_iff`: of the texts that are read, those of the forms are the ones with every
  colon in its place.
* `Offset.ofText?_text`: an offset is read back from its own text.
-/

set_option autoImplicit false

namespace Logbook

namespace Offset

/-! ## The documented forms -/

/-- The characters are a name of universal time, in any case; no characters are one too. -/
def IsName (cs : List Char) : Prop :=
  cs.map Char.toLower = [] ∨ cs.map Char.toLower = ['z'] ∨ cs.map Char.toLower = ['u', 't', 'c']

/-- Hours and minutes in seconds, with a sign. -/
def signedSeconds (negative : Bool) (hours minutes : Nat) : Int :=
  if negative then -(3600 * hours + 60 * minutes : Int) else 3600 * hours + 60 * minutes

/-- The characters are one of the documented forms of the offset: a name of universal time, or a
sign, two digits of hours, and two digits of minutes or none, in front of which a colon may
stand. -/
inductive Documented (offset : Offset) : List Char → Prop
  | name {cs : List Char} (hname : IsName cs) (hseconds : offset.seconds = 0) : Documented offset cs
  | hours {negative : Bool} {hours : Nat} (hhours : hours ≤ 23)
      (hseconds : offset.seconds = signedSeconds negative hours 0) :
      Documented offset (signChar negative :: paddedDigits 2 hours)
  | clock {negative : Bool} {hours minutes : Nat} {between : List Char} (hhours : hours ≤ 23)
      (hminutes : minutes ≤ 59) (hbetween : between = [':'] ∨ between = [])
      (hseconds : offset.seconds = signedSeconds negative hours minutes) :
      Documented offset (signedChars negative hours between minutes)

variable {offset : Offset} {negative : Bool}

theorem seconds_eq_iff {hours minutes : Nat} :
    offset.seconds = signedSeconds negative hours minutes ↔
      offset.minutes =
        if negative then -(60 * hours + minutes : Int) else 60 * hours + minutes := by
  unfold seconds signedSeconds
  cases negative <;> simp <;> omega

theorem ofParts?_eq_some_iff {hours minutes : Nat} :
    ofParts? negative hours minutes = some offset ↔
      hours ≤ 23 ∧ minutes ≤ 59 ∧ offset.seconds = signedSeconds negative hours minutes := by
  constructor
  · intro h
    unfold ofParts? at h
    split at h
    · rename_i hbounds
      refine ⟨hbounds.1, hbounds.2, seconds_eq_iff.2 ?_⟩
      simp only [ofMinutes?, Option.dite_none_right_eq_some, Option.some.injEq] at h
      obtain ⟨-, rfl⟩ := h
      rfl
    · cases h
  · rintro ⟨hhours, hminutes, hseconds⟩
    exact ofParts?_of_minutes hhours hminutes (seconds_eq_iff.1 hseconds)

/-! ## Digits behind a sign -/

theorem colon_not_mem_paddedDigits (width n : Nat) : ':' ∉ paddedDigits width n :=
  not_mem_paddedDigits rfl width n

theorem filter_of_colon_not_mem {cs : List Char} (h : ':' ∉ cs) : cs.filter (· != ':') = cs := by
  rw [List.filter_eq_self]
  intro c hc
  rw [bne_iff_ne]
  rintro rfl
  exact h hc

/-- Colons mean nothing between digits. -/
theorem ofDigits?_filter (cs : List Char) :
    ofDigits? negative (cs.filter (· != ':')) = ofDigits? negative cs := by
  simp only [ofDigits?, List.filter_filter, Bool.and_self]

theorem ofDigits?_hours {hours : Nat} (h : hours < 100) :
    ofDigits? negative (paddedDigits 2 hours) = ofParts? negative hours 0 := by
  have hall : (paddedDigits 2 hours).all Char.isDigit = true :=
    List.all_eq_true.2 fun _ => isDigit_of_mem_paddedDigits
  have hvalue := digitsValue_paddedDigits 2 hours
  simp only [ofDigits?, filter_of_colon_not_mem (colon_not_mem_paddedDigits 2 hours), hall, if_true]
  rw [paddedDigits_two h] at hvalue ⊢
  simp only [hvalue]

theorem ofDigits?_clock {hours minutes : Nat} (h : hours < 100) (h' : minutes < 100) :
    ofDigits? negative (paddedDigits 2 hours ++ paddedDigits 2 minutes) =
      ofParts? negative hours minutes := by
  have hcolon : ':' ∉ paddedDigits 2 hours ++ paddedDigits 2 minutes := by
    simp [colon_not_mem_paddedDigits]
  have hall : (paddedDigits 2 hours ++ paddedDigits 2 minutes).all Char.isDigit = true := by
    rw [List.all_append, Bool.and_eq_true, List.all_eq_true, List.all_eq_true]
    exact ⟨fun _ => isDigit_of_mem_paddedDigits, fun _ => isDigit_of_mem_paddedDigits⟩
  have hvalue := digitsValue_paddedDigits 2 hours
  have hvalue' := digitsValue_paddedDigits 2 minutes
  simp only [ofDigits?, filter_of_colon_not_mem hcolon, hall, if_true]
  rw [paddedDigits_two h] at hvalue ⊢
  rw [paddedDigits_two h'] at hvalue' ⊢
  simp only [List.cons_append, List.nil_append, hvalue, hvalue']

/-- Digits are read as hours, or as hours and minutes. -/
theorem ofDigits?_eq_some_iff {ds : List Char} (hcolon : ':' ∉ ds) :
    ofDigits? negative ds = some offset ↔
      (∃ hours, ds = paddedDigits 2 hours ∧ ofParts? negative hours 0 = some offset) ∨
        ∃ hours minutes, ds = paddedDigits 2 hours ++ paddedDigits 2 minutes ∧
          ofParts? negative hours minutes = some offset := by
  constructor
  · intro h
    simp only [ofDigits?, filter_of_colon_not_mem hcolon] at h
    split at h
    · rename_i hdigits
      rw [List.all_eq_true] at hdigits
      split at h
      · exact .inl ⟨_, (paddedDigits_digitsValue hdigits (by simp)).symm, h⟩
      · rename_i a b c d
        have hfirst : ∀ e ∈ [a, b], e.isDigit = true :=
          fun e he => hdigits e (List.mem_append_left [c, d] he)
        have hsecond : ∀ e ∈ [c, d], e.isDigit = true :=
          fun e he => hdigits e (List.mem_append_right [a, b] he)
        have hchars := congrArg₂ (· ++ ·) (paddedDigits_digitsValue hfirst (by simp))
          (paddedDigits_digitsValue hsecond (by simp))
        exact .inr ⟨_, _, hchars.symm, h⟩
      · cases h
    · cases h
  · rintro (⟨hours, rfl, hparts⟩ | ⟨hours, minutes, rfl, hparts⟩)
    · obtain ⟨hhours, -⟩ := ofParts?_eq_some_iff.1 hparts
      rwa [ofDigits?_hours (by omega)]
    · obtain ⟨hhours, hminutes, -⟩ := ofParts?_eq_some_iff.1 hparts
      rwa [ofDigits?_clock (by omega) (by omega)]

/-! ## Texts without white space around them -/

theorem isName_toList_iff {text : String} :
    IsName text.toList ↔ text.map Char.toLower = "" ∨ text.map Char.toLower = "z" ∨
      text.map Char.toLower = "utc" := by
  simp only [IsName, ← String.toList_inj, String.toList_map]
  rfl

/-- A sign does not begin a name. -/
theorem not_isName_signed (negative : Bool) (cs : List Char) :
    ¬IsName (signChar negative :: cs) := by
  cases negative <;> simp [IsName, signChar]

theorem ofTrimmed?_of_isName {text : String} (h : IsName text.toList) :
    ofTrimmed? text = some utc := by
  rw [ofTrimmed?]
  exact if_pos (isName_toList_iff.1 h)

theorem ofTrimmed?_signed {text : String} {cs : List Char}
    (h : text.toList = signChar negative :: cs) : ofTrimmed? text = ofDigits? negative cs := by
  have hname := not_isName_signed negative cs
  rw [← h, isName_toList_iff] at hname
  simp only [ofTrimmed?, if_neg hname]
  rw [h]
  cases negative <;> rfl

/-- A text is read as a name, or as digits behind a sign. -/
theorem ofTrimmed?_eq_some_iff {text : String} :
    ofTrimmed? text = some offset ↔
      IsName text.toList ∧ offset.seconds = 0 ∨
        ∃ negative cs, text.toList = signChar negative :: cs ∧
          ofDigits? negative cs = some offset := by
  constructor
  · intro h
    by_cases hname : IsName text.toList
    · rw [ofTrimmed?_of_isName hname] at h
      cases h
      exact .inl ⟨hname, rfl⟩
    · simp only [ofTrimmed?, if_neg (mt isName_toList_iff.2 hname)] at h
      split at h
      · rename_i cs htext
        exact .inr ⟨false, cs, htext, h⟩
      · rename_i cs htext
        exact .inr ⟨true, cs, htext, h⟩
      · cases h
  · rintro (⟨hname, hseconds⟩ | ⟨negative, cs, htext, h⟩)
    · have hutc : offset = utc := eq_utc_of_minutes (by simp only [seconds] at hseconds; omega)
      rw [ofTrimmed?_of_isName hname, hutc]
    · rw [ofTrimmed?_signed htext, h]

/-- A text of a documented form is read. -/
theorem ofTrimmed?_of_documented {text : String} (h : offset.Documented text.toList) :
    ofTrimmed? text = some offset := by
  rw [ofTrimmed?_eq_some_iff]
  generalize text.toList = cs at h ⊢
  cases h with
  | name hname hseconds => exact .inl ⟨hname, hseconds⟩
  | @hours negative hours hhours hseconds =>
    refine .inr ⟨negative, _, rfl, ?_⟩
    rw [ofDigits?_hours (by omega)]
    exact ofParts?_eq_some_iff.2 ⟨hhours, by decide, hseconds⟩
  | @clock negative hours minutes between hhours hminutes hbetween hseconds =>
    refine .inr ⟨negative, _, rfl, ?_⟩
    have hnone : between.filter (· != ':') = [] := by
      rcases hbetween with rfl | rfl <;> rfl
    have hfilter :
        (paddedDigits 2 hours ++ (between ++ paddedDigits 2 minutes)).filter (· != ':') =
          paddedDigits 2 hours ++ paddedDigits 2 minutes := by
      simp only [List.filter_append, hnone, List.nil_append,
        filter_of_colon_not_mem (colon_not_mem_paddedDigits _ _)]
    rw [← ofDigits?_filter, hfilter, ofDigits?_clock (by omega) (by omega)]
    exact ofParts?_eq_some_iff.2 ⟨hhours, hminutes, hseconds⟩

/-- Digits that are read have a documented form with a sign in front of them. -/
theorem documented_of_ofDigits? {ds : List Char} (hcolon : ':' ∉ ds)
    (h : ofDigits? negative ds = some offset) : offset.Documented (signChar negative :: ds) := by
  rcases (ofDigits?_eq_some_iff hcolon).1 h with
    ⟨hours, rfl, hparts⟩ | ⟨hours, minutes, rfl, hparts⟩
  · obtain ⟨hhours, -, hseconds⟩ := ofParts?_eq_some_iff.1 hparts
    exact .hours hhours hseconds
  · obtain ⟨hhours, hminutes, hseconds⟩ := ofParts?_eq_some_iff.1 hparts
    have hbetween : ([] : List Char) = [':'] ∨ ([] : List Char) = [] := .inr rfl
    exact .clock hhours hminutes hbetween hseconds

/-- A text is read where it has a documented form, or where it has one without the colons behind
its sign. -/
theorem ofTrimmed?_eq_some_iff_documented {text : String} :
    ofTrimmed? text = some offset ↔
      offset.Documented text.toList ∨ ∃ negative cs, text.toList = signChar negative :: cs ∧
        ':' ∈ cs ∧ offset.Documented (signChar negative :: cs.filter (· != ':')) := by
  constructor
  · intro h
    rcases ofTrimmed?_eq_some_iff.1 h with ⟨hname, hseconds⟩ | ⟨negative, cs, htext, h⟩
    · exact .inl (.name hname hseconds)
    · rw [← ofDigits?_filter] at h
      have hdocumented := documented_of_ofDigits? (by simp) h
      by_cases hcolon : ':' ∈ cs
      · exact .inr ⟨negative, cs, htext, hcolon, hdocumented⟩
      · rw [filter_of_colon_not_mem hcolon, ← htext] at hdocumented
        exact .inl hdocumented
  · rintro (h | ⟨negative, cs, htext, -, h⟩)
    · exact ofTrimmed?_of_documented h
    · rw [ofTrimmed?_signed htext, ← ofDigits?_filter,
        ← ofTrimmed?_signed (String.toList_ofList (l := signChar negative :: _))]
      exact ofTrimmed?_of_documented (by rwa [String.toList_ofList])

/-! ## The place of a colon -/

/-- Every colon stands behind a sign and two digits, in front of two digits. -/
def ColonsInPlace (cs : List Char) : Prop :=
  ∀ front back, cs = front ++ ':' :: back → front.length = 3 ∧ back.length = 2

theorem colonsInPlace_of_not_mem {cs : List Char} (h : ':' ∉ cs) : ColonsInPlace cs := by
  rintro front back rfl
  exact absurd (by simp) h

theorem colon_not_mem_of_isName {cs : List Char} (h : IsName cs) : ':' ∉ cs := by
  intro hmem
  have hlower : ':' ∈ cs.map Char.toLower := List.mem_map.2 ⟨':', hmem, by decide⟩
  rcases h with h | h | h <;> rw [h] at hlower <;> revert hlower <;> decide

theorem colon_ne_signChar (negative : Bool) : ':' ≠ signChar negative := by
  cases negative <;> decide

/-- The documented forms have their colons in place. -/
theorem Documented.colonsInPlace {cs : List Char} (h : offset.Documented cs) :
    ColonsInPlace cs := by
  cases h with
  | name hname => exact colonsInPlace_of_not_mem (colon_not_mem_of_isName hname)
  | hours =>
    apply colonsInPlace_of_not_mem
    simp [colon_ne_signChar, colon_not_mem_paddedDigits]
  | @clock negative hours minutes between hhours hminutes hbetween =>
    rcases hbetween with rfl | rfl
    · intro front back hcs
      have hbefore : ':' ∉ signChar negative :: paddedDigits 2 hours := by
        simp [colon_ne_signChar, colon_not_mem_paddedDigits]
      have hbehind := colon_not_mem_paddedDigits 2 minutes
      have hsplit : (signChar negative :: paddedDigits 2 hours) ++ ':' :: paddedDigits 2 minutes =
          front ++ ':' :: back := hcs
      -- there is one colon only, so none in front of it
      have hfront : ':' ∉ front := by
        have hcount := congrArg (List.count ':') hsplit
        rw [List.count_append, List.count_append, List.count_cons_self, List.count_cons_self,
          List.count_eq_zero.2 hbefore, List.count_eq_zero.2 hbehind] at hcount
        exact List.count_eq_zero.1 (by omega)
      obtain ⟨rfl, rfl⟩ := append_cons_inj hbefore hfront hsplit
      rw [List.length_cons, length_paddedDigits (by decide) (by omega),
        length_paddedDigits (by decide) (by omega)]
      exact ⟨rfl, rfl⟩
    · apply colonsInPlace_of_not_mem
      simp [signedChars, colon_ne_signChar, colon_not_mem_paddedDigits]

/-- A colon in place has two characters on either side, behind the sign and at the end, and is the
only one. -/
theorem ColonsInPlace.sides {c : Char} {before behind : List Char}
    (h : ColonsInPlace (c :: (before ++ ':' :: behind))) :
    before.length = 2 ∧ behind.length = 2 ∧ ':' ∉ before ∧ ':' ∉ behind := by
  obtain ⟨hbefore, hbehind⟩ := h (c :: before) behind rfl
  rw [List.length_cons] at hbefore
  refine ⟨by omega, hbehind, fun hmem => ?_, fun hmem => ?_⟩
  · obtain ⟨front, back, rfl⟩ := List.append_of_mem hmem
    obtain ⟨hfront, -⟩ := h (c :: front) (back ++ ':' :: behind) (by simp)
    rw [List.length_append, List.length_cons] at hbefore
    rw [List.length_cons] at hfront
    omega
  · obtain ⟨front, back, rfl⟩ := List.append_of_mem hmem
    obtain ⟨hfront, -⟩ := h (c :: before ++ ':' :: front) back (by simp)
    rw [List.length_append, List.length_cons, List.length_cons] at hfront
    omega

/-- Of the texts that are read the documented ones are those with colons in place. -/
theorem documented_iff {text : String} :
    offset.Documented text.toList ↔
      ofTrimmed? text = some offset ∧ ColonsInPlace text.toList := by
  constructor
  · exact fun h => ⟨ofTrimmed?_of_documented h, h.colonsInPlace⟩
  · rintro ⟨h, hplace⟩
    rcases ofTrimmed?_eq_some_iff.1 h with ⟨hname, hseconds⟩ | ⟨negative, cs, htext, h⟩
    · exact .name hname hseconds
    rw [htext] at hplace ⊢
    by_cases hcolon : ':' ∈ cs
    · obtain ⟨before, behind, rfl⟩ := List.append_of_mem hcolon
      obtain ⟨hlength, hlength', hbefore, hbehind⟩ := hplace.sides
      have hfilter : (before ++ ':' :: behind).filter (· != ':') = before ++ behind := by
        rw [List.filter_append, List.filter_cons_of_neg (by simp),
          filter_of_colon_not_mem hbefore, filter_of_colon_not_mem hbehind]
      rw [← ofDigits?_filter, hfilter, ofDigits?_eq_some_iff (by simp [hbefore, hbehind])] at h
      rcases h with ⟨hours, hdigits, hparts⟩ | ⟨hours, minutes, hdigits, hparts⟩
      · obtain ⟨hhours, -⟩ := ofParts?_eq_some_iff.1 hparts
        have hlengths := congrArg List.length hdigits
        rw [List.length_append, length_paddedDigits (by decide) (by omega)] at hlengths
        omega
      · obtain ⟨hhours, hminutes, hseconds⟩ := ofParts?_eq_some_iff.1 hparts
        obtain ⟨rfl, rfl⟩ := List.append_inj hdigits
          (by rw [hlength, length_paddedDigits (by decide) (by omega)])
        exact .clock hhours hminutes (.inl rfl) hseconds
    · exact documented_of_ofDigits? hcolon h

/-! ## The text of an offset -/

theorem toList_text (offset : Offset) :
    offset.text.toList = signedChars (offset.minutes < 0) (offset.minutes.natAbs / 60) [':']
      (offset.minutes.natAbs % 60) := by
  simp only [text, String.toList_ofList, signedChars, signChar, decide_eq_true_eq,
    List.cons_append, List.nil_append]

/-- The text of an offset has the form with a colon. -/
theorem documented_text (offset : Offset) : offset.Documented offset.text.toList := by
  have hlow := offset.minutes_gt
  have hhigh := offset.minutes_lt
  rw [toList_text]
  exact .clock (by omega) (by omega) (.inl rfl) (seconds_eq_iff.2 offset.minutes_eq_signed)

/-- There is no white space in the forms with digits. -/
theorem isBlank_of_mem_signedChars {hours minutes : Nat} {c : Char}
    (h : c ∈ signedChars negative hours [':'] minutes) : isBlank c = false := by
  simp only [signedChars, List.mem_cons, List.mem_append, List.not_mem_nil, or_false] at h
  rcases h with rfl | h | rfl | h
  · cases negative <;> decide
  · exact isBlank_of_isDigit (isDigit_of_mem_paddedDigits h)
  · decide
  · exact isBlank_of_isDigit (isDigit_of_mem_paddedDigits h)

/-- An offset is read back from its text. -/
theorem ofText?_text (offset : Offset) : ofText? offset.text = some offset := by
  have htrim : trim offset.text = offset.text := by
    rw [trim, trimChars_eq_self_of_forall, String.ofList_toList]
    rw [toList_text]
    exact fun c => isBlank_of_mem_signedChars
  rw [ofText?, htrim]
  exact ofTrimmed?_of_documented offset.documented_text

end Offset

end Logbook
