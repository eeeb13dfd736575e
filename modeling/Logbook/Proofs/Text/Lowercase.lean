import Logbook.Text.Lowercase

/-!
# Lower case and the signs of ASCII

Lower case changes letters only. The digits and most of the signs of ASCII are left where they are
(`filter_lowercaseChars`), and nothing else becomes one of them.
-/

set_option autoImplicit false

namespace Logbook

/-- A character of ASCII in front of the small letters, and no capital. -/
def isCaseless (c : Char) : Bool := c.toNat < 0x61 && !c.isUpper

theorem isCaseless_iff {c : Char} :
    isCaseless c = true ↔ c.toNat < 0x41 ∨ 0x5A < c.toNat ∧ c.toNat < 0x61 := by
  have hupper : c.isUpper = true ↔ 0x41 ≤ c.toNat ∧ c.toNat ≤ 0x5A := decide_eq_true_iff
  simp only [isCaseless, Bool.and_eq_true, decide_eq_true_eq, Bool.not_eq_true', ← Bool.not_eq_true,
    hupper]
  omega

/-! ## Capitals and their small letters -/

/-- The capitals of a run are those of ASCII or behind all of ASCII, and their small letters are
characters behind the caseless ones. -/
theorem bounds_of_mem_capitalRuns {first last step small : Nat}
    (h : (first, last, step, small) ∈ capitalRuns) :
    (0x41 ≤ first ∧ last ≤ 0x5A ∨ 0x61 ≤ first) ∧ 0x61 ≤ small ∧
      (small + (last - first) < 0xD800 ∨
        0xDFFF < small ∧ small + (last - first) < 0x110000) := by
  revert h
  have hall : ∀ run ∈ capitalRuns,
      (0x41 ≤ run.1 ∧ run.2.1 ≤ 0x5A ∨ 0x61 ≤ run.1) ∧ 0x61 ≤ run.2.2.2 ∧
        (run.2.2.2 + (run.2.1 - run.1) < 0xD800 ∨
          0xDFFF < run.2.2.2 ∧ run.2.2.2 + (run.2.1 - run.1) < 0x110000) := by
    decide +kernel
  exact hall (first, last, step, small)

theorem smallLetter?_eq_some {c d : Char} (h : smallLetter? c = some d) :
    isCaseless c = false ∧ isCaseless d = false := by
  unfold smallLetter? at h
  obtain ⟨⟨first, last, step, small⟩, hfind, rfl⟩ := Option.map_eq_some_iff.1 h
  obtain ⟨hcapital, hsmall, hvalid⟩ := bounds_of_mem_capitalRuns (List.mem_of_find?_eq_some hfind)
  have hholds := List.find?_some hfind
  simp only [Bool.and_eq_true, decide_eq_true_eq, beq_iff_eq] at hholds
  have hchar : (small + (c.toNat - first)).isValidChar := by
    unfold Nat.isValidChar
    omega
  have htoNat : (Char.ofNat (small + (c.toNat - first))).toNat = small + (c.toNat - first) := by
    rw [Char.ofNat, dif_pos hchar]
    rfl
  simp only [← Bool.not_eq_true, isCaseless_iff, htoNat]
  omega

theorem smallLetter?_of_isCaseless {c : Char} (h : isCaseless c = true) :
    smallLetter? c = none := by
  rw [Option.eq_none_iff_forall_ne_some]
  intro d hd
  rw [(smallLetter?_eq_some hd).1] at h
  cases h

/-! ## Texts -/

theorem lowercaseChars_cons_of_isCaseless {c : Char} (h : isCaseless c = true) (inWord : Bool)
    (cs : List Char) :
    lowercaseChars inWord (c :: cs) =
      c :: lowercaseChars (if isOverlooked c then inWord else isCased c) cs := by
  have hdotted : c.toNat ≠ 0x130 := by
    rw [isCaseless_iff] at h
    omega
  have hsigma : c ≠ 'Σ' := by
    rintro rfl
    exact absurd h (by decide)
  simp [lowercaseChars, hdotted, hsigma, smallLetter?_of_isCaseless h]

/-- Any other character becomes one or two that are not caseless. -/
theorem lowercaseChars_cons_of_not_isCaseless {c : Char} (h : isCaseless c = false) (inWord : Bool)
    (cs : List Char) :
    ∃ d small, lowercaseChars inWord (c :: cs) =
        d :: small ++ lowercaseChars (if isOverlooked c then inWord else isCased c) cs ∧
      ∀ x ∈ d :: small, isCaseless x = false := by
  rw [lowercaseChars]
  -- a dotted capital I, a sigma at the end of a word, and all other characters
  split
  · exact ⟨'i', [Char.ofNat 0x307], rfl,
      List.forall_mem_cons.2 ⟨by decide, List.forall_mem_singleton.2 (by decide)⟩⟩
  · split
    · exact ⟨'ς', [], rfl, List.forall_mem_singleton.2 (by decide)⟩
    · refine ⟨(smallLetter? c).getD c, [], rfl, ?_⟩
      cases hd : smallLetter? c with
      | none => simpa using h
      | some d => simpa using (smallLetter?_eq_some hd).2

/-- Caseless characters are left where they are, and no others become caseless. -/
theorem filter_lowercaseChars (inWord : Bool) (cs : List Char) :
    (lowercaseChars inWord cs).filter isCaseless = cs.filter isCaseless := by
  induction cs generalizing inWord with
  | nil => rfl
  | cons c cs ih =>
    cases hc : isCaseless c with
    | true =>
      rw [lowercaseChars_cons_of_isCaseless hc, List.filter_cons_of_pos hc,
        List.filter_cons_of_pos hc, ih]
    | false =>
      obtain ⟨d, small, heq, hsmall⟩ := lowercaseChars_cons_of_not_isCaseless hc inWord cs
      have hnone : (d :: small).filter isCaseless = [] := by
        simpa [List.filter_eq_nil_iff] using hsmall
      rw [heq, List.filter_append, hnone, ih, List.filter_cons_of_neg (by simp [hc]),
        List.nil_append]

theorem head?_lowercaseChars {c : Char} (h : isCaseless c = true) {inWord : Bool} {cs : List Char} :
    (lowercaseChars inWord cs).head? = some c ↔ cs.head? = some c := by
  cases cs with
  | nil => rfl
  | cons d cs =>
    cases hd : isCaseless d with
    | true => rw [lowercaseChars_cons_of_isCaseless hd, List.head?_cons, List.head?_cons]
    | false =>
      obtain ⟨e, small, heq, hsmall⟩ := lowercaseChars_cons_of_not_isCaseless hd inWord cs
      have he := hsmall e List.mem_cons_self
      have hne : e ≠ c := by grind
      have hne' : d ≠ c := by grind
      rw [heq]
      simp [hne, hne']

end Logbook
