import Logbook.Proofs.Fallible
import Logbook.Proofs.Text.Bytes
import Logbook.Proofs.Text.Composition
import Logbook.Proofs.Text.Split
import Logbook.Url.Parser

/-!
# Signs in the names of hosts

A character that no name may hold is not lost on the way from the characters of a host to the form
in which names are compared, if it is kept in names and composed with no other: not where percent
signs are decoded (`mem_of_decode?`), where letters and marks are composed, nor where labels are
written in ASCII (`mem_written_of_ofChars?`). So a host that holds it is refused
(`Domain.not_mem_of_ofText?`), and a bracket in a host stands at its front
(`Host.head?_of_ofSpecial`).
-/

set_option autoImplicit false

namespace Logbook

/-! ## Percent encoding -/

theorem Percent.mem_decodeBytes {c : Char} (hc : IsAscii c) (hpercent : c ≠ '%')
    (hdigit : hexDigitValue? c = none) {cs : List Char} (h : c ∈ cs) :
    UInt8.ofNat c.toNat ∈ decodeBytes cs := by
  fun_induction decodeBytes cs with
  | case1 => cases h
  | case2 a b cs x y hx hy ih =>
    have hne : c ≠ a ∧ c ≠ b := by
      constructor
      all_goals
        rintro rfl
        simp_all
    simp only [List.mem_cons, hpercent, hne.1, hne.2, false_or] at h
    exact List.mem_cons_of_mem _ (ih h)
  | case3 a b cs hne ih =>
    simp only [List.mem_cons, hpercent, false_or] at h ih
    exact List.mem_cons_of_mem _ (ih h)
  | case4 d cs hne ih =>
    rw [List.mem_append]
    rcases List.mem_cons.1 h with rfl | hmem
    · left
      rw [utf8EncodeChar_of_isAscii hc]
      exact List.mem_singleton_self _
    · exact .inr (ih hmem)

theorem Percent.mem_of_decode? {c : Char} (hc : IsAscii c) (hpercent : c ≠ '%')
    (hdigit : hexDigitValue? c = none) {cs : List Char} {text : String}
    (htext : decode? cs = some text) (h : c ∈ cs) : c ∈ text.toList := by
  have hbytes : utf8Bytes text = decodeBytes cs := by
    unfold decode? String.fromUTF8? at htext
    split at htext
    · cases htext
      simp [utf8Bytes, String.fromUTF8]
    · cases htext
  apply mem_toList_of_mem_utf8Bytes hc
  rw [hbytes]
  exact mem_decodeBytes hc hpercent hdigit h

/-! ## Labels -/

namespace Punycode

theorem mem_encodeChar {c : Char} (code basic : Nat) {progress : Progress} (d : Char)
    (h : c ∈ progress.written) : c ∈ (encodeChar code basic progress d).written := by
  unfold encodeChar
  split
  · exact h
  · split
    · exact List.mem_append_left _ h
    · exact h

theorem mem_foldl_encodeChar {c : Char} (code basic : Nat) {progress : Progress} (label : List Char)
    (h : c ∈ progress.written) : c ∈ (label.foldl (encodeChar code basic) progress).written := by
  induction label generalizing progress with
  | nil => exact h
  | cons d label ih => exact ih (mem_encodeChar code basic d h)

theorem mem_encodeCodes {c : Char} (label : List Char) (basic : Nat) (codes : List Nat) (code : Nat)
    {progress : Progress} (h : c ∈ progress.written) :
    c ∈ (encodeCodes label basic codes code progress).written := by
  induction codes generalizing code progress with
  | nil => exact h
  | cons next codes ih =>
    apply ih
    apply mem_foldl_encodeChar
    exact h

/-- The characters of a label in ASCII are in its code. -/
theorem mem_encode {c : Char} (hc : IsAscii c) {label : List Char} (h : c ∈ label) :
    c ∈ encode label := by
  have hmem : c ∈ label.filter fun d => d.toNat < 128 := by
    unfold IsAscii at hc
    rw [List.mem_filter, decide_eq_true_eq]
    exact ⟨h, by omega⟩
  apply mem_encodeCodes
  cases hbasic : label.filter fun d => d.toNat < 128 with
  | nil =>
    rw [hbasic] at hmem
    cases hmem
  | cons d basic =>
    rw [hbasic] at hmem
    exact List.mem_append_left _ hmem

end Punycode

namespace Label

theorem written_of_ofCode? {code : List Char} {label : Label} (h : ofCode? code = some label) :
    label.written = codeMark ++ code := by
  unfold ofCode? at h
  simp only [Option.bind_eq_bind, Option.pure_def] at h
  split at h
  · cases h
  · obtain ⟨read, -, h⟩ := Option.bind_eq_some_iff.1 h
    split at h
    · cases h
    · split at h
      · cases h
      · cases h
        rfl

theorem mem_written_of_ofChars? {c : Char} (hc : IsAscii c) {cs : List Char} {label : Label}
    (hlabel : ofChars? cs = some label) (h : c ∈ cs) : c ∈ label.written := by
  unfold ofChars? at hlabel
  split at hlabel
  · rename_i code hcode
    have hcs : codeMark ++ code = cs := by
      unfold afterStart? at hcode
      split at hcode
      · rename_i hmark
        obtain ⟨rest, rfl⟩ := List.isPrefixOf_iff_prefix.1 hmark
        simpa using hcode.symm
      · cases hcode
    rw [written_of_ofCode? hlabel, hcs]
    exact h
  · split at hlabel
    · cases hlabel
      exact h
    · split at hlabel
      · cases hlabel
      · cases hlabel
        exact List.mem_append_right _ (Punycode.mem_encode hc h)

end Label

/-! ## Hosts -/

namespace Domain

/-- A character that may not occur in a name, and that is kept until that is seen, is not in the
text of a name. -/
theorem not_mem_of_ofText? {c : Char} (hforbidden : isForbidden c = true)
    (hkept : NameTable.isKept c = true) (hsolitary : Composition.IsSolitary c)
    {text domain : String} (h : ofText? text = some domain) : c ∉ text.toList := by
  intro hmem
  have hc := hsolitary.1
  have hpoint : (c == '.') = false := by
    rw [beq_eq_false_iff_ne]
    rintro rfl
    exact absurd hforbidden (by decide)
  unfold ofText? at h
  obtain ⟨labels, hlabels, h⟩ := Option.bind_eq_some_iff.1 h
  unfold labels? at hlabels
  obtain ⟨mapped, hmapped, hlabels⟩ := Option.bind_eq_some_iff.1 hlabels
  -- the character is kept in what all characters become, and in its composed form
  obtain ⟨kept, hkeptIn, heq⟩ := Fallible.exists_of_mapM_eq_some hmapped hmem
  have hself : kept = [c] := by
    unfold NameTable.isKept at hkept
    rw [heq] at hkept
    simpa using hkept
  have hcomposed : c ∈ Composition.compose mapped.flatten :=
    Composition.mem_compose hsolitary (List.mem_flatten.2 ⟨kept, hkeptIn, by simp [hself]⟩)
  -- so it is in a label, and in what is written of that label
  obtain ⟨part, hpart, hin⟩ := @mem_splitBy (· == '.') c hpoint _ hcomposed
  obtain ⟨label, hlabel, hread⟩ := Fallible.exists_of_mapM_eq_some hlabels hpart
  have hwritten : c ∈ List.intercalate ['.'] (labels.map Label.written) :=
    mem_intercalate (List.mem_map_of_mem hlabel) (Label.mem_written_of_ofChars? hc hread hin)
  have hany := List.any_eq_true.2 ⟨c, hwritten, hforbidden⟩
  simp [hany] at h

end Domain

namespace Host

theorem head?_of_ofSpecial {cs : List Char} {host : Host} (h : ofSpecial cs = .ok host)
    (hmem : '[' ∈ cs) : cs.head? = some '[' := by
  unfold ofSpecial at h
  split at h
  · rfl
  · split at h
    · cases h
    · rename_i domain hdomain
      obtain ⟨text, htext, hname⟩ := Option.bind_eq_some_iff.1 hdomain
      have hin := Percent.mem_of_decode? (by decide) (by decide) (by decide) htext hmem
      exact absurd hin (Domain.not_mem_of_ofText? (by decide) (by decide +kernel)
        Composition.isSolitary_bracket hname)

/-- A host that begins with a bracket ends with one. -/
theorem exists_of_ofSpecial_bracket {cs : List Char} {host : Host} (h : ofSpecial cs = .ok host)
    (hhead : cs.head? = some '[') : ∃ inner, cs = inner ++ [']'] := by
  cases cs with
  | nil => cases hhead
  | cons c cs =>
    cases hhead
    simp only [ofSpecial, ofBrackets] at h
    split at h
    · rename_i pieces hpieces
      obtain ⟨inner, hinner, -⟩ := Option.bind_eq_some_iff.1 hpieces
      exact ⟨'[' :: inner, by rw [beforeEnd?_eq_some_iff.1 hinner, List.cons_append]⟩
    · cases h

theorem ofSpecial_nil : ofSpecial [] = .error .emptyHost := by
  decide +kernel

/-- There is something in the place of a host that can be read. -/
theorem isEmpty_of_ofSpecial {cs : List Char} {host : Host} (h : ofSpecial cs = .ok host) :
    host.isEmpty = false := by
  unfold ofSpecial at h
  split at h
  · unfold ofBrackets at h
    split at h
    · cases h
      rfl
    · cases h
  · split at h
    · cases h
    · split at h
      · cases h
      · rename_i hne
        split at h
        · split at h
          · cases h
            rfl
          · cases h
        · cases h
          simpa [isEmpty] using hne

end Host

end Logbook
