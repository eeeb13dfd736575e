import Mathlib.Data.List.Flatten
import Logbook.Url.Percent

/-!
# Percent encoding, character by character

Every character is encoded by itself and none is lost, so characters of which some are left out are
shorter encoded too (`Percent.eq_of_sublist_of_length_le`), and nothing comes in but percent signs
and digits of base sixteen (`Percent.mem_of_mem_encodeChars`).
-/

set_option autoImplicit false

namespace Logbook

theorem hexDigitUpper_ne {c : Char} (hc : ¬c.isDigit ∧ ¬c.isUpper) {d : Nat} (hd : d < 16) :
    hexDigitUpper d ≠ c := by
  have hall : ∀ d < 16, (hexDigitUpper d).isDigit = true ∨ (hexDigitUpper d).isUpper = true := by
    decide
  rintro rfl
  exact (hall d hd).elim hc.1 hc.2

namespace Percent

/-- The characters that a character is encoded as. -/
def encodeChar (p : Char → Bool) (c : Char) : List Char :=
  if p c then (String.utf8EncodeChar c).flatMap encodeByte else [c]

/-- The characters that characters are encoded as. -/
def encodeChars (p : Char → Bool) (cs : List Char) : List Char := cs.flatMap (encodeChar p)

section
variable {p : Char → Bool} {c : Char} {cs ds : List Char}

theorem toList_encode (p : Char → Bool) (cs : List Char) :
    (encode p cs).toList = encodeChars p cs := by
  rw [encode, String.toList_ofList]
  rfl

theorem encodeChars_cons (p : Char → Bool) (c : Char) (cs : List Char) :
    encodeChars p (c :: cs) = encodeChar p c ++ encodeChars p cs := rfl

theorem length_encodeChar_pos (p : Char → Bool) (c : Char) : 0 < (encodeChar p c).length := by
  unfold encodeChar
  split
  · cases hbytes : String.utf8EncodeChar c with
    | nil => exact absurd (congrArg List.length hbytes) (by
        rw [String.length_utf8EncodeChar]
        exact Nat.ne_of_gt c.utf8Size_pos)
    | cons b bs => simp [encodeByte]
  · exact Nat.one_pos

theorem length_encodeChars_pos (p : Char → Bool) (h : cs ≠ []) : 0 < (encodeChars p cs).length := by
  obtain ⟨c, cs, rfl⟩ := List.exists_cons_of_ne_nil h
  rw [encodeChars_cons, List.length_append]
  exact Nat.add_pos_left (length_encodeChar_pos p c) _

theorem length_encodeChars_le_of_sublist (p : Char → Bool) (h : cs.Sublist ds) :
    (encodeChars p cs).length ≤ (encodeChars p ds).length :=
  (h.flatMap _).length_le

/-- What is left out is missed: encoded, a part of some characters is as long as all of them only
where it is all of them. -/
theorem eq_of_sublist_of_length_le (p : Char → Bool) (h : cs.Sublist ds)
    (hlength : (encodeChars p ds).length ≤ (encodeChars p cs).length) : cs = ds := by
  induction h with
  | slnil => rfl
  | cons d h ih =>
    have hle := length_encodeChars_le_of_sublist p h
    have hpos := length_encodeChar_pos p d
    rw [encodeChars_cons, List.length_append] at hlength
    omega
  | cons_cons d h ih =>
    rw [encodeChars_cons, encodeChars_cons, List.length_append, List.length_append] at hlength
    rw [ih (by omega)]

/-- Nothing but percent signs and digits comes in by encoding. -/
theorem mem_of_mem_encodeChars (hpercent : c ≠ '%') (hc : ¬c.isDigit ∧ ¬c.isUpper)
    (h : c ∈ encodeChars p cs) : c ∈ cs := by
  obtain ⟨d, hd, hmem⟩ := List.mem_flatMap.1 h
  unfold encodeChar at hmem
  split at hmem
  · obtain ⟨b, -, hbyte⟩ := List.mem_flatMap.1 hmem
    have hb := b.toNat_lt
    simp only [encodeByte, List.mem_cons, List.not_mem_nil, or_false] at hbyte
    rcases hbyte with rfl | rfl | rfl
    · exact absurd rfl hpercent
    · exact absurd rfl (hexDigitUpper_ne hc (by omega))
    · exact absurd rfl (hexDigitUpper_ne hc (by omega))
  · rw [List.mem_singleton] at hmem
    exact hmem ▸ hd

end

end Percent

end Logbook
