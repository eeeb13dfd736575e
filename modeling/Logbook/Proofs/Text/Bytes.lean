import Mathlib.Data.List.Lex

/-!
# The bytes of a text

The order of texts by their bytes. A text of ASCII characters has one byte for each of them, so
such texts come in the order of their characters (`utf8Bytes_lt`), and they do so behind any
common beginning (`utf8Bytes_append`). The byte of an ASCII character stands for nothing else
(`mem_toList_of_mem_utf8Bytes`).
-/

set_option autoImplicit false

namespace Logbook

/-- The bytes of a text in UTF-8. -/
def utf8Bytes (text : String) : List UInt8 := text.toUTF8.data.toList

theorem utf8Bytes_append (text rest : String) :
    utf8Bytes (text ++ rest) = utf8Bytes text ++ utf8Bytes rest := by
  simp only [utf8Bytes, String.toUTF8, String.toByteArray_append, ByteArray.toList_data_append]

theorem utf8Bytes_ofList (cs : List Char) :
    utf8Bytes (String.ofList cs) = cs.flatMap String.utf8EncodeChar := by
  simp only [utf8Bytes, String.toUTF8, String.toByteArray_ofList, List.utf8Encode,
    List.toList_data_toByteArray]

/-- An ASCII character, which has one byte. -/
def IsAscii (c : Char) : Prop := c.toNat ≤ 127
deriving Decidable

theorem utf8EncodeChar_of_isAscii {c : Char} (h : IsAscii c) :
    String.utf8EncodeChar c = [UInt8.ofNat c.toNat] :=
  if_pos h

/-- All bytes of any other character are above those of ASCII. -/
theorem le_of_mem_utf8EncodeChar {d : Char} (hd : ¬IsAscii d) {b : UInt8}
    (h : b ∈ String.utf8EncodeChar d) : 128 ≤ b.toNat := by
  have hcode : ¬d.val.toNat ≤ 127 := hd
  unfold String.utf8EncodeChar at h
  dsimp only at h
  rw [if_neg hcode] at h
  split at h
  · simp only [List.mem_cons, List.not_mem_nil, or_false] at h
    rcases h with rfl | rfl <;> simp <;> omega
  · split at h
    · simp only [List.mem_cons, List.not_mem_nil, or_false] at h
      rcases h with rfl | rfl | rfl <;> simp <;> omega
    · simp only [List.mem_cons, List.not_mem_nil, or_false] at h
      rcases h with rfl | rfl | rfl | rfl <;> simp <;> omega

theorem eq_of_mem_utf8EncodeChar {c d : Char} (hc : IsAscii c)
    (h : UInt8.ofNat c.toNat ∈ String.utf8EncodeChar d) : d = c := by
  unfold IsAscii at hc
  have hbyte := UInt8.toNat_ofNat_of_lt' (show c.toNat < 2 ^ 8 by omega)
  by_cases hd : IsAscii d
  · rw [utf8EncodeChar_of_isAscii hd, List.mem_singleton] at h
    unfold IsAscii at hd
    rw [h, UInt8.toNat_ofNat_of_lt' (show d.toNat < 2 ^ 8 by omega)] at hbyte
    exact Char.toNat_inj.1 hbyte
  · have habove := le_of_mem_utf8EncodeChar hd h
    omega

theorem mem_toList_of_mem_utf8Bytes {c : Char} (hc : IsAscii c) {text : String}
    (h : UInt8.ofNat c.toNat ∈ utf8Bytes text) : c ∈ text.toList := by
  rw [← String.ofList_toList (s := text), utf8Bytes_ofList] at h
  obtain ⟨d, hd, hbyte⟩ := List.mem_flatMap.1 h
  rwa [← eq_of_mem_utf8EncodeChar hc hbyte]

theorem ofNat_toNat_lt {c d : Char} (hlt : c < d) (hd : IsAscii d) :
    UInt8.ofNat c.toNat < UInt8.ofNat d.toNat := by
  have hnat : c.toNat < d.toNat := hlt
  unfold IsAscii at hd
  rw [UInt8.lt_iff_toNat_lt, UInt8.toNat_ofNat_of_lt' (show c.toNat < 2 ^ 8 by omega),
    UInt8.toNat_ofNat_of_lt' (show d.toNat < 2 ^ 8 by omega)]
  exact hnat

/-- Texts of ASCII characters come in the order of their bytes. -/
theorem utf8Bytes_lt {cs ds : List Char} (h : cs < ds) (hcs : ∀ c ∈ cs, IsAscii c)
    (hds : ∀ d ∈ ds, IsAscii d) :
    utf8Bytes (String.ofList cs) < utf8Bytes (String.ofList ds) := by
  rw [utf8Bytes_ofList, utf8Bytes_ofList]
  induction h with
  | nil =>
    rw [List.flatMap_cons, utf8EncodeChar_of_isAscii (hds _ List.mem_cons_self)]
    exact .nil
  | rel hlt =>
    have hd := hds _ List.mem_cons_self
    rw [List.flatMap_cons, List.flatMap_cons, utf8EncodeChar_of_isAscii hd,
      utf8EncodeChar_of_isAscii (hcs _ List.mem_cons_self)]
    exact .rel (ofNat_toNat_lt hlt hd)
  | cons _ ih =>
    rw [List.flatMap_cons, List.flatMap_cons]
    exact List.append_left_lt (ih (fun c hc => hcs c (List.mem_cons_of_mem _ hc))
      (fun d hd => hds d (List.mem_cons_of_mem _ hd)))

end Logbook
