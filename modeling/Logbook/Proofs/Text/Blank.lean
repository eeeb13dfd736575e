import Mathlib.Data.List.TakeWhile
import Logbook.Proofs.Number.Digits
import Logbook.Text.Blank

/-!
# White space around texts

Nothing is left of a text after trimming when it is white space throughout
(`trim_eq_empty_iff`), and all of it when there is none at its ends (`trimChars_eq_self`).
-/

set_option autoImplicit false

namespace Logbook

theorem trimChars_eq_nil_iff {cs : List Char} : trimChars cs = [] ↔ ∀ c ∈ cs, isBlank c = true := by
  rw [← List.dropWhile_eq_nil_iff, trimChars, List.reverse_eq_nil_iff]
  constructor
  · intro h
    cases hdrop : cs.dropWhile isBlank with
    | nil => rfl
    | cons c rest =>
      -- the first character that is left is no white space, so it stays at the other end too
      have hc := List.head_dropWhile_not (p := isBlank) (l := cs) (by simp [hdrop])
      simp only [hdrop, List.head_cons] at hc
      rw [hdrop, List.dropWhile_eq_nil_iff] at h
      rw [h c (by simp)] at hc
      cases hc
  · intro h
    rw [h]
    rfl

theorem dropWhile_isBlank_eq_self {cs : List Char} (h : ∀ c ∈ cs.head?, isBlank c = false) :
    cs.dropWhile isBlank = cs := by
  cases cs with
  | nil => rfl
  | cons c rest => rw [List.dropWhile_cons_of_neg (by simp [h c rfl])]

theorem trimChars_eq_self {cs : List Char} (hfirst : ∀ c ∈ cs.head?, isBlank c = false)
    (hlast : ∀ c ∈ cs.getLast?, isBlank c = false) : trimChars cs = cs := by
  rw [← List.head?_reverse] at hlast
  rw [trimChars, dropWhile_isBlank_eq_self hfirst, dropWhile_isBlank_eq_self hlast,
    List.reverse_reverse]

theorem trimChars_eq_self_of_forall {cs : List Char} (h : ∀ c ∈ cs, isBlank c = false) :
    trimChars cs = cs :=
  trimChars_eq_self (fun c hc => h c (List.mem_of_mem_head? hc))
    (fun c hc => h c (List.mem_of_mem_getLast? hc))

/-- A text begins with no white space after trimming. -/
theorem isBlank_of_head?_trimChars {cs : List Char} {c : Char}
    (h : (trimChars cs).head? = some c) : isBlank c = false := by
  have hpre := List.reverse_prefix.2 (List.dropWhile_suffix (l := (cs.dropWhile isBlank).reverse)
    isBlank)
  rw [List.reverse_reverse] at hpre
  obtain ⟨rest, hrest⟩ := hpre
  have hhead : (cs.dropWhile isBlank).head? = some c := by
    rw [trimChars] at h
    rw [← hrest, List.head?_append, h, Option.some_or]
  have hfirst := List.head?_dropWhile_not isBlank cs
  rw [hhead] at hfirst
  exact hfirst

/-- The visible characters of ASCII are no white space. -/
theorem isBlank_of_visible {c : Char} (hlow : 32 < c.toNat) (hhigh : c.toNat < 128) :
    isBlank c = false := by
  simp [isBlank, blankRanges]
  omega

theorem isBlank_of_isDigit {c : Char} (h : c.isDigit = true) : isBlank c = false := by
  obtain ⟨hlow, hhigh⟩ := toNat_bounds_of_isDigit h
  exact isBlank_of_visible (by omega) (by omega)

theorem trim_eq_empty_iff {text : String} :
    trim text = "" ↔ ∀ c ∈ text.toList, isBlank c = true := by
  rw [← trimChars_eq_nil_iff, trim]
  constructor
  · intro h
    simpa using congrArg String.toList h
  · intro h
    rw [h]

end Logbook
