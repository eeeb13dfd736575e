import Mathlib.Data.List.TakeWhile
import Logbook.Text.Split

/-!
# Texts cut in parts

What stands before and behind the first of some characters (`splitAt?_append`,
`splitAt?_eq_some`) or of one (`splitAt?_beq_eq_some_iff`), what precedes an end
(`beforeEnd?_eq_some_iff`), and the parts between characters, which are those before
and behind any one of them (`splitBy_append_cons_of_pos`), hold all others (`mem_splitBy`) and are
all in a text that is made of them (`mem_intercalate`).
-/

set_option autoImplicit false

namespace Logbook

theorem splitAt?_append {p : Char → Bool} {c : Char} {tag : List Char} (rest : List Char)
    (htag : (tag.all fun d => !p d) = true) (hc : p c = true) :
    splitAt? p (tag ++ c :: rest) = some (tag, rest) := by
  have hpos := List.all_eq_true.1 htag
  unfold splitAt?
  rw [List.dropWhile_append_of_pos hpos, List.takeWhile_append_of_pos hpos]
  simp only [List.dropWhile_cons, List.takeWhile_cons, hc, Bool.not_true, Bool.false_eq_true,
    if_false, List.append_nil]

theorem splitAt?_eq_some {p : Char → Bool} {cs tag rest : List Char}
    (h : splitAt? p cs = some (tag, rest)) :
    ∃ c, p c = true ∧ cs = tag ++ c :: rest ∧ ∀ d ∈ tag, p d = false := by
  unfold splitAt? at h
  have hsplit := List.takeWhile_append_dropWhile (p := fun c => !p c) (l := cs)
  cases hdrop : cs.dropWhile fun c => !p c with
  | nil => simp only [hdrop, reduceCtorEq] at h
  | cons c rest' =>
    simp only [hdrop, Option.some.injEq, Prod.mk.injEq] at h
    obtain ⟨rfl, rfl⟩ := h
    have hc := List.head_dropWhile_not (p := fun c => !p c) (l := cs) (by simp [hdrop])
    simp only [hdrop, List.head_cons, Bool.not_eq_eq_eq_not, Bool.not_false] at hc
    rw [hdrop] at hsplit
    refine ⟨c, hc, hsplit.symm, fun d hd => ?_⟩
    simpa using List.mem_takeWhile_imp hd

theorem splitAt?_eq_none_iff {p : Char → Bool} {cs : List Char} :
    splitAt? p cs = none ↔ ∀ c ∈ cs, p c = false := by
  have hnil : cs.dropWhile (fun c => !p c) = [] ↔ ∀ c ∈ cs, p c = false := by simp
  rw [← hnil, splitAt?]
  cases cs.dropWhile fun c => !p c with
  | nil => simp
  | cons c rest => simp

/-- A text cut at the first of one character. -/
theorem splitAt?_beq_eq_some_iff {a : Char} {cs tag rest : List Char} :
    splitAt? (· == a) cs = some (tag, rest) ↔ cs = tag ++ a :: rest ∧ a ∉ tag := by
  constructor
  · intro h
    obtain ⟨c, hc, hcs, htag⟩ := splitAt?_eq_some h
    rw [beq_iff_eq] at hc
    subst hc
    exact ⟨hcs, fun hmem => by simpa using htag c hmem⟩
  · rintro ⟨rfl, htag⟩
    apply splitAt?_append rest _ (by simp)
    rw [List.all_eq_true]
    intro d hd
    rw [Bool.not_eq_true', beq_eq_false_iff_ne]
    rintro rfl
    exact htag hd

theorem splitAt?_beq_eq_none_iff {a : Char} {cs : List Char} :
    splitAt? (· == a) cs = none ↔ a ∉ cs := by
  rw [splitAt?_eq_none_iff]
  constructor
  · intro h hmem
    simpa using h a hmem
  · intro h c hc
    rw [beq_eq_false_iff_ne]
    rintro rfl
    exact h hc

theorem splitBy_ne_nil (p : Char → Bool) (cs : List Char) : splitBy p cs ≠ [] := by
  cases cs with
  | nil => exact List.cons_ne_nil _ _
  | cons c cs =>
    unfold splitBy
    split
    · exact List.cons_ne_nil _ _
    · split <;> exact List.cons_ne_nil _ _

theorem splitBy_cons_of_pos {p : Char → Bool} {c : Char} (hc : p c = true) (cs : List Char) :
    splitBy p (c :: cs) = [] :: splitBy p cs := by
  rw [splitBy]
  cases hparts : splitBy p cs with
  | nil => exact absurd hparts (splitBy_ne_nil p cs)
  | cons part parts => simp [hc]

theorem splitBy_cons_of_neg {p : Char → Bool} {c : Char} (hc : p c = false) {cs part : List Char}
    {parts : List (List Char)} (hparts : splitBy p cs = part :: parts) :
    splitBy p (c :: cs) = (c :: part) :: parts := by
  rw [splitBy, hparts]
  simp [hc]

/-- What is cut nowhere begins the first part. -/
theorem splitBy_append_of_forall {p : Char → Bool} {xs ys first : List Char}
    {after : List (List Char)} (h : ∀ c ∈ xs, p c = false) (hys : splitBy p ys = first :: after) :
    splitBy p (xs ++ ys) = (xs ++ first) :: after := by
  induction xs with
  | nil => exact hys
  | cons c xs ih =>
    rw [List.forall_mem_cons] at h
    exact splitBy_cons_of_neg h.1 (ih h.2)

theorem splitBy_of_forall {p : Char → Bool} {cs : List Char} (h : ∀ c ∈ cs, p c = false) :
    splitBy p cs = [cs] := by
  have hall := splitBy_append_of_forall h (rfl : splitBy p [] = [[]])
  rwa [List.append_nil] at hall

/-- The texts before and behind a mark are cut each by itself. -/
theorem splitBy_append_cons_of_pos {p : Char → Bool} {c : Char} (hc : p c = true)
    (xs ys : List Char) : splitBy p (xs ++ c :: ys) = splitBy p xs ++ splitBy p ys := by
  induction xs with
  | nil => exact splitBy_cons_of_pos hc ys
  | cons x xs ih =>
    cases hx : p x with
    | true =>
      rw [List.cons_append, splitBy_cons_of_pos hx, splitBy_cons_of_pos hx, ih, List.cons_append]
    | false =>
      obtain ⟨part, parts, hparts⟩ := List.exists_cons_of_ne_nil (splitBy_ne_nil p xs)
      rw [hparts, List.cons_append] at ih
      rw [List.cons_append, splitBy_cons_of_neg hx ih, splitBy_cons_of_neg hx hparts,
        List.cons_append]

/-- The last part of the text before any other character goes on behind it. -/
theorem exists_splitBy_append_cons_of_neg {p : Char → Bool} {c : Char} (hc : p c = false)
    (xs : List Char) : ∃ parts before, splitBy p xs = parts ++ [before] ∧
      ∀ {ys first : List Char} {after : List (List Char)}, splitBy p ys = first :: after →
        splitBy p (xs ++ c :: ys) = parts ++ (before ++ c :: first) :: after := by
  induction xs with
  | nil =>
    refine ⟨[], [], rfl, fun {ys first after} hys => ?_⟩
    rw [List.nil_append, splitBy, hys]
    simp [hc]
  | cons x xs ih =>
    obtain ⟨parts, before, hxs, hboth⟩ := ih
    cases hx : p x with
    | true =>
      refine ⟨[] :: parts, before, ?_, fun {ys first after} hys => ?_⟩
      · rw [splitBy_cons_of_pos hx, hxs, List.cons_append]
      · rw [List.cons_append, splitBy_cons_of_pos hx, hboth hys, List.cons_append]
    | false =>
      cases parts with
      | nil =>
        refine ⟨[], x :: before, splitBy_cons_of_neg hx hxs, fun {ys first after} hys => ?_⟩
        exact splitBy_cons_of_neg hx (hboth hys)
      | cons part parts =>
        refine ⟨(x :: part) :: parts, before, splitBy_cons_of_neg hx hxs,
          fun {ys first after} hys => ?_⟩
        exact splitBy_cons_of_neg hx (hboth hys)

/-- No part holds a character that ends one. -/
theorem not_mem_of_mem_splitBy {p : Char → Bool} {c : Char} (hc : p c = true) {cs : List Char} :
    ∀ part ∈ splitBy p cs, c ∉ part := by
  induction cs with
  | nil => simp [splitBy]
  | cons d cs ih =>
    cases hd : p d with
    | true =>
      rw [splitBy_cons_of_pos hd, List.forall_mem_cons]
      exact ⟨List.not_mem_nil, ih⟩
    | false =>
      obtain ⟨part, parts, hparts⟩ := List.exists_cons_of_ne_nil (splitBy_ne_nil p cs)
      rw [hparts, List.forall_mem_cons] at ih
      rw [splitBy_cons_of_neg hd hparts, List.forall_mem_cons]
      refine ⟨?_, ih.2⟩
      rintro (_ | ⟨_, hmem⟩)
      · rw [hc] at hd
        cases hd
      · exact ih.1 hmem

theorem mem_splitBy {p : Char → Bool} {x : Char} (hx : p x = false) {cs : List Char}
    (h : x ∈ cs) : ∃ part ∈ splitBy p cs, x ∈ part := by
  induction cs with
  | nil => cases h
  | cons c cs ih =>
    cases hparts : splitBy p cs with
    | nil =>
      unfold splitBy
      rw [hparts]
      rcases List.mem_cons.1 h with rfl | hmem
      · exact ⟨[x], by simp, by simp⟩
      · have hnone : x ∉ cs := by simpa [hparts] using ih
        exact absurd hmem hnone
    | cons part parts =>
      unfold splitBy
      rw [hparts] at ih ⊢
      rcases List.mem_cons.1 h with rfl | hmem
      · exact ⟨x :: part, by simp [hx], by simp⟩
      · obtain ⟨held, hheld, hin⟩ := ih hmem
        dsimp only
        split
        · exact ⟨held, List.mem_cons_of_mem _ hheld, hin⟩
        · rcases List.mem_cons.1 hheld with rfl | hrest
          · exact ⟨c :: held, List.mem_cons_self, List.mem_cons_of_mem _ hin⟩
          · exact ⟨held, List.mem_cons_of_mem _ hrest, hin⟩

theorem mem_intercalate {x : Char} {between part : List Char} {parts : List (List Char)}
    (hpart : part ∈ parts) (hx : x ∈ part) : x ∈ between.intercalate parts := by
  induction parts with
  | nil => cases hpart
  | cons first rest ih =>
    cases rest with
    | nil =>
      rw [List.mem_singleton.1 hpart] at hx
      simpa [List.intercalate] using hx
    | cons second rest =>
      rw [List.intercalate_cons_cons]
      rcases List.mem_cons.1 hpart with rfl | hmem
      · exact List.mem_append_left _ (List.mem_append_left _ hx)
      · exact List.mem_append_right _ (ih hmem)

theorem beforeEnd?_eq_some_iff {stop cs inner : List Char} :
    beforeEnd? stop cs = some inner ↔ cs = inner ++ stop := by
  unfold beforeEnd?
  constructor
  · intro h
    split at h
    · rename_i hsuffix
      obtain ⟨start, rfl⟩ := List.isSuffixOf_iff_suffix.1 hsuffix
      rw [List.length_append, Nat.add_sub_cancel, List.take_left, Option.some.injEq] at h
      rw [h]
    · cases h
  · rintro rfl
    rw [if_pos (List.isSuffixOf_iff_suffix.2 (List.suffix_append inner stop)), List.length_append,
      Nat.add_sub_cancel, List.take_left]

/-- What stands before the first mark and behind it is told by the whole. -/
theorem append_cons_inj {α : Type} {xs ys xs' ys' : List α} {a : α} (hxs : a ∉ xs) (hys : a ∉ ys)
    (h : xs ++ a :: xs' = ys ++ a :: ys') : xs = ys ∧ xs' = ys' := by
  induction xs generalizing ys with
  | nil =>
    cases ys with
    | nil => exact ⟨rfl, (List.cons.inj h).2⟩
    | cons y ys =>
      rw [List.cons_append, List.nil_append, List.cons.injEq] at h
      exact absurd (h.1 ▸ List.mem_cons_self) hys
  | cons x xs ih =>
    cases ys with
    | nil =>
      rw [List.cons_append, List.nil_append, List.cons.injEq] at h
      exact absurd (h.1 ▸ List.mem_cons_self) hxs
    | cons y ys =>
      simp only [List.cons_append, List.cons.injEq] at h
      obtain ⟨rfl, h⟩ := h
      obtain ⟨rfl, hrest⟩ := ih (fun hmem => hxs (List.mem_cons_of_mem _ hmem))
        (fun hmem => hys (List.mem_cons_of_mem _ hmem)) h
      exact ⟨rfl, hrest⟩

/-- What stands before the last mark and behind it is told by the whole too. -/
theorem append_cons_inj_last {α : Type} {xs ys xs' ys' : List α} {a : α} (hxs : a ∉ xs')
    (hys : a ∉ ys') (h : xs ++ a :: xs' = ys ++ a :: ys') : xs = ys ∧ xs' = ys' := by
  have hreverse := congrArg List.reverse h
  simp only [List.reverse_append, List.reverse_cons, List.append_assoc, List.singleton_append]
    at hreverse
  obtain ⟨hbehind, hbefore⟩ := append_cons_inj (by simpa using hxs) (by simpa using hys) hreverse
  exact ⟨List.reverse_inj.1 hbefore, List.reverse_inj.1 hbehind⟩

end Logbook
