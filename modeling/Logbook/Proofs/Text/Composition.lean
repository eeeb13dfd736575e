import Logbook.Proofs.Text.Bytes
import Logbook.Proofs.Text.Runs
import Logbook.Text.Composition

/-!
# Characters that are not composed

A character of ASCII that no composed character is made of is left alone when a text is composed:
it is not taken apart, it is put together with no other, and where marks are put in order none is
lost (`mem_compose`).
-/

set_option autoImplicit false

namespace Logbook

namespace Composition

/-- The character is one of ASCII, and no composed character is made of it. -/
def IsSolitary (c : Char) : Prop := IsAscii c ∧ ∀ run ∈ pairRuns, c.toNat ∉ run.others

/-! ## The table of pairs -/

theorem first_le_of_mem_pairRuns {run : CharRun} (h : run ∈ pairRuns) : 0xC0 ≤ run.first :=
  @CharRun.first_le_of_mem_ofWords _ _ _ ⟨0xC0, 0xC0, 'P', [0x41, 0x300]⟩ (by decide +kernel) h

/-- No word of a line tells that a composed character is made of the one with a given number. -/
def spares (n : Nat) (line : List Char) : Bool :=
  (splitBy (· == ' ') line).all fun word =>
    (CharRun.ofWord? 0 word).all fun run => !run.others.contains n

theorem spares_ofList {n : Nat} {cs : List Char} (h : spares n cs = true) :
    spares n (String.ofList cs).toList = true := by
  rwa [String.toList_ofList]

theorem not_mem_others_of_spares {n : Nat} (h : ∀ line ∈ pairLines, spares n line.toList = true)
    {run : CharRun} (hrun : run ∈ pairRuns) : n ∉ run.others := by
  obtain ⟨word, hword, place, -, hplace⟩ := CharRun.exists_word_of_mem_ofWords hrun
  obtain ⟨line, hline, hin⟩ := List.mem_flatMap.1 hword
  have hothers := CharRun.others_ofWord? place word
  rw [hplace, Option.map_some] at hothers
  obtain ⟨held, hheld, heq⟩ := Option.map_eq_some_iff.1 hothers.symm
  have hspares := List.all_eq_true.1 (h line hline) word hin
  rw [hheld] at hspares
  simpa [heq] using hspares

-- the lines are checked one by one, each as a list of characters
theorem spares_pairLines_bracket : ∀ line ∈ pairLines, spares 0x5B line.toList = true := by
  unfold pairLines
  repeat refine List.forall_mem_cons.2 ⟨spares_ofList (by decide +kernel), ?_⟩
  exact List.forall_mem_nil _

theorem isSolitary_bracket : IsSolitary '[' :=
  ⟨by decide, fun _ => not_mem_others_of_spares spares_pairLines_bracket⟩

/-! ## Texts -/

variable {c : Char}

theorem IsSolitary.parts? (h : IsSolitary c) : parts? c = none := by
  have hlow : c.toNat ≤ 127 := h.1
  have hsyllable : syllableParts? c = none := by
    unfold syllableParts?
    rw [if_neg (by omega)]
  have hfind : CharRun.find? pairRuns c = none := by
    unfold CharRun.find?
    rw [List.find?_eq_none]
    intro run hrun
    have hfirst := first_le_of_mem_pairRuns hrun
    simp only [CharRun.holds, Bool.and_eq_true, decide_eq_true_eq, not_and]
    omega
  unfold Composition.parts?
  rw [hsyllable, hfind]

/-- No two characters of which it is one compose another. -/
theorem IsSolitary.ne_of_composed? (h : IsSolitary c) {a b whole : Char}
    (hwhole : composed? a b = some whole) : a ≠ c ∧ b ≠ c := by
  obtain ⟨hascii, hothers⟩ := h
  have hlow : c.toNat ≤ 127 := hascii
  unfold composed? at hwhole
  split at hwhole
  · rename_i d hd
    unfold syllable? at hd
    constructor
    all_goals
      rintro rfl
      dsimp only at hd
      rw [if_neg (by omega), if_neg (by omega)] at hd
      cases hd
  · obtain ⟨run, hfind, -⟩ := Option.map_eq_some_iff.1 hwhole
    have hpair := List.find?_some hfind
    have hmem := hothers run (List.mem_of_find?_eq_some hfind)
    rw [beq_iff_eq] at hpair
    rw [hpair] at hmem
    constructor
    all_goals
      rintro rfl
      simp at hmem

theorem mem_place {d : Char} {cs : List Char} : c ∈ place d cs ↔ c = d ∨ c ∈ cs := by
  induction cs with
  | nil => simp [place]
  | cons e cs ih =>
    unfold place
    split
    · rw [List.mem_cons, ih, List.mem_cons]
      exact or_left_comm
    · rw [List.mem_cons]

theorem mem_foldr_place {cs : List Char} : c ∈ cs.foldr place [] ↔ c ∈ cs := by
  induction cs with
  | nil => rfl
  | cons d cs ih => rw [List.foldr_cons, mem_place, ih, List.mem_cons]

theorem mem_decompose (h : IsSolitary c) {cs : List Char} (hmem : c ∈ cs) : c ∈ decompose cs := by
  have hapart : takeApart maxDepth c = [c] := by simp [maxDepth, takeApart, h.parts?]
  rw [decompose, mem_foldr_place]
  exact List.mem_flatMap.2 ⟨c, hmem, by simp [hapart]⟩

theorem mem_join (h : IsSolitary c) {letter : Char} {held cs : List Char}
    (hmem : c ∈ letter :: held ∨ c ∈ cs) : c ∈ join letter held cs := by
  induction cs generalizing letter held with
  | nil => simpa [join] using hmem
  | cons d cs ih =>
    unfold join
    dsimp only
    split
    · rename_i whole hwhole
      have hne : letter ≠ c ∧ d ≠ c := by
        split at hwhole
        · exact h.ne_of_composed? hwhole
        · cases hwhole
      apply ih
      simp only [List.mem_cons] at hmem ⊢
      grind
    · split
      · have hrest := @ih d []
        simp only [List.mem_cons, List.mem_append, List.mem_reverse] at hmem hrest ⊢
        grind
      · apply ih
        simp only [List.mem_cons] at hmem ⊢
        grind

theorem mem_joinAll (h : IsSolitary c) {cs : List Char} (hmem : c ∈ cs) : c ∈ joinAll cs := by
  induction cs with
  | nil => cases hmem
  | cons d cs ih =>
    unfold joinAll
    split
    · apply mem_join h
      simpa using hmem
    · rcases List.mem_cons.1 hmem with rfl | hrest
      · exact List.mem_cons_self
      · exact List.mem_cons_of_mem _ (ih hrest)

theorem mem_compose (h : IsSolitary c) {cs : List Char} (hmem : c ∈ cs) : c ∈ compose cs :=
  mem_joinAll h (mem_decompose h hmem)

end Composition

end Logbook
