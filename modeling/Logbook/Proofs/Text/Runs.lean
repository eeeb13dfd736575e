import Logbook.Text.Runs

/-!
# Tables of runs

Runs stand in ascending order (`first_le_of_mem_ofWords`), and what belongs to a run is written in
its word (`exists_word_of_mem_ofWords`), wherever it stands in the table.
-/

set_option autoImplicit false

namespace Logbook

namespace CharRun

variable {start : Nat} {word : List Char} {words : List (List Char)} {run : CharRun}

theorem first_of_ofWord? (h : ofWord? start word = some run) :
    start ≤ run.first ∧ run.first ≤ run.last := by
  unfold ofWord? at h
  split at h
  · cases h
  · dsimp only at h
    split at h
    all_goals
      cases h
      exact ⟨Nat.le_add_right _ _, Nat.le_add_right _ _⟩

/-- The others of a run do not depend on where the run stands. -/
theorem others_ofWord? (start : Nat) (word : List Char) :
    (ofWord? start word).map others = (ofWord? 0 word).map others := by
  unfold ofWord?
  split
  · rfl
  · dsimp only
    split <;> rfl

theorem exists_word_of_mem_ofWords (h : run ∈ ofWords start words) :
    ∃ word ∈ words, ∃ place, start ≤ place ∧ ofWord? place word = some run := by
  induction words generalizing start with
  | nil => cases h
  | cons word words ih =>
    unfold ofWords at h
    split at h
    · obtain ⟨held, hheld, place, hplace, hrun⟩ := ih h
      exact ⟨held, List.mem_cons_of_mem _ hheld, place, hplace, hrun⟩
    · rename_i next hnext
      rcases List.mem_cons.1 h with rfl | hmem
      · exact ⟨word, List.mem_cons_self, start, Nat.le_refl start, hnext⟩
      · obtain ⟨held, hheld, place, hplace, hrun⟩ := ih hmem
        have hbounds := first_of_ofWord? hnext
        exact ⟨held, List.mem_cons_of_mem _ hheld, place, by omega, hrun⟩

/-- All runs of a table stand behind its first one. -/
theorem first_le_of_mem_ofWords {next : CharRun}
    (hnext : (words.head?.bind fun word => ofWord? start word) = some next)
    (h : run ∈ ofWords start words) : next.first ≤ run.first := by
  cases words with
  | nil => cases h
  | cons word words =>
    rw [List.head?_cons, Option.bind_some] at hnext
    unfold ofWords at h
    rw [hnext] at h
    rcases List.mem_cons.1 h with rfl | hmem
    · exact Nat.le_refl _
    · obtain ⟨held, -, place, hplace, hrun⟩ := exists_word_of_mem_ofWords hmem
      have hbounds := first_of_ofWord? hnext
      have hbounds' := first_of_ofWord? hrun
      omega

end CharRun

end Logbook
