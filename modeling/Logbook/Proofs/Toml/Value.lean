import Logbook.Config.File
import Logbook.Proofs.Text.Scanner
import Logbook.Proofs.Toml.Text

/-!
# Written values are read

A value of a configuration stands behind its key, at the end of a line.

* `simpleValue_digits`, `simpleValue_stringChars`, `value_listText`: numbers, strings and lists of
  strings, which may take up lines of their own.
* `Spells`: a text stands for a value at the end of a line; so do the texts of all values of a
  configuration.
-/

set_option autoImplicit false

namespace Logbook

namespace Toml

open Scanner

/-! ## Natural numbers -/

section
variable {ds rest : List Char}

theorem moment?_digits (hds : ∀ c ∈ ds, c.isDigit) : moment? (ds ++ '\n' :: rest) = none := by
  have hdate : Moment.date.run (ds ++ '\n' :: rest) = none :=
    run_number_char 4 hds rfl rfl (by decide)
  have htime : Moment.time.run (ds ++ '\n' :: rest) = none :=
    run_number_char 2 hds rfl rfl (by decide)
  have hattempt : (Moment.attempt Moment.date).run (ds ++ '\n' :: rest) =
      some (false, ds ++ '\n' :: rest) := by
    simp only [Moment.attempt, StateT.run] at hdate ⊢
    rw [hdate]
  have hscan : Moment.scan.run (ds ++ '\n' :: rest) = none := by
    rw [Moment.scan, run_bind_of_some hattempt]
    exact htime
  rw [moment?, hscan]
  rfl

theorem digitRun_digits (hds : ∀ c ∈ ds, c.isDigit) :
    digitRun Char.isDigit (ds ++ '\n' :: rest) = (ds, '\n' :: rest) := by
  induction ds with
  | nil => cases rest <;> rfl
  | cons d ds ih =>
    have hd := hds d List.mem_cons_self
    have ih := ih fun c hc => hds c (List.mem_cons_of_mem d hc)
    have hunderscore : d ≠ '_' := by
      rintro rfl
      cases hd
    rw [List.cons_append, digitRun.eq_3 _ _ _ fun _ _ h => absurd h hunderscore, if_pos hd, ih]

/-- A number begins with a digit. -/
theorem exists_digits_eq_cons (n : Nat) : ∃ d ds, digits n = d :: ds ∧ d.isDigit := by
  obtain ⟨d, ds, hdigits⟩ := List.exists_cons_of_ne_nil (digits_ne_nil n)
  exact ⟨d, ds, hdigits, isDigit_of_mem_digits (hdigits ▸ List.mem_cons_self)⟩

theorem digits?_digits (n : Nat) :
    digits? Char.isDigit (digits n ++ '\n' :: rest) = some (digits n, '\n' :: rest) := by
  have hrun : digitRun Char.isDigit (digits n ++ '\n' :: rest) = (digits n, '\n' :: rest) :=
    digitRun_digits fun c => isDigit_of_mem_digits
  obtain ⟨d, ds, hdigits, hd⟩ := exists_digits_eq_cons n
  rw [digits?, hrun, hdigits]
  exact if_pos hd

theorem decimal?_digits {n : Nat} (h : n < 2 ^ 63) :
    decimal? false (digits n ++ '\n' :: rest) = some (.integer n, '\n' :: rest) := by
  have hzero : ¬((digits n).head? = some '0' ∧ 1 < (digits n).length) := by
    rintro ⟨hhead, hlength⟩
    by_cases hn : n = 0
    · subst hn
      simp [digits] at hlength
    · exact head?_digits_ne_zero hn hhead
  refine Option.bind_eq_some_iff.2 ⟨(digits n, '\n' :: rest), digits?_digits n, ?_⟩
  dsimp only
  rw [if_neg hzero]
  -- there is neither a fraction nor an exponent
  refine Option.bind_eq_some_iff.2 ⟨(none, '\n' :: rest), rfl, ?_⟩
  refine Option.bind_eq_some_iff.2 ⟨(none, '\n' :: rest), rfl, ?_⟩
  dsimp only
  rw [if_pos ⟨rfl, rfl⟩, if_neg Bool.false_ne_true, digitsValue_digits]
  split
  · rfl
  · rename_i hrange
    omega

/-- A run of digits has no mark of a base in it. -/
theorem not_marked {mark : Char} {cs : List Char} (hds : ∀ c ∈ ds, c.isDigit)
    (hmark : mark.isDigit = false) (hne : mark ≠ '\n') :
    ds ++ '\n' :: rest ≠ '0' :: mark :: cs := by
  intro h
  match ds, hds, h with
  | [_], _, h => exact hne (List.cons.inj (List.cons.inj h).2).1.symm
  | _ :: c :: _, hds, h =>
    have hc := hds c (List.mem_cons_of_mem _ List.mem_cons_self)
    rw [(List.cons.inj (List.cons.inj h).2).1, hmark] at hc
    cases hc

theorem number?_digits {n : Nat} (h : n < 2 ^ 63) :
    number? (digits n ++ '\n' :: rest) = some (.integer n, '\n' :: rest) := by
  have hdigits : ∀ c ∈ digits n, c.isDigit := fun c => isDigit_of_mem_digits
  have hdecimal : decimal? false (digits n ++ '\n' :: rest) = _ := decimal?_digits h
  rw [number?.eq_4 _ (fun _ => not_marked hdigits rfl (by decide))
    (fun _ => not_marked hdigits rfl (by decide)) (fun _ => not_marked hdigits rfl (by decide))]
  obtain ⟨d, ds, hstart, hd⟩ := exists_digits_eq_cons n
  rw [hstart, List.cons_append] at hdecimal ⊢
  have hne : ∀ {c : Char} {cs : List Char}, c.isDigit = false →
      d :: (ds ++ '\n' :: rest) ≠ c :: cs := by
    rintro c cs hc heq
    rw [(List.cons.inj heq).1, hc] at hd
    cases hd
  have hsign : spanSign (d :: (ds ++ '\n' :: rest)) = (false, d :: (ds ++ '\n' :: rest)) := by
    unfold spanSign
    split
    · rename_i heq
      exact absurd heq (hne rfl)
    · rename_i heq
      exact absurd heq (hne rfl)
    · rfl
  rw [hsign]
  dsimp only
  split
  · rename_i heq
    exact absurd heq (hne rfl)
  · rename_i heq
    exact absurd heq (hne rfl)
  · exact hdecimal

/-- A natural number at the end of a line is read. -/
theorem simpleValue_digits {n : Nat} (h : n < 2 ^ 63) :
    simpleValue (digits n ++ '\n' :: rest) = some (.integer n, '\n' :: rest) := by
  have hnumber : ((moment? (digits n ++ '\n' :: rest)).orElse fun _ =>
      number? (digits n ++ '\n' :: rest)) = some (.integer n, '\n' :: rest) := by
    rw [moment?_digits fun c => isDigit_of_mem_digits, number?_digits h]
    rfl
  obtain ⟨d, ds, hstart, hd⟩ := exists_digits_eq_cons n
  rw [hstart, List.cons_append] at hnumber ⊢
  have hquote : ¬(d = basicQuote ∨ d = literalQuote) := by
    rintro (rfl | rfl) <;> cases hd
  have htrue : d ≠ 't' := by
    rintro rfl
    cases hd
  have hfalse : d ≠ 'f' := by
    rintro rfl
    cases hd
  simp only [simpleValue, if_neg hquote, if_neg htrue, if_neg hfalse]
  exact hnumber

end

/-! ## Strings -/

/-- A string begins with a quote. -/
theorem exists_stringChars_eq_cons (cs : List Char) :
    ∃ q text, (q = basicQuote ∨ q = literalQuote) ∧ stringChars cs = q :: text := by
  have hbasic : ∀ multi, ∃ text, basicString multi cs = basicQuote :: text := by
    rintro (_ | _) <;> exact ⟨_, rfl⟩
  have hliteral : ∀ multi, ∃ text, literalString multi cs = literalQuote :: text := by
    rintro (_ | _) <;> exact ⟨_, rfl⟩
  unfold stringChars
  dsimp only
  repeat' split
  all_goals first
    | exact ⟨basicQuote, (hbasic _).choose, .inl rfl, (hbasic _).choose_spec⟩
    | exact ⟨literalQuote, (hliteral _).choose, .inr rfl, (hliteral _).choose_spec⟩

theorem simpleValue_stringChars {rest : List Char} (text : String)
    (hbasic : rest.head? ≠ some basicQuote) (hliteral : rest.head? ≠ some literalQuote) :
    simpleValue (stringChars text.toList ++ rest) = some (.string text, rest) := by
  have hstring := string?_stringChars text.toList hbasic hliteral
  obtain ⟨q, tail, hq, htext⟩ := exists_stringChars_eq_cons text.toList
  rw [htext, List.cons_append] at hstring ⊢
  simp only [simpleValue, if_pos hq, hstring]
  simp

/-! ## Arrays -/

theorem value_of_simple {c : Char} {cs : List Char} (fuel depth : Nat) (hbracket : c ≠ '[')
    (hbrace : c ≠ '\x7b') : value (fuel + 1) depth (c :: cs) = simpleValue (c :: cs) := by
  cases depth <;> simp [value, hbracket, hbrace]

theorem value_bracket (fuel depth : Nat) (cs : List Char) :
    value (fuel + 1) (depth + 1) ('[' :: cs) =
      (items fuel depth cs).map fun r => (.array r.1, r.2) := by
  rw [value]
  rfl

/-- A string among the items of an array. -/
theorem value_stringChars {rest : List Char} (fuel depth : Nat) (text : String)
    (hbasic : rest.head? ≠ some basicQuote) (hliteral : rest.head? ≠ some literalQuote) :
    value (fuel + 1) depth (stringChars text.toList ++ rest) = some (.string text, rest) := by
  have hvalue := simpleValue_stringChars text hbasic hliteral
  obtain ⟨q, tail, hq, htext⟩ := exists_stringChars_eq_cons text.toList
  rw [htext, List.cons_append] at hvalue ⊢
  rw [value_of_simple fuel depth (by rintro rfl; revert hq; decide)
    (by rintro rfl; revert hq; decide), hvalue]

theorem run_skipLines_of_not_mem {c : Char} {cs : List Char}
    (h : c ∉ ['\n', '\r', ' ', '\t', '#']) :
    (skipLines false).run (c :: cs) = some ((), c :: cs) := by
  have h : ¬c = '\n' ∧ ¬c = '\r' ∧ ¬c = ' ' ∧ ¬c = '\t' ∧ ¬c = '#' := by simpa using h
  simp [StateT.run, skipLines, isGap, h]

section
variable {fuel depth : Nat} {item : Toml} {cs cs₁ cs₂ cs₃ rest : List Char}

theorem run_items_end (hcs : (skipLines false).run cs = some ((), ']' :: rest)) :
    (items (fuel + 1) depth).run cs = some ([], rest) := by
  rw [items, run_bind_of_some hcs, run_bind_of_some (run_accept_self ']' rest)]
  rfl

theorem run_items_last (hcs : (skipLines false).run cs = some ((), cs₁))
    (hhead : cs₁.head? ≠ some ']') (hitem : (value fuel depth).run cs₁ = some (item, cs₂))
    (hend : (skipLines false).run cs₂ = some ((), ']' :: rest)) :
    (items (fuel + 1) depth).run cs = some ([item], rest) := by
  rw [items, run_bind_of_some hcs, run_bind_of_some (run_accept_of_head? hhead),
    if_neg Bool.false_ne_true, run_bind_of_some hitem, run_bind_of_some hend,
    run_bind_of_some (run_accept_of_head? (by simp)), if_neg Bool.false_ne_true,
    run_bind_of_some ((run_char ']' ']' rest).trans (if_pos rfl))]
  rfl

theorem run_items_comma {more : List Toml} (hcs : (skipLines false).run cs = some ((), cs₁))
    (hhead : cs₁.head? ≠ some ']') (hitem : (value fuel depth).run cs₁ = some (item, cs₂))
    (hend : (skipLines false).run cs₂ = some ((), ',' :: cs₃))
    (hmore : (items fuel depth).run cs₃ = some (more, rest)) :
    (items (fuel + 1) depth).run cs = some (item :: more, rest) := by
  rw [items, run_bind_of_some hcs, run_bind_of_some (run_accept_of_head? hhead),
    if_neg Bool.false_ne_true, run_bind_of_some hitem, run_bind_of_some hend,
    run_bind_of_some (run_accept_self ',' cs₃), if_pos rfl, run_bind_of_some hmore]
  rfl

end

/-- The lines of the items of an array. -/
def itemLines (texts : List String) : List Char :=
  texts.flatMap fun text => "    ".toList ++ stringChars text.toList ++ ",\n".toList

/-- Nothing is passed over in front of a string. -/
theorem run_skipLines_stringChars (cs rest : List Char) :
    (skipLines false).run (stringChars cs ++ rest) = some ((), stringChars cs ++ rest) := by
  obtain ⟨q, tail, hq, htext⟩ := exists_stringChars_eq_cons cs
  rw [htext]
  exact run_skipLines_of_not_mem (by rcases hq with rfl | rfl <;> decide)

theorem head?_stringChars_ne (cs rest : List Char) : (stringChars cs ++ rest).head? ≠ some ']' := by
  obtain ⟨q, tail, hq, htext⟩ := exists_stringChars_eq_cons cs
  rw [htext]
  rcases hq with rfl | rfl <;> simp [basicQuote, literalQuote]

/-- Strings on lines of their own are the items of an array. -/
theorem run_items_itemLines {rest : List Char} (texts : List String) {fuel depth : Nat}
    (hfuel : texts.length < fuel) :
    (items fuel depth).run ('\n' :: itemLines texts ++ ']' :: rest) =
      some (texts.map .string, rest) := by
  induction texts generalizing fuel with
  | nil =>
    obtain ⟨fuel, rfl⟩ := Nat.exists_eq_succ_of_ne_zero (Nat.ne_of_gt hfuel)
    exact run_items_end rfl
  | cons text texts ih =>
    rw [List.length_cons] at hfuel
    obtain ⟨fuel, rfl⟩ : ∃ n, fuel = n + 2 := ⟨fuel - 2, by omega⟩
    have hmore : (items (fuel + 1) depth).run ('\n' :: itemLines texts ++ ']' :: rest) = _ :=
      ih (by omega)
    have hstart : (skipLines false).run ('\n' :: itemLines (text :: texts) ++ ']' :: rest) =
        some ((), stringChars text.toList ++ ',' :: ('\n' :: itemLines texts ++ ']' :: rest)) := by
      have htext : '\n' :: itemLines (text :: texts) ++ ']' :: rest = ['\n', ' ', ' ', ' ', ' '] ++
          (stringChars text.toList ++ ',' :: ('\n' :: itemLines texts ++ ']' :: rest)) := by
        simp [itemLines]
      rw [htext, ← run_skipLines_stringChars]
      rfl
    exact run_items_comma hstart (head?_stringChars_ne _ _)
      (value_stringChars fuel depth text (by simp [basicQuote]) (by simp [literalQuote]))
      (run_skipLines_of_not_mem (by decide)) hmore

theorem toList_stringText (text : String) :
    (Config.stringText text).toList = stringChars text.toList := String.toList_ofList

/-- The text of a list of more than one string. -/
theorem toList_listText (text text' : String) (texts : List String) :
    (Config.listText (text :: text' :: texts)).toList =
      '[' :: ('\n' :: itemLines (text :: text' :: texts) ++ [']']) := by
  simp [Config.listText, itemLines, List.flatMap_map, toList_stringText]

/-- A list of strings at the end of a line is read. -/
theorem value_listText {rest : List Char} (texts : List String) {fuel depth : Nat}
    (hfuel : texts.length + 1 < fuel) :
    value fuel (depth + 1) ((Config.listText texts).toList ++ '\n' :: rest) =
      some (.array (texts.map .string), '\n' :: rest) := by
  obtain ⟨fuel, rfl⟩ : ∃ n, fuel = n + 2 := ⟨fuel - 2, by omega⟩
  have hitems : ∀ {cs : List Char}, (Config.listText texts).toList = '[' :: cs →
      (items (fuel + 1) depth).run (cs ++ '\n' :: rest) = some (texts.map .string, '\n' :: rest) →
        value (fuel + 2) (depth + 1) ((Config.listText texts).toList ++ '\n' :: rest) =
          some (.array (texts.map .string), '\n' :: rest) := by
    intro cs htext hcs
    rw [htext, List.cons_append, value_bracket]
    exact congrArg (Option.map fun r => (Toml.array r.1, r.2)) hcs
  match texts, hfuel with
  | [], _ =>
    have htext : (Config.listText []).toList = '[' :: [']'] := rfl
    exact hitems htext (run_items_end rfl)
  | [text], hfuel =>
    rw [List.length_singleton] at hfuel
    obtain ⟨fuel, rfl⟩ : ∃ n, fuel = n + 1 := ⟨fuel - 1, by omega⟩
    have htext : (Config.listText [text]).toList = '[' :: (stringChars text.toList ++ [']']) := by
      simp [Config.listText, toList_stringText]
    refine hitems htext ?_
    rw [List.append_assoc]
    exact run_items_last (run_skipLines_stringChars _ _) (head?_stringChars_ne _ _)
      (value_stringChars fuel depth text (by simp [basicQuote]) (by simp [literalQuote]))
      (run_skipLines_of_not_mem (by decide))
  | text :: text' :: texts, hfuel =>
    refine hitems (toList_listText text text' texts) ?_
    rw [List.append_assoc]
    exact run_items_itemLines _ (by omega)

/-- A list is not longer than its text. -/
theorem length_le_listText (texts : List String) :
    texts.length ≤ (Config.listText texts).toList.length := by
  have hlines : ∀ texts, texts.length ≤ (itemLines texts).length := by
    intro texts
    induction texts with
    | nil => exact Nat.le_refl 0
    | cons text texts ih =>
      rw [itemLines, List.flatMap_cons, ← itemLines]
      simp only [List.length_append, List.length_cons]
      have hspaces : "    ".toList.length = 4 := rfl
      omega
  match texts with
  | [] => exact Nat.zero_le _
  | [text] => simp [Config.listText]
  | text :: text' :: texts =>
    have hlines := hlines (text :: text' :: texts)
    rw [toList_listText]
    simp only [List.length_append, List.length_cons] at hlines ⊢
    omega

/-! ## Values at the end of a line -/

/-- A text stands for a value at the end of a line. -/
structure Spells (text : List Char) (v : Toml) : Prop where
  start : (text ++ ['\n']).head?.all fun c => !isGap c
  read : ∀ rest fuel, text.length + 1 < fuel →
    value fuel levels (text ++ '\n' :: rest) = some (v, '\n' :: rest)

theorem spells_string (text : String) : Spells (Config.stringText text).toList (.string text) where
  start := by
    obtain ⟨q, tail, hq, htext⟩ := exists_stringChars_eq_cons text.toList
    rw [toList_stringText, htext]
    rcases hq with rfl | rfl <;> rfl
  read := by
    intro rest fuel hfuel
    obtain ⟨fuel, rfl⟩ : ∃ n, fuel = n + 1 := ⟨fuel - 1, by omega⟩
    rw [toList_stringText]
    exact value_stringChars fuel levels text (by simp [basicQuote]) (by simp [literalQuote])

theorem spells_list (texts : List String) :
    Spells (Config.listText texts).toList (.array (texts.map .string)) where
  start := by
    match texts with
    | [] => rfl
    | [text] => simp [Config.listText, isGap]
    | _ :: _ :: _ => simp [Config.listText, isGap]
  read := fun rest fuel hfuel => by
    have hlength := length_le_listText texts
    exact value_listText texts (by omega)

theorem spells_bool (b : Bool) : Spells (Config.boolText b).toList (.bool b) where
  start := by cases b <;> rfl
  read := by
    intro rest fuel hfuel
    obtain ⟨fuel, rfl⟩ : ∃ n, fuel = n + 1 := ⟨fuel - 1, by omega⟩
    cases b
    · show value (fuel + 1) levels ('f' :: ("alse".toList ++ '\n' :: rest)) = _
      rw [value_of_simple fuel levels (by decide) (by decide)]
      rfl
    · show value (fuel + 1) levels ('t' :: ("rue".toList ++ '\n' :: rest)) = _
      rw [value_of_simple fuel levels (by decide) (by decide)]
      rfl

theorem spells_nat {n : Nat} (h : n < 2 ^ 63) : Spells (natText n).toList (.integer n) := by
  have htext : (natText n).toList = digits n := String.toList_ofList
  obtain ⟨d, ds, hdigits, hd⟩ := exists_digits_eq_cons n
  have hne : ∀ c : Char, c.isDigit = false → d ≠ c := by
    rintro c hc rfl
    rw [hc] at hd
    cases hd
  constructor
  · rw [htext, hdigits]
    simp [isGap, hne ' ' rfl, hne '\t' rfl]
  · intro rest fuel hfuel
    obtain ⟨fuel, rfl⟩ : ∃ n, fuel = n + 1 := ⟨fuel - 1, by omega⟩
    have hvalue : simpleValue (digits n ++ '\n' :: rest) = _ := simpleValue_digits h
    rw [htext]
    rw [hdigits, List.cons_append] at hvalue ⊢
    rw [value_of_simple fuel levels (hne '[' rfl) (hne '\x7b' rfl), hvalue]

end Toml

end Logbook
