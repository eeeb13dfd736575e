import Mathlib.Data.List.Infix
import Logbook.Toml.Text

/-!
# Written strings are read

A string of a document is read back as it was, whatever its characters are and in whichever of the
four forms it was written.

* `closing?_body`: the closing quotes are found where the body ends, and nowhere before, as long as
  no more quotes stand in a row than the form allows.
* `basicBody?_basicChars`, `literalBody?_body`: the bodies of the two kinds of strings.
* `string?_stringChars`: the form that the printer takes for a string is one that can hold it.
-/

set_option autoImplicit false

namespace Logbook

namespace Toml

/-! ## Runs of quotes -/

/-- How many quotes may stand in a row inside a string. -/
def freeQuotes (multi : Bool) : Nat := if multi then 2 else 0

/-- The quotes behind a string. -/
def closingQuotes (quote : Char) (multi : Bool) : List Char :=
  if multi then [quote, quote, quote] else [quote]

/-- How often a text begins with a character. -/
def leadingRun (x : Char) (cs : List Char) : Nat := (cs.takeWhile (· == x)).length

theorem leadingRun_cons_self (x : Char) (cs : List Char) :
    leadingRun x (x :: cs) = leadingRun x cs + 1 := by
  simp [leadingRun]

theorem leadingRun_cons_of_ne {x c : Char} (h : c ≠ x) (cs : List Char) :
    leadingRun x (c :: cs) = 0 := by
  simp [leadingRun, h]

/-- A text is a run of a character, and then nothing or another character. -/
theorem eq_leadingRun_append (x : Char) (cs : List Char) :
    cs = List.replicate (leadingRun x cs) x ∨
      ∃ c rest, c ≠ x ∧ cs = List.replicate (leadingRun x cs) x ++ c :: rest := by
  induction cs with
  | nil => exact .inl rfl
  | cons c cs ih =>
    by_cases hc : c = x
    · subst hc
      rw [leadingRun_cons_self, List.replicate_succ]
      rcases ih with h | ⟨d, rest, hd, h⟩
      · exact .inl (congrArg _ h)
      · exact .inr ⟨d, rest, hd, congrArg _ h⟩
    · rw [leadingRun_cons_of_ne hc]
      exact .inr ⟨c, cs, hc, rfl⟩

/-- The longest run so far, and how long the run is that is still open. -/
def runStep (x : Char) (state : Nat × Nat) (c : Char) : Nat × Nat :=
  let run := if c = x then state.2 + 1 else 0
  (max state.1 run, run)

/-- From any place on, what was longest stays so, and the open run goes on where the text does. -/
theorem le_foldl_runStep (x : Char) (cs : List Char) {best run : Nat} (hrun : run ≤ best) :
    best ≤ (cs.foldl (runStep x) (best, run)).1 ∧
      run + leadingRun x cs ≤ (cs.foldl (runStep x) (best, run)).1 ∧
        ∀ ending, ending <:+ cs → leadingRun x ending ≤ (cs.foldl (runStep x) (best, run)).1 := by
  induction cs generalizing best run with
  | nil =>
    refine ⟨Nat.le_refl best, hrun, fun ending hending => ?_⟩
    rw [List.suffix_nil.1 hending]
    exact Nat.zero_le best
  | cons c cs ih =>
    obtain ⟨hbest, hopen, hending⟩ := ih (Nat.le_max_right best (if c = x then run + 1 else 0))
    have hbest := Nat.le_trans (Nat.le_max_left _ _) hbest
    have hlead : run + leadingRun x (c :: cs) ≤ ((c :: cs).foldl (runStep x) (best, run)).1 := by
      by_cases hc : c = x
      · refine Nat.le_trans ?_ hopen
        rw [if_pos hc, hc, leadingRun_cons_self]
        omega
      · rw [leadingRun_cons_of_ne hc]
        exact Nat.le_trans hrun hbest
    refine ⟨hbest, hlead, fun ending h => ?_⟩
    rcases List.suffix_cons_iff.1 h with rfl | h
    · exact Nat.le_trans (Nat.le_add_left _ _) hlead
    · exact hending ending h

/-- A text ends nowhere with a longer run in front than its longest one. -/
theorem leadingRun_le_longestRun {x : Char} {cs ending : List Char} (h : ending <:+ cs) :
    leadingRun x ending ≤ longestRun x cs :=
  (le_foldl_runStep x cs (Nat.le_refl 0)).2.2 ending h

/-- A text without a character has no run of it. -/
theorem leadingRun_of_not_mem {x : Char} {cs : List Char} (h : x ∉ cs) : leadingRun x cs = 0 := by
  cases cs with
  | nil => rfl
  | cons c cs => exact leadingRun_cons_of_ne (List.ne_of_not_mem_cons h).symm cs

/-! ## Closing quotes -/

section
variable {quote : Char} {multi : Bool} {rest : List Char}

theorem closing?_replicate {n : Nat} (hn : n ≤ freeQuotes multi) (hrest : rest.head? ≠ some quote) :
    closing? quote multi (List.replicate n quote ++ closingQuotes quote multi ++ rest) =
      some (List.replicate n quote, rest) := by
  cases multi with
  | false =>
    obtain rfl : n = 0 := Nat.le_zero.1 hn
    simp [closing?, closingQuotes]
  | true =>
    match n, hn with
    | 0, _ => rcases rest with _ | ⟨d, _ | ⟨e, rest⟩⟩ <;> simp_all [closing?, closingQuotes]
    | 1, _ => rcases rest with _ | ⟨d, rest⟩ <;> simp_all [closing?, closingQuotes]
    | 2, _ => simp [closing?, closingQuotes, List.replicate]

theorem closing?_replicate_of_ne {n : Nat} {c : Char} (hn : n ≤ freeQuotes multi) (hc : c ≠ quote) :
    closing? quote multi (List.replicate n quote ++ c :: rest) = none := by
  cases multi with
  | false =>
    obtain rfl : n = 0 := Nat.le_zero.1 hn
    cases rest <;> simp [closing?, hc]
  | true =>
    match n, hn with
    | 0, _ => cases rest <;> simp [closing?, hc]
    | 1, _ => cases rest <;> simp [closing?, hc]
    | 2, _ => cases rest <;> simp [closing?, hc, List.replicate]

theorem closing?_of_ne {c : Char} (hc : c ≠ quote) : closing? quote multi (c :: rest) = none :=
  closing?_replicate_of_ne (Nat.zero_le _) hc

/-- In front of the closing quotes, what is left of the body ends the string exactly if it consists
of quotes. -/
theorem closing?_body {body : List Char} (hbody : leadingRun quote body ≤ freeQuotes multi)
    (hrest : rest.head? ≠ some quote) :
    (∀ c ∈ body, c = quote) ∧
        closing? quote multi (body ++ closingQuotes quote multi ++ rest) = some (body, rest) ∨
      body ≠ [] ∧ closing? quote multi (body ++ closingQuotes quote multi ++ rest) = none := by
  rcases eq_leadingRun_append quote body with h | ⟨c, tail, hc, h⟩
  · refine .inl ⟨fun c hc => ?_, ?_⟩
    · rw [h] at hc
      exact List.eq_of_mem_replicate hc
    · have hclosing := closing?_replicate hbody hrest
      rwa [← h] at hclosing
  · refine .inr ⟨fun hnil => ?_, ?_⟩
    · rw [hnil] at h
      simp at h
    · rw [h, List.append_assoc, List.append_assoc]
      exact closing?_replicate_of_ne hbody hc

end

/-! ## Literal strings -/

/-- A character that may stand in a literal string. -/
def isLiteral (multi : Bool) (c : Char) : Bool := c == '\n' && multi || !isControl c

theorem cases_isLiteral {multi : Bool} {c : Char} (h : isLiteral multi c) :
    c = '\n' ∧ multi = true ∨ c ≠ '\n' ∧ c ≠ '\r' ∧ isControl c = false := by
  by_cases hbreak : c = '\n'
  · subst hbreak
    exact .inl ⟨rfl, by simpa [isLiteral, isControl] using h⟩
  · have hcontrol : isControl c = false := by simpa [isLiteral, hbreak] using h
    refine .inr ⟨hbreak, ?_, hcontrol⟩
    rintro rfl
    cases hcontrol

section
variable {multi : Bool} {c : Char} {cs rest : List Char} {found : List Char × List Char}

theorem literalBody?_of_closing (h : closing? literalQuote multi cs = some found) :
    literalBody? multi cs = some found := by
  cases cs with
  | nil => cases h
  | cons c cs => rw [literalBody?, h]

theorem literalBody?_cons (h : closing? literalQuote multi (c :: cs) = none)
    (hc : isLiteral multi c) :
    literalBody? multi (c :: cs) = consRead c (literalBody? multi cs) := by
  rw [literalBody?, h]
  rcases cases_isLiteral hc with ⟨rfl, hmulti⟩ | ⟨hbreak, hreturn, hcontrol⟩
  · simp [hmulti]
  · simp [hbreak, hreturn, hcontrol]

/-- A literal string is read to its closing quotes. -/
theorem literalBody?_body {body : List Char} (hchars : ∀ c ∈ body, isLiteral multi c)
    (hruns : ∀ ending, ending <:+ body → leadingRun literalQuote ending ≤ freeQuotes multi)
    (hrest : rest.head? ≠ some literalQuote) :
    literalBody? multi (body ++ closingQuotes literalQuote multi ++ rest) = some (body, rest) := by
  induction body with
  | nil => exact literalBody?_of_closing (closing?_replicate (Nat.zero_le _) hrest)
  | cons c body ih =>
    rcases closing?_body (hruns _ List.suffix_rfl) hrest with ⟨-, h⟩ | ⟨-, h⟩
    · exact literalBody?_of_closing h
    · have ih := ih (fun d hd => hchars d (List.mem_cons_of_mem c hd))
        fun ending h => hruns ending (h.trans (List.suffix_cons c body))
      rw [List.cons_append, List.cons_append] at h ⊢
      rw [literalBody?_cons h (hchars c List.mem_cons_self), ih]
      rfl

end

/-! ## Basic strings -/

theorem hexDigitValue?_hexDigitUpper :
    ∀ d < 16, hexDigitValue? (hexDigitUpper d) = some d := by decide

theorem charOfCode?_toNat (c : Char) : charOfCode? c.toNat = some c := by
  have hvalid : c.toNat.isValidChar := c.valid
  rw [charOfCode?, dif_pos hvalid]
  rfl

section
variable {multi : Bool} {c : Char} {cs rest : List Char} {found : List Char × List Char}

theorem basicBody?_of_closing (h : closing? basicQuote multi cs = some found) :
    basicBody? multi .plain cs = some found := by
  cases cs with
  | nil => cases h
  | cons c cs => rw [basicBody?, h]

/-- A character without an escape stands for itself. -/
theorem basicBody?_cons (h : closing? basicQuote multi (c :: cs) = none) (hc : isLiteral multi c)
    (hescape : c ≠ '\x5c') :
    basicBody? multi .plain (c :: cs) = consRead c (basicBody? multi .plain cs) := by
  rw [basicBody?, h]
  rcases cases_isLiteral hc with ⟨rfl, hmulti⟩ | ⟨hbreak, hreturn, hcontrol⟩
  · simp [hmulti]
  · simp [hescape, hbreak, hreturn, hcontrol]

theorem basicBody?_backslash :
    basicBody? multi .plain ('\x5c' :: cs) = basicBody? multi .escape cs := by
  rw [basicBody?, closing?_of_ne (by decide)]
  rfl

/-- A backslash and a letter stand for another character. -/
theorem basicBody?_escaped {d : Char} (h : escaped? c = some d) :
    basicBody? multi .plain ('\x5c' :: c :: cs) = consRead d (basicBody? multi .plain cs) := by
  have hu : c ≠ 'u' := by
    rintro rfl
    cases h
  have hU : c ≠ 'U' := by
    rintro rfl
    cases h
  rw [basicBody?_backslash, basicBody?, if_neg hu, if_neg hU, h]

/-- Four digits stand for the character whose number they write. -/
theorem basicBody?_code (h : c.toNat < 256) :
    basicBody? multi .plain
        (['\x5c', 'u', '0', '0', hexDigitUpper (c.toNat / 16), hexDigitUpper (c.toNat % 16)] ++
          cs) = consRead c (basicBody? multi .plain cs) := by
  have hhigh := hexDigitValue?_hexDigitUpper (c.toNat / 16) (by omega)
  have hlow := hexDigitValue?_hexDigitUpper (c.toNat % 16) (by omega)
  have hzero : hexDigitValue? '0' = some 0 := rfl
  have hcode : 16 * (c.toNat / 16) + c.toNat % 16 = c.toNat := Nat.div_add_mod _ _
  simp only [List.cons_append, List.nil_append, basicBody?_backslash]
  simp [basicBody?, hzero, hhigh, hlow, hcode, charOfCode?_toNat]

/-- The ways in which a character is written inside a basic string. -/
inductive IsWritten (multi : Bool) (c : Char) : List Char → Prop where
  | plain (hliteral : isLiteral multi c) (hescape : c ≠ '\x5c') : IsWritten multi c [c]
  | escaped (letter : Char) (h : escaped? letter = some c) : IsWritten multi c ['\x5c', letter]
  | code (h : c.toNat < 256) : IsWritten multi c
      ['\x5c', 'u', '0', '0', hexDigitUpper (c.toNat / 16), hexDigitUpper (c.toNat % 16)]

theorem basicChars_cons (multi : Bool) (run : Nat) (c : Char) (cs : List Char) :
    basicChars multi run (c :: cs) = basicChar multi (freeQuotes multi) run c ++
      basicChars multi (if c = basicQuote ∧ run < freeQuotes multi then run + 1 else 0) cs := rfl

theorem basicChar_quote (multi : Bool) (free run : Nat) :
    basicChar multi free run basicQuote =
      if run < free then [basicQuote] else ['\x5c', basicQuote] := rfl

theorem isWritten_basicChar (multi : Bool) (free run : Nat) (c : Char) :
    IsWritten multi c (basicChar multi free run c) := by
  unfold basicChar
  split
  · rename_i hc
    subst hc
    split
    · exact .plain rfl (by decide)
    · exact .escaped _ rfl
  split
  · rename_i hc
    exact .escaped _ (congrArg some hc.symm)
  split
  · rename_i hc
    exact .escaped _ (congrArg some hc.symm)
  split
  · rename_i hc
    subst hc
    split
    · rename_i hmulti
      exact .plain (by simp [isLiteral, hmulti]) (by decide)
    · exact .escaped _ rfl
  split
  · rename_i hc
    exact .escaped _ (congrArg some hc.symm)
  split
  · rename_i hc
    exact .escaped _ (congrArg some hc.symm)
  split
  · rename_i hc
    subst hc
    exact .escaped _ rfl
  rename_i hescape
  split
  · rename_i hcontrol
    refine .code ?_
    simp only [isControl, Bool.or_eq_true, Bool.and_eq_true, decide_eq_true_eq, beq_iff_eq]
      at hcontrol
    omega
  · rename_i hcontrol
    exact .plain (by simp [isLiteral, hcontrol]) hescape

/-- Behind what is written for a character, the reader has read that character. -/
theorem IsWritten.basicBody? {text : List Char} (hc : IsWritten multi c text)
    (h : closing? basicQuote multi (text ++ cs) = none) :
    basicBody? multi .plain (text ++ cs) = consRead c (basicBody? multi .plain cs) := by
  cases hc with
  | plain hliteral hescape => exact basicBody?_cons h hliteral hescape
  | escaped letter hletter => exact basicBody?_escaped hletter
  | code hsmall => exact basicBody?_code hsmall

theorem IsWritten.leadingRun {text : List Char} (hc : IsWritten multi c text)
    (hquote : c ≠ basicQuote) : leadingRun basicQuote (text ++ cs) = 0 := by
  cases hc with
  | plain => exact leadingRun_cons_of_ne hquote cs
  | escaped => exact leadingRun_cons_of_ne (by decide) _
  | code => exact leadingRun_cons_of_ne (by decide) _

theorem IsWritten.eq_of_quotes {text : List Char} (hc : IsWritten multi c text)
    (h : ∀ d ∈ text, d = basicQuote) : text = [c] := by
  cases hc with
  | plain => rfl
  | escaped => cases h _ List.mem_cons_self
  | code => cases h _ List.mem_cons_self

theorem IsWritten.head? {text : List Char} (hc : IsWritten multi c text) :
    (text ++ cs).head? ≠ some '\r' ∧ ((text ++ cs).head? = some '\n' → c = '\n') := by
  cases hc with
  | plain hliteral hescape =>
    refine ⟨fun h => ?_, Option.some.inj⟩
    rcases cases_isLiteral hliteral with ⟨rfl, -⟩ | ⟨-, hreturn, -⟩
    · cases h
    · exact hreturn (Option.some.inj h)
  | escaped => exact ⟨nofun, nofun⟩
  | code => exact ⟨nofun, nofun⟩

/-- No more quotes are written in a row than may stand there. -/
theorem leadingRun_basicChars (multi : Bool) (run : Nat) (cs : List Char) :
    leadingRun basicQuote (basicChars multi run cs) ≤ freeQuotes multi - run := by
  induction cs generalizing run with
  | nil => exact Nat.zero_le _
  | cons c cs ih =>
    rw [basicChars_cons]
    by_cases hquote : c = basicQuote
    · subst hquote
      rw [basicChar_quote]
      by_cases hrun : run < freeQuotes multi
      · have ih := ih (run + 1)
        rw [if_pos hrun, if_pos ⟨rfl, hrun⟩, List.singleton_append, leadingRun_cons_self]
        omega
      · rw [if_neg hrun, List.cons_append, leadingRun_cons_of_ne (by decide)]
        exact Nat.zero_le _
    · rw [(isWritten_basicChar ..).leadingRun hquote]
      exact Nat.zero_le _

/-- A body that consists of quotes is the string itself. -/
theorem basicChars_eq_self {run : Nat} {cs : List Char}
    (h : ∀ d ∈ basicChars multi run cs, d = basicQuote) : basicChars multi run cs = cs := by
  induction cs generalizing run with
  | nil => rfl
  | cons c cs ih =>
    rw [basicChars_cons] at h ⊢
    rw [ih fun d hd => h d (List.mem_append_right _ hd),
      (isWritten_basicChar ..).eq_of_quotes fun d hd => h d (List.mem_append_left _ hd)]
    rfl

/-- A basic string is read to its closing quotes. -/
theorem basicBody?_basicChars (multi : Bool) (run : Nat) (cs : List Char)
    (hrest : rest.head? ≠ some basicQuote) :
    basicBody? multi .plain (basicChars multi run cs ++ closingQuotes basicQuote multi ++ rest) =
      some (cs, rest) := by
  induction cs generalizing run with
  | nil => exact basicBody?_of_closing (closing?_replicate (Nat.zero_le _) hrest)
  | cons c cs ih =>
    have hrun := leadingRun_basicChars multi run (c :: cs)
    rcases closing?_body (hrun.trans (Nat.sub_le _ _)) hrest with ⟨hquotes, h⟩ | ⟨-, h⟩
    · rw [basicChars_eq_self hquotes] at h ⊢
      exact basicBody?_of_closing h
    · rw [basicChars_cons, List.append_assoc, List.append_assoc] at h ⊢
      rw [(isWritten_basicChar ..).basicBody? h, ← List.append_assoc, ih]
      rfl

end

/-! ## Strings of any form -/

section
variable {cs text body rest : List Char} {quote : Char}

theorem afterTriple?_triple (quote : Char) (cs : List Char) :
    afterTriple? quote (closingQuotes quote true ++ cs) = some cs := by
  simp [afterTriple?, closingQuotes]

theorem afterTriple?_eq_none (h : leadingRun quote cs < 3) : afterTriple? quote cs = none := by
  unfold afterTriple?
  split
  · rename_i a b c rest
    refine if_neg ?_
    rintro ⟨rfl, rfl, rfl⟩
    simp only [leadingRun_cons_self] at h
    omega
  · rfl

/-- A string of one line does not begin with three quotes. -/
theorem leadingRun_line_lt (hbody : leadingRun quote body = 0) (hrest : rest.head? ≠ some quote) :
    leadingRun quote (quote :: (body ++ closingQuotes quote false ++ rest)) < 3 := by
  rw [leadingRun_cons_self]
  cases body with
  | nil =>
    have hrest : leadingRun quote rest = 0 := by
      cases rest with
      | nil => rfl
      | cons c rest =>
        refine leadingRun_cons_of_ne ?_ rest
        rintro rfl
        exact hrest rfl
    show leadingRun quote (quote :: rest) + 1 < 3
    rw [leadingRun_cons_self, hrest]
    omega
  | cons c body =>
    have hc : c ≠ quote := by
      rintro rfl
      rw [leadingRun_cons_self] at hbody
      cases hbody
    rw [List.cons_append, List.cons_append, leadingRun_cons_of_ne hc]
    omega

/-- The line break in front of a body that has one is all that is dropped. -/
theorem dropBreak_start {broken : Bool} (hreturn : text.head? ≠ some '\r')
    (hbreak : text.head? = some '\n' → broken = true) :
    dropBreak ((if broken then ['\n'] else []) ++ text) = text := by
  cases broken with
  | true => rfl
  | false =>
    show dropBreak text = text
    unfold dropBreak
    split
    · cases hbreak rfl
    · exact absurd rfl hreturn
    · rfl

theorem string?_basic_triple (text : List Char) :
    string? (closingQuotes basicQuote true ++ text) = basicBody? true .plain (dropBreak text) := by
  rw [string?, afterTriple?_triple]

theorem string?_basic_line (h : leadingRun basicQuote (basicQuote :: text) < 3) :
    string? (basicQuote :: text) = basicBody? false .plain text := by
  have hliteral : leadingRun literalQuote (basicQuote :: text) < 3 := by
    rw [leadingRun_cons_of_ne (by decide)]
    decide
  rw [string?, afterTriple?_eq_none h, afterTriple?_eq_none hliteral]
  rfl

theorem string?_literal_triple (text : List Char) :
    string? (closingQuotes literalQuote true ++ text) = literalBody? true (dropBreak text) := by
  have hbasic : leadingRun basicQuote (closingQuotes literalQuote true ++ text) < 3 := by
    rw [closingQuotes, if_pos rfl, List.cons_append, leadingRun_cons_of_ne (by decide)]
    decide
  rw [string?, afterTriple?_eq_none hbasic, afterTriple?_triple]

theorem string?_literal_line (h : leadingRun literalQuote (literalQuote :: text) < 3) :
    string? (literalQuote :: text) = literalBody? false text := by
  have hbasic : leadingRun basicQuote (literalQuote :: text) < 3 := by
    rw [leadingRun_cons_of_ne (by decide)]
    decide
  rw [string?, afterTriple?_eq_none hbasic, afterTriple?_eq_none h]
  rfl

/-- Any string can be written as a basic one, over several lines or not. -/
theorem string?_basicString (multi : Bool) (cs : List Char)
    (hrest : rest.head? ≠ some basicQuote) :
    string? (basicString multi cs ++ rest) = some (cs, rest) := by
  have hbody := basicBody?_basicChars multi 0 cs hrest
  cases multi with
  | true =>
    have hdrop : dropBreak ((if cs.contains '\n' then ['\n'] else []) ++
        (basicChars true 0 cs ++ closingQuotes basicQuote true ++ rest)) =
          basicChars true 0 cs ++ closingQuotes basicQuote true ++ rest := by
      cases cs with
      | nil => rfl
      | cons c cs =>
        rw [basicChars_cons, List.append_assoc, List.append_assoc]
        obtain ⟨hreturn, hbreak⟩ := (isWritten_basicChar ..).head?
        refine dropBreak_start hreturn fun h => ?_
        rw [hbreak h]
        exact List.elem_cons_self
    have htext : basicString true cs ++ rest = closingQuotes basicQuote true ++
        ((if cs.contains '\n' then ['\n'] else []) ++
          (basicChars true 0 cs ++ closingQuotes basicQuote true ++ rest)) := by
      simp [basicString, closingQuotes, List.replicate]
    rw [htext, string?_basic_triple, hdrop, hbody]
  | false =>
    have hrun : leadingRun basicQuote (basicChars false 0 cs) = 0 :=
      Nat.le_zero.1 (leadingRun_basicChars false 0 cs)
    have htext : basicString false cs ++ rest =
        basicQuote :: (basicChars false 0 cs ++ closingQuotes basicQuote false ++ rest) := by
      simp [basicString, closingQuotes]
    rw [htext, string?_basic_line (leadingRun_line_lt hrun hrest), hbody]

/-- A literal string holds what it can. -/
theorem string?_literalString {multi : Bool} (hchars : ∀ c ∈ cs, isLiteral multi c)
    (hruns : ∀ ending, ending <:+ cs → leadingRun literalQuote ending ≤ freeQuotes multi)
    (hrest : rest.head? ≠ some literalQuote) :
    string? (literalString multi cs ++ rest) = some (cs, rest) := by
  have hbody := literalBody?_body hchars hruns hrest
  cases multi with
  | true =>
    have hdrop : dropBreak ((if cs.contains '\n' then ['\n'] else []) ++
        (cs ++ closingQuotes literalQuote true ++ rest)) =
          cs ++ closingQuotes literalQuote true ++ rest := by
      cases cs with
      | nil => rfl
      | cons c cs =>
        refine dropBreak_start (fun h => ?_) fun h => ?_
        · rcases cases_isLiteral (hchars c List.mem_cons_self) with ⟨rfl, -⟩ | ⟨-, hreturn, -⟩
          · cases h
          · exact hreturn (Option.some.inj h)
        · rw [Option.some.inj h]
          exact List.elem_cons_self
    have htext : literalString true cs ++ rest = closingQuotes literalQuote true ++
        ((if cs.contains '\n' then ['\n'] else []) ++
          (cs ++ closingQuotes literalQuote true ++ rest)) := by
      simp [literalString, closingQuotes, List.replicate]
    rw [htext, string?_literal_triple, hdrop, hbody]
  | false =>
    have hrun : leadingRun literalQuote cs = 0 := Nat.le_zero.1 (hruns cs List.suffix_rfl)
    have htext : literalString false cs ++ rest =
        literalQuote :: (cs ++ closingQuotes literalQuote false ++ rest) := by
      simp [literalString, closingQuotes]
    rw [htext, string?_literal_line (leadingRun_line_lt hrun hrest), hbody]

/-- A character that no escape is needed for stands in a literal string, a line break in one of
several lines. -/
theorem isLiteral_of_needsEscape {multi : Bool} {c : Char} (h : needsEscape c = false)
    (hbreak : c = '\n' → multi = true) : isLiteral multi c := by
  by_cases hc : c = '\n'
  · simp [isLiteral, hc, hbreak hc]
  · have hcontrol : isControl c = false := by simpa [needsEscape, hc] using h
    simp [isLiteral, hcontrol]

/-- A string is written in a form in which it is read back, whatever follows that is no quote. -/
theorem string?_stringChars (cs : List Char) (hbasic : rest.head? ≠ some basicQuote)
    (hliteral : rest.head? ≠ some literalQuote) :
    string? (stringChars cs ++ rest) = some (cs, rest) := by
  unfold stringChars
  dsimp only
  split
  · exact string?_basicString false cs hbasic
  split
  · rename_i h
    obtain ⟨⟨hescape, hbreak⟩, hquote⟩ :
        ((∀ c ∈ cs, needsEscape c = false) ∧ '\n' ∉ cs) ∧ literalQuote ∉ cs := by simpa using h
    refine string?_literalString (fun c hc => ?_) (fun ending hending => ?_) hliteral
    · refine isLiteral_of_needsEscape (hescape c hc) ?_
      rintro rfl
      exact absurd hc hbreak
    · rw [leadingRun_of_not_mem fun hmem => hquote (hending.subset hmem)]
      exact Nat.zero_le _
  split
  · exact string?_basicString true cs hbasic
  split
  · rename_i h
    obtain ⟨hescape, hrun⟩ :
        (∀ c ∈ cs, needsEscape c = false) ∧ longestRun literalQuote cs ≤ 2 := by simpa using h
    refine string?_literalString (fun c hc => ?_) (fun ending hending => ?_) hliteral
    · exact isLiteral_of_needsEscape (hescape c hc) fun _ => rfl
    · exact (leadingRun_le_longestRun hending).trans hrun
  · exact string?_basicString _ cs hbasic

end

end Toml

end Logbook
