import Logbook.Proofs.Calendar.DateText
import Logbook.Proofs.Partition.Coverage
import Logbook.Proofs.Url.Reference

/-!
# Partitions in references

The names of partitions begin with a label that anybody may choose, and a URL is asked for them by a
reference that begins with it. What such a reference is read as depends on the label alone: it is
plain just where the label is (`Url.isPlain_of_namesIn`, `Url.isPlainLabel_of_isPlain`), however
many partitions are named and whatever follows them in the path.
-/

set_option autoImplicit false

namespace Logbook

namespace Url

/-- A label that is taken as it is in front of the name of a partition: it does not begin with a
blank or at the root, has no scheme, holds nothing that is passed over or ends a path, and no dots
are followed in front of its last slash. -/
structure IsPlainLabel (label : List Char) : Prop where
  start : ∀ c ∈ label.head?, ' ' < c ∧ c ≠ '/'
  inside : ∀ c ∈ label, isBreak c = false ∧ endsPath c = false ∧ c ≠ '\x5c'
  noScheme : scheme? label = none
  noDots : ∀ segment ∈ (splitBy (isSlash .special) label).dropLast, isDots segment = false

/-- Whether a label is plain. -/
def isPlainLabel (label : List Char) : Bool :=
  (label.head?.all fun c => ' ' < c && c != '/') &&
    (label.all fun c => !isBreak c && !endsPath c && c != '\x5c') &&
    (scheme? label).isNone &&
    (splitBy (isSlash .special) label).dropLast.all fun segment => !isDots segment

theorem isPlainLabel_iff {label : List Char} : isPlainLabel label = true ↔ IsPlainLabel label := by
  simp only [isPlainLabel, Bool.and_eq_true, Option.all_eq_true, List.all_eq_true,
    Option.isNone_iff_eq_none, decide_eq_true_eq, bne_iff_ne, Bool.not_eq_true', and_assoc]
  constructor
  · rintro ⟨hstart, hinside, hnone, hdots⟩
    exact ⟨hstart, hinside, hnone, hdots⟩
  · rintro ⟨hstart, hinside, hnone, hdots⟩
    exact ⟨hstart, hinside, hnone, hdots⟩

instance (label : List Char) : Decidable (IsPlainLabel label) :=
  decidable_of_iff _ isPlainLabel_iff

/-- A character that a path takes as it is wherever it stands. -/
def isHarmless (c : Char) : Bool := ' ' < c && !endsPath c && c != '\x5c' && c != ':'

theorem ne_of_isHarmless {c d : Char} (hc : isHarmless c = true) (hd : isHarmless d = false) :
    c ≠ d := by
  rintro rfl
  rw [hc] at hd
  cases hd

theorem blank_lt_of_isHarmless {c : Char} (h : isHarmless c = true) : ' ' < c := by
  simp only [isHarmless, Bool.and_eq_true, decide_eq_true_eq] at h
  exact h.1.1.1

theorem inside_of_isHarmless {c : Char} (h : isHarmless c = true) :
    isBreak c = false ∧ endsPath c = false ∧ c ≠ '\x5c' := by
  have hne (d : Char) (hd : isHarmless d = false) : c ≠ d := ne_of_isHarmless h hd
  refine ⟨?_, ?_, hne _ (by decide)⟩
  · simp [isBreak, hne '\t' (by decide), hne '\n' (by decide), hne '\r' (by decide)]
  · simp [endsPath, hne '?' (by decide), hne '#' (by decide)]

/-- What may follow the hyphen behind a label. -/
def IsEnding (cs : List Char) : Prop := cs ≠ [] ∧ ∀ c ∈ cs, isHarmless c = true ∧ c ≠ '/'

/-- The characters are names with a label, one or more, with commas between them. -/
inductive NamesIn (label : List Char) : List Char → Prop where
  | last {ending : List Char} (hending : IsEnding ending) :
      NamesIn label (label ++ '-' :: ending)
  | more {ending rest : List Char} (hending : IsEnding ending) (hrest : NamesIn label rest) :
      NamesIn label (label ++ '-' :: (ending ++ ',' :: rest))

theorem isDots_of_hyphen_mem {segment : List Char} (h : '-' ∈ segment) :
    isDots segment = false := by
  have hlower : '-' ∈ segment.map Char.toLower := List.mem_map.2 ⟨'-', h, rfl⟩
  have hnone {texts : List String} (htexts : ∀ text ∈ texts, '-' ∉ text.toList) :
      texts.contains (String.ofList (segment.map Char.toLower)) = false := by
    rw [← Bool.not_eq_true, List.contains_iff_mem]
    intro hmem
    apply htexts _ hmem
    rwa [String.toList_ofList]
  unfold isDots isDoubleDot isSingleDot
  rw [hnone (by decide), hnone (by decide)]
  rfl

section
variable {label cs : List Char}

namespace NamesIn

theorem exists_eq (h : NamesIn label cs) : ∃ rest, cs = label ++ '-' :: rest := by
  cases h with
  | last _ => exact ⟨_, rfl⟩
  | more _ _ => exact ⟨_, rfl⟩

theorem ne_nil (h : NamesIn label cs) : cs ≠ [] := by
  obtain ⟨rest, rfl⟩ := h.exists_eq
  simp

theorem mem_or_isHarmless (h : NamesIn label cs) :
    ∀ c ∈ cs, c ∈ label ∨ isHarmless c = true := by
  induction h with
  | last hending =>
    intro c hc
    rcases List.mem_append.1 hc with hlabel | hrest
    · exact .inl hlabel
    · rcases List.mem_cons.1 hrest with rfl | hend
      · exact .inr (by decide)
      · exact .inr (hending.2 c hend).1
  | more hending _ ih =>
    intro c hc
    rcases List.mem_append.1 hc with hlabel | hrest
    · exact .inl hlabel
    · rcases List.mem_cons.1 hrest with rfl | hrest
      · exact .inr (by decide)
      · rcases List.mem_append.1 hrest with hend | hrest
        · exact .inr (hending.2 c hend).1
        · rcases List.mem_cons.1 hrest with rfl | hrest
          · exact .inr (by decide)
          · exact ih c hrest

theorem getLast?_isHarmless (h : NamesIn label cs) : ∀ c ∈ cs.getLast?, isHarmless c = true := by
  induction h with
  | @last ending hending =>
    intro c hc
    rw [List.getLast?_append_of_ne_nil _ (List.cons_ne_nil _ _),
      List.getLast?_cons_of_ne_nil hending.1] at hc
    exact (hending.2 c (List.mem_of_getLast? hc)).1
  | @more ending rest hending hrest ih =>
    intro c hc
    rw [List.getLast?_append_of_ne_nil _ (List.cons_ne_nil _ _),
      List.getLast?_cons_of_ne_nil (by simp), List.getLast?_append_of_ne_nil _ (by simp),
      List.getLast?_cons_of_ne_nil hrest.ne_nil] at hc
    exact ih c hc

theorem not_isDots (hlabel : ∀ segment ∈ (splitBy (isSlash .special) label).dropLast,
    isDots segment = false) (h : NamesIn label cs) :
    ∀ segment ∈ splitBy (isSlash .special) cs, isDots segment = false := by
  obtain ⟨parts, before, hparts, hboth⟩ :=
    exists_splitBy_append_cons_of_neg (p := isSlash .special) (c := '-') (by decide) label
  rw [hparts, List.dropLast_concat] at hlabel
  have hslash {ending : List Char} (hending : IsEnding ending) :
      ∀ c ∈ ending, isSlash .special c = false := by
    intro c hc
    obtain ⟨hharmless, hne⟩ := hending.2 c hc
    exact isSlash_special_of_ne hne (ne_of_isHarmless hharmless (by decide))
  have hyphen (first : List Char) : isDots (before ++ '-' :: first) = false :=
    isDots_of_hyphen_mem (by simp)
  induction h with
  | last hending =>
    rw [hboth (splitBy_of_forall (hslash hending))]
    exact List.forall_mem_append.2 ⟨hlabel, by simpa using hyphen _⟩
  | @more ending rest hending hrest ih =>
    obtain ⟨first, after, hcut⟩ :=
      List.exists_cons_of_ne_nil (splitBy_ne_nil (isSlash .special) rest)
    have hcomma : splitBy (isSlash .special) (ending ++ ',' :: rest) =
        (ending ++ ',' :: first) :: after :=
      splitBy_append_of_forall (hslash hending) (splitBy_cons_of_neg (by decide) hcut)
    rw [hboth hcomma]
    rw [hcut, List.forall_mem_cons] at ih
    exact List.forall_mem_append.2 ⟨hlabel, List.forall_mem_cons.2 ⟨hyphen _, ih.2⟩⟩

end NamesIn

/-! ## Labels and references -/

/-- The label in front of a plain reference is plain. -/
theorem isPlainLabel_of_isPlain {rest : List Char} (hne : label ≠ [])
    (h : IsPlain (label ++ '-' :: rest)) : IsPlainLabel label := by
  obtain ⟨parts, before, hparts, hboth⟩ :=
    exists_splitBy_append_cons_of_neg (p := isSlash .special) (c := '-') (by decide) label
  refine ⟨?start, ?inside, ?noScheme, ?noDots⟩
  case start =>
    rw [← List.head?_append_of_ne_nil label hne]
    exact h.start
  case inside =>
    intro c hc
    have hmem := List.mem_append_left ('-' :: rest) hc
    exact ⟨(h.inside c hmem).1, h.path.whole c hmem, (h.inside c hmem).2⟩
  case noScheme =>
    by_cases hcolon : ':' ∈ label
    · exact (scheme?_append_eq_none_iff fun _ => hcolon).1 h.noScheme
    · exact scheme?_of_not_mem hcolon
  case noDots =>
    obtain ⟨first, after, hcut⟩ :=
      List.exists_cons_of_ne_nil (splitBy_ne_nil (isSlash .special) rest)
    rw [hparts, List.dropLast_concat]
    have hdots := h.path.noDots
    rw [hboth hcut] at hdots
    exact (List.forall_mem_append.1 hdots).1

/-- **Names with a plain label are a plain reference.** -/
theorem isPlain_of_namesIn (hne : label ≠ []) (hlabel : IsPlainLabel label)
    (h : NamesIn label cs) : IsPlain cs := by
  have hinside : ∀ c ∈ cs, isBreak c = false ∧ endsPath c = false ∧ c ≠ '\x5c' := fun c hc =>
    (h.mem_or_isHarmless c hc).elim (hlabel.inside c) inside_of_isHarmless
  refine ⟨?start, ?ending, ?inside, ?noScheme, ⟨?whole, h.not_isDots hlabel.noDots⟩⟩
  case start =>
    obtain ⟨rest, rfl⟩ := h.exists_eq
    rw [List.head?_append_of_ne_nil label hne]
    exact hlabel.start
  case ending => exact fun c hc => blank_lt_of_isHarmless (h.getLast?_isHarmless c hc)
  case inside => exact fun c hc => ⟨(hinside c hc).1, (hinside c hc).2.2⟩
  case noScheme =>
    have hcolon : ':' ∈ cs → ':' ∈ label := fun hc =>
      (h.mem_or_isHarmless _ hc).resolve_right (by decide)
    obtain ⟨rest, rfl⟩ := h.exists_eq
    exact (scheme?_append_eq_none_iff fun hc => hcolon (List.mem_append_right _ hc)).2
      hlabel.noScheme
  case whole => exact fun c hc => (hinside c hc).2.1

/-- What follows a slash behind a plain reference changes nothing, if it is plain itself. -/
theorem isPlain_append_slash {rest : List Char} (h : IsPlain cs) (hne : cs ≠ [])
    (hharmless : ∀ c ∈ rest, isHarmless c = true)
    (hdots : ∀ segment ∈ splitBy (isSlash .special) rest, isDots segment = false) :
    IsPlain (cs ++ '/' :: rest) := by
  have hall : ∀ c ∈ '/' :: rest, isHarmless c = true :=
    List.forall_mem_cons.2 ⟨by decide, hharmless⟩
  refine ⟨?start, ?ending, ?inside, ?noScheme, ?whole, ?noDots⟩
  case start =>
    rw [List.head?_append_of_ne_nil cs hne]
    exact h.start
  case ending =>
    intro c hc
    rw [List.getLast?_append_of_ne_nil _ (List.cons_ne_nil _ _)] at hc
    exact blank_lt_of_isHarmless (hall c (List.mem_of_getLast? hc))
  case inside =>
    refine List.forall_mem_append.2 ⟨h.inside, fun c hc => ?_⟩
    obtain ⟨hbreak, -, hback⟩ := inside_of_isHarmless (hall c hc)
    exact ⟨hbreak, hback⟩
  case noScheme =>
    refine (scheme?_append_eq_none_iff fun hc => ?_).2 h.noScheme
    exact absurd (hall _ hc) (by decide)
  case whole =>
    refine List.forall_mem_append.2 ⟨h.path.whole, fun c hc => ?_⟩
    exact (inside_of_isHarmless (hall c hc)).2.1
  case noDots =>
    rw [splitBy_append_cons_of_pos (by decide)]
    exact List.forall_mem_append.2 ⟨h.path.noDots, hdots⟩

end

end Url

namespace PartitionScheme

open Url

/-- The name is one that a scheme gives: to the partition of a day, or to all partitions. -/
def IsName (scheme : PartitionScheme) (name : String) : Prop :=
  name = scheme.everyPartition ∨ ∃ day, name = scheme.nameOfDay day

section
variable {scheme : PartitionScheme} {name : String} {names : List String}

theorem isEnding_chars (date : Date) : IsEnding date.chars := by
  refine ⟨by simp [Date.chars], fun c hc => ?_⟩
  rcases Date.isDigit_or_mark_of_mem_chars hc with hdigit | hmark
  · have hne (d : Char) (hd : d.isDigit = false) : c ≠ d := ne_of_isDigit hdigit hd
    have hblank := blank_lt_of_isDigit hdigit
    refine ⟨?_, hne '/' rfl⟩
    simp [isHarmless, endsPath, hblank, hne '?' rfl, hne '#' rfl, hne '\x5c' rfl, hne ':' rfl]
  · simp only [List.mem_cons, List.not_mem_nil, or_false] at hmark
    rcases hmark with rfl | rfl | rfl <;> decide

theorem exists_ending_of_isName (h : scheme.IsName name) :
    ∃ ending, IsEnding ending ∧ name.toList = scheme.label.toList ++ '-' :: ending := by
  rcases h with rfl | ⟨day, rfl⟩
  · refine ⟨['*'], ⟨List.cons_ne_nil _ _, List.forall_mem_singleton.2 (by decide)⟩, ?_⟩
    rw [everyPartition, String.toList_append]
    rfl
  · refine ⟨(Date.ofDay day).chars, isEnding_chars _, ?_⟩
    simp [nameOfDay]

/-- Names of a scheme with commas between them. -/
theorem namesIn_intercalate (hne : names ≠ []) (h : ∀ name ∈ names, scheme.IsName name) :
    NamesIn scheme.label.toList (String.intercalate "," names).toList := by
  rw [String.toList_intercalate]
  induction names with
  | nil => exact absurd rfl hne
  | cons name names ih =>
    rw [List.forall_mem_cons] at h
    obtain ⟨ending, hending, hname⟩ := exists_ending_of_isName h.1
    cases names with
    | nil =>
      have hlast : NamesIn scheme.label.toList name.toList := hname ▸ NamesIn.last hending
      simpa using hlast
    | cons next names =>
      have hmore := NamesIn.more hending (ih (List.cons_ne_nil _ _) h.2)
      rw [List.map_cons, List.map_cons, List.intercalate_cons_cons, hname]
      simpa using hmore

theorem namesIn_of_isName (h : scheme.IsName name) :
    NamesIn scheme.label.toList name.toList := by
  have hone := namesIn_intercalate (List.cons_ne_nil name []) (by simpa using h)
  simpa using hone

theorem isName_of_mem_namesBetween {start stop : Int64}
    (h : name ∈ scheme.namesBetween start stop) : scheme.IsName name := by
  unfold namesBetween at h
  split at h
  · obtain ⟨day, -, rfl⟩ := List.mem_map.1 h
    exact .inr ⟨day, rfl⟩
  · cases h

theorem isName_of_mem_partitionsOf {range : Option TimeRange} {partitions : List String}
    (hpartitions : scheme.partitionsOf range = .ok partitions) (h : name ∈ partitions) :
    scheme.IsName name := by
  cases range with
  | none =>
    rw [← Except.ok.inj hpartitions] at h
    exact .inl (List.mem_singleton.1 h)
  | some range =>
    rw [partitionsOf_some_eq hpartitions] at h
    split at h
    · exact .inl (List.mem_singleton.1 h)
    · exact isName_of_mem_namesBetween h

end

end PartitionScheme

end Logbook
