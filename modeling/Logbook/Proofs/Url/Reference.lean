import Logbook.Proofs.Url.Parts

/-!
# References below a folder

What a text means relative to a URL whose path ends in a slash. A reference is plain when it is put
below that folder as it is (`Url.IsPlain`); then, and only then, the URL that it means is on the
same node, with all its characters behind those of the folder (`Url.join_iff_isPlain`). Whatever
else a reference is read as, it loses characters on the way: blanks at its ends and breaks in it, a
scheme (`Url.length_join_lt_of_scheme`), slashes at the root (`Url.resolve_cases`), a query, a
fragment and dots. Only a backslash is not lost but changed.
-/

set_option autoImplicit false

namespace Logbook

namespace Url

open Percent

/-- The characters are a reference that is put below a folder as it is: nothing in it is passed
over, it has no scheme, it does not begin at the root, and it is a path without backslashes. -/
structure IsPlain (cs : List Char) : Prop where
  start : ∀ c ∈ cs.head?, ' ' < c ∧ c ≠ '/'
  ending : ∀ c ∈ cs.getLast?, ' ' < c
  inside : ∀ c ∈ cs, isBreak c = false ∧ c ≠ '\x5c'
  noScheme : scheme? cs = none
  path : IsPath .special cs

theorem isSlash_special_of_ne {c : Char} (hslash : c ≠ '/') (hback : c ≠ '\x5c') :
    isSlash .special c = false := by
  simp [isSlash, hslash, hback]

/-- Slashes are the same wherever there are no backslashes. -/
theorem encodeChars_map_asSlash_eq_iff (cs : List Char) :
    encodeChars inPath (cs.map (asSlash .special)) = encodeChars inPath cs ↔ '\x5c' ∉ cs := by
  constructor
  · intro h hmem
    have hin : '\x5c' ∈ encodeChars inPath cs :=
      List.mem_flatMap.2 ⟨_, hmem, by decide⟩
    rw [← h] at hin
    obtain ⟨c, -, hc⟩ := List.mem_map.1 (mem_of_mem_encodeChars (by decide) (by decide) hin)
    unfold asSlash at hc
    split at hc
    · exact absurd hc (by decide)
    · subst hc
      contradiction
  · intro h
    have hkept : ∀ c ∈ cs, asSlash .special c = c := by
      intro c hc
      unfold asSlash
      split
      · rename_i hslash
        by_contra hne
        have hback : c ≠ '\x5c' := ne_of_mem_of_not_mem hc h
        rw [isSlash_special_of_ne (Ne.symm hne) hback] at hslash
        cases hslash
      · rfl
    rw [List.map_congr_left hkept, List.map_id']

section
variable {base url : Url} {above : List String} {cs : List Char}
  (hkind : kindOf base.scheme = .special) (hpath : base.path = .segments (above ++ [""]))
include hkind hpath

theorem length_path_withPath_le (cs : List Char) :
    (base.withPath above cs).path.text.toList.length ≤
      base.path.text.toList.length + (encodeChars inPath cs).length := by
  have hle := length_segmentsOf_le special_ne_file above cs
  rw [path_withPath hkind, hpath, toList_text_segments, toList_text_segments]
  simp only [pathChars_append, pathChars_cons, pathChars_nil, List.length_append, List.length_cons,
    String.toList_empty, List.length_nil]
  omega

omit hkind in
theorem length_folder_pos : 0 < base.path.text.toList.length := by
  rw [hpath, toList_text_segments, pathChars_append, List.length_append]
  exact Nat.add_pos_right _ (by decide)

/-- A reference without a scheme that is more than what is put below a folder comes out shorter
than the folder with the characters of the reference. -/
theorem resolve_cases (h : resolve base (above ++ [""]) cs = .ok url) :
    url.path.text.toList.length < base.path.text.toList.length + (encodeChars inPath cs).length ∨
      (cs = [] ∧ url.path = base.path) ∨
      ∃ a rest, cs = a :: rest ∧ isSlash .special a = false ∧ url = base.withPath above cs := by
  have hpos := length_folder_pos hpath
  unfold resolve at h
  rw [hkind] at h
  dsimp only at h
  split at h
  · cases h
    exact .inr (.inl ⟨rfl, rfl⟩)
  case h_2 | h_3 =>
    cases h
    exact .inl (Nat.lt_add_of_pos_right (length_encodeChars_pos _ (List.cons_ne_nil _ _)))
  · rename_i a rest _ _
    split at h
    · -- the folder is lost, and what is left of the slashes is no longer than they are
      rename_i hslash
      have ha := length_encodeChar_pos inPath a
      left
      rw [encodeChars_cons, List.length_append]
      split at h
      · have hle := length_path_of_ofAuthority_le hkind h
        rw [List.dropWhile_cons_of_pos hslash] at hle
        have hshort := length_encodeChars_le_of_sublist inPath
          (List.dropWhile_sublist (isSlash .special) (l := rest))
        omega
      · cases h
        have hle := length_segmentsOf_le special_ne_file [] rest
        rw [path_withPath hkind, toList_text_segments]
        rw [pathChars_nil, List.length_nil] at hle
        omega
    · rename_i hslash
      cases h
      rw [List.dropLast_concat]
      exact .inr (.inr ⟨a, rest, rfl, by simpa using hslash, rfl⟩)

theorem length_resolve_le (h : resolve base (above ++ [""]) cs = .ok url) :
    url.path.text.toList.length ≤
      base.path.text.toList.length + (encodeChars inPath cs).length := by
  rcases resolve_cases hkind hpath h with hlt | ⟨-, hsame⟩ | ⟨-, -, -, -, rfl⟩
  · exact hlt.le
  · rw [hsame]
    exact Nat.le_add_right _ _
  · exact length_path_withPath_le hkind hpath cs

/-- The reference from which nothing is lost is one that is put below the folder. -/
theorem resolve_of_length_le (hcs : cs ≠ []) (h : resolve base (above ++ [""]) cs = .ok url)
    (hlength : base.path.text.toList.length + (encodeChars inPath cs).length ≤
      url.path.text.toList.length) :
    (∀ c ∈ cs.head?, isSlash .special c = false) ∧ IsPath .special cs ∧
      url = base.withPath above cs := by
  rcases resolve_cases hkind hpath h with hlt | ⟨hnil, -⟩ | ⟨a, rest, rfl, ha, rfl⟩
  · omega
  · exact absurd hnil hcs
  · refine ⟨by simpa using ha, isPath_of_length_le special_ne_file above ?_, rfl⟩
    rw [path_withPath hkind, hpath, toList_text_segments, toList_text_segments] at hlength
    simpa [Nat.add_right_comm] using hlength

/-- A reference with a scheme is shorter without it. -/
theorem length_join_lt_of_scheme {reference : String} {scheme : String} {rest : List Char}
    (hscheme : scheme? (significant reference) = some (scheme, rest))
    (h : join base reference = .ok url) (hsame : url.scheme = base.scheme) :
    url.path.text.toList.length < base.path.text.toList.length +
      (encodeChars inPath (significant reference)).length := by
  have hpos := length_folder_pos hpath
  obtain ⟨tag, htag⟩ := scheme?_eq_some hscheme
  have hshort : (encodeChars inPath rest).length + 1 ≤
      (encodeChars inPath (significant reference)).length := by
    have hcolon := length_encodeChars_le_of_sublist inPath
      (List.sublist_append_right tag (':' :: rest))
    rw [← htag, encodeChars_cons, List.length_append] at hcolon
    have hone := length_encodeChar_pos inPath ':'
    omega
  unfold join at h
  simp only [hscheme, hpath] at h
  split at h
  · have hle := length_resolve_le hkind hpath h
    omega
  · have hbase : scheme = base.scheme := by rw [← scheme_of_ofRest h, hsame]
    rw [hbase, ofRest, hkind] at h
    have hle := length_path_of_ofAuthority_le hkind h
    have hdrop := length_encodeChars_le_of_sublist inPath
      (List.dropWhile_sublist (isSlash .special) (l := rest))
    omega

omit hpath in
theorem resolve_cons_of_not_isSlash {a : Char} {rest : List Char}
    (hslash : isSlash .special a = false) (hends : endsPath a = false) :
    resolve base (above ++ [""]) (a :: rest) = .ok (base.withPath above (a :: rest)) := by
  unfold resolve
  rw [hkind]
  dsimp only
  split
  · rename_i heq
    cases heq
  · rename_i heq
    cases heq
    exact absurd hends (by decide)
  · rename_i heq
    cases heq
    exact absurd hends (by decide)
  · rename_i heq
    cases heq
    rw [hslash, List.dropLast_concat]
    rfl

theorem join_of_isPlain {reference : String} (hne : reference.toList ≠ [])
    (h : IsPlain reference.toList) :
    join base reference = .ok (base.withPath above reference.toList) := by
  obtain ⟨a, rest, hcs⟩ := List.exists_cons_of_ne_nil hne
  have hmem : a ∈ reference.toList := hcs ▸ List.mem_cons_self
  have hslash := isSlash_special_of_ne (h.start a (hcs ▸ rfl)).2 (h.inside a hmem).2
  have hsignificant := significant_eq_toList_iff.2
    ⟨fun c hc => (h.start c hc).1, h.ending, fun c hc => (h.inside c hc).1⟩
  unfold join
  simp only [hsignificant, h.noScheme, hpath]
  rw [hcs, resolve_cons_of_not_isSlash hkind hslash (h.path.whole a hmem)]

/-- The path of what is put below a folder. -/
theorem toList_path_withPath (hcs : IsPath .special cs) :
    (base.withPath above cs).path.text.toList =
      base.path.text.toList ++ encodeChars inPath (cs.map (asSlash .special)) := by
  rw [path_withPath hkind, hpath, toList_text_segments, toList_text_segments,
    pathChars_segmentsOf special_ne_file above hcs]
  simp

/-- **A reference means what is below a folder, with all characters of the reference in its path,
just where it is put there as it is.** -/
theorem join_iff_isPlain {reference : String} (hne : reference.toList ≠ []) :
    (∃ url, join base reference = .ok url ∧ url.scheme = base.scheme ∧
      url.host = base.host ∧ url.port = base.port ∧
      url.path.text.toList = base.path.text.toList ++ encodeChars inPath reference.toList) ↔
      IsPlain reference.toList := by
  constructor
  · rintro ⟨url, hjoin, hscheme, -, -, htext⟩
    have hlength := congrArg List.length htext
    rw [List.length_append] at hlength
    have hsub := significant_sublist reference
    have hshort := length_encodeChars_le_of_sublist inPath hsub
    cases hwritten : scheme? (significant reference) with
    | some parts =>
      have hlt := length_join_lt_of_scheme hkind hpath hwritten hjoin hscheme
      omega
    | none =>
      have hresolve := hjoin
      unfold join at hresolve
      simp only [hwritten, hpath] at hresolve
      have hle := length_resolve_le hkind hpath hresolve
      have hsame : significant reference = reference.toList :=
        eq_of_sublist_of_length_le inPath hsub (by omega)
      rw [hsame] at hresolve hwritten
      obtain ⟨hstart, hcs, rfl⟩ := resolve_of_length_le hkind hpath hne hresolve hlength.ge
      rw [toList_path_withPath hkind hpath hcs, List.append_cancel_left_eq] at htext
      obtain ⟨hfirst, hlast, hbreaks⟩ := significant_eq_toList_iff.1 hsame
      refine ⟨fun c hc => ⟨hfirst c hc, ?_⟩, hlast, fun c hc => ⟨hbreaks c hc, ?_⟩, hwritten, hcs⟩
      · rintro rfl
        exact absurd (hstart _ hc) (by decide)
      · exact ne_of_mem_of_not_mem hc ((encodeChars_map_asSlash_eq_iff _).1 htext)
  · intro h
    have hback : '\x5c' ∉ reference.toList := fun hmem => (h.inside _ hmem).2 rfl
    refine ⟨_, join_of_isPlain hkind hpath hne h, rfl, rfl, rfl, ?_⟩
    rw [toList_path_withPath hkind hpath h.path, (encodeChars_map_asSlash_eq_iff _).2 hback]

end

end Url

end Logbook
