import Logbook.Proofs.Text.Split
import Logbook.Proofs.Url.Percent
import Logbook.Url.Parser

/-!
# Segments of paths

The characters of a path below others are what was there, a slash and the characters put there,
encoded, if these are a path (`Url.pathChars_segmentsOf`). Otherwise something is lost: a query or a
fragment is cut off, or dots are followed (`Url.isPath_of_length_le`).
-/

set_option autoImplicit false

namespace Logbook

namespace Url

open Percent

/-! ## Texts of paths -/

/-- The characters of a path of segments. -/
def pathChars (parts : List String) : List Char := parts.flatMap fun part => '/' :: part.toList

theorem toList_text_segments (parts : List String) :
    (UrlPath.segments parts).text.toList = pathChars parts := by
  rw [UrlPath.text, String.toList_join, List.flatMap_map]
  simp [pathChars]

@[simp] theorem pathChars_nil : pathChars [] = [] := rfl

@[simp] theorem pathChars_cons (part : String) (parts : List String) :
    pathChars (part :: parts) = '/' :: part.toList ++ pathChars parts := rfl

@[simp] theorem pathChars_append (parts rest : List String) :
    pathChars (parts ++ rest) = pathChars parts ++ pathChars rest :=
  List.flatMap_append

/-! ## Segments -/

theorem special_ne_file : SchemeKind.special ≠ .file := by decide

/-- A segment that is not kept but followed. -/
def isDots (segment : List Char) : Bool := isDoubleDot segment || isSingleDot segment

/-- Segments as they are written. -/
def written (segments : List (List Char)) : List String := segments.map (encode inPath)

/-- What ends a segment is written as a slash. -/
def asSlash (kind : SchemeKind) (c : Char) : Char := if isSlash kind c then '/' else c

theorem pathChars_written_cons (segment : List Char) (segments : List (List Char)) :
    pathChars (written (segment :: segments)) =
      '/' :: encodeChars inPath segment ++ pathChars (written segments) := by
  rw [written, List.map_cons, pathChars_cons, toList_encode]
  rfl

/-- The segments of some characters, written one behind the other. -/
theorem pathChars_written_splitBy (kind : SchemeKind) (cs : List Char) :
    pathChars (written (splitBy (isSlash kind) cs)) =
      '/' :: encodeChars inPath (cs.map (asSlash kind)) := by
  induction cs with
  | nil => rfl
  | cons c cs ih =>
    cases hc : isSlash kind c with
    | true =>
      have hslash : asSlash kind c = '/' := by simp [asSlash, hc]
      rw [splitBy_cons_of_pos hc, pathChars_written_cons, ih, List.map_cons, hslash]
      rfl
    | false =>
      have hkept : asSlash kind c = c := by simp [asSlash, hc]
      obtain ⟨part, parts, hparts⟩ := List.exists_cons_of_ne_nil (splitBy_ne_nil (isSlash kind) cs)
      rw [hparts, pathChars_written_cons, List.cons_append, List.cons.injEq] at ih
      rw [splitBy_cons_of_neg hc hparts, pathChars_written_cons, encodeChars_cons, List.map_cons,
        hkept, encodeChars_cons, ← ih.2]
      simp

section
variable {kind : SchemeKind} {above : List String} {segments : List (List Char)}

theorem segmentText_eq (hkind : kind ≠ .file) (above : List String) (segment : List Char) :
    segmentText kind above segment = encode inPath segment := by
  simp [segmentText, hkind]

/-- A segment below others; where it is dots, they are followed and `ending` is put below. -/
def place (kind : SchemeKind) (above ending : List String) (segment : List Char) : List String :=
  if isDoubleDot segment then parent above ++ ending
  else if isSingleDot segment then above ++ ending
  else above ++ [segmentText kind above segment]

theorem appendSegments_cons (kind : SchemeKind) (above : List String) (segment : List Char)
    (rest : List (List Char)) :
    appendSegments kind above (segment :: rest) =
      appendSegments kind (place kind above (if rest.isEmpty then [""] else []) segment) rest :=
  rfl

theorem place_of_not_isDots (hkind : kind ≠ .file) (above ending : List String)
    {segment : List Char} (h : isDots segment = false) :
    place kind above ending segment = above ++ [encode inPath segment] := by
  rw [isDots, Bool.or_eq_false_iff] at h
  simp [place, h.1, h.2, segmentText_eq hkind]

/-- Where no dots are to be followed, segments are put below others as they are. -/
theorem appendSegments_of_forall (hkind : kind ≠ .file) (above : List String)
    (h : ∀ segment ∈ segments, isDots segment = false) :
    appendSegments kind above segments = above ++ written segments := by
  induction segments generalizing above with
  | nil => exact (List.append_nil above).symm
  | cons segment rest ih =>
    rw [List.forall_mem_cons] at h
    rw [appendSegments_cons, place_of_not_isDots hkind _ _ h.1, ih _ h.2, List.append_assoc]
    rfl

theorem length_pathChars_parent_le (parts : List String) :
    (pathChars (parent parts)).length ≤ (pathChars parts).length := by
  unfold parent
  split
  · exact le_refl _
  · exact ((List.dropLast_sublist parts).flatMap _).length_le

theorem ne_nil_of_isDots {segment : List Char} (h : isDots segment = true) : segment ≠ [] := by
  rintro rfl
  exact absurd h (by decide)

theorem length_place_of_isDots {segment : List Char} (h : isDots segment = true)
    (kind : SchemeKind) (above ending : List String) :
    (pathChars (place kind above ending segment)).length ≤
      (pathChars above).length + (pathChars ending).length := by
  have hparent := length_pathChars_parent_le above
  unfold place
  split
  · rw [pathChars_append, List.length_append]
    omega
  · rename_i hdouble
    have hsingle : isSingleDot segment = true := by simpa [isDots, hdouble] using h
    rw [if_pos hsingle, pathChars_append, List.length_append]

/-- Dots that are followed leave less than what would be written of them. -/
theorem length_appendSegments_le (hkind : kind ≠ .file) (above : List String)
    (segments : List (List Char)) :
    (pathChars (appendSegments kind above segments)).length + segments.countP isDots ≤
      (pathChars above).length + (pathChars (written segments)).length := by
  induction segments generalizing above with
  | nil => exact le_refl _
  | cons segment rest ih =>
    have hrest := ih (place kind above (if rest.isEmpty then [""] else []) segment)
    rw [appendSegments_cons, pathChars_written_cons]
    simp only [List.length_append, List.length_cons]
    cases hdots : isDots segment with
    | true =>
      have hplace := length_place_of_isDots hdots kind above (if rest.isEmpty then [""] else [])
      have hending : (pathChars (if rest.isEmpty then [""] else [])).length ≤ 1 := by
        split <;> decide
      have hpos := length_encodeChars_pos inPath (ne_nil_of_isDots hdots)
      rw [List.countP_cons_of_pos hdots]
      omega
    | false =>
      rw [place_of_not_isDots hkind _ _ hdots] at hrest ⊢
      rw [List.countP_cons_of_neg (by simp [hdots])]
      simp only [pathChars_append, List.length_append, pathChars_cons, pathChars_nil,
        toList_encode, List.length_cons, List.length_nil] at hrest
      omega

/-- There is a path at the end of segments, if only an empty one. -/
theorem appendSegments_ne_nil (kind : SchemeKind) (above : List String)
    (h : segments ≠ []) : appendSegments kind above segments ≠ [] := by
  induction segments generalizing above with
  | nil => exact absurd rfl h
  | cons segment rest ih =>
    rw [appendSegments_cons]
    cases rest with
    | cons next rest => exact ih _ (List.cons_ne_nil _ _)
    | nil =>
      unfold appendSegments place
      split
      · simp
      · split <;> simp

/-- Segments hold no character that ends one. -/
theorem not_mem_appendSegments (hkind : kind ≠ .file) {c : Char} (hpercent : c ≠ '%')
    (hc : ¬c.isDigit ∧ ¬c.isUpper) (habove : ∀ part ∈ above, c ∉ part.toList)
    (h : ∀ segment ∈ segments, c ∉ segment) :
    ∀ part ∈ appendSegments kind above segments, c ∉ part.toList := by
  induction segments generalizing above with
  | nil => exact habove
  | cons segment rest ih =>
    rw [List.forall_mem_cons] at h
    rw [appendSegments_cons]
    refine ih ?_ h.2
    have hending : ∀ part ∈ (if rest.isEmpty then [""] else []), c ∉ String.toList part := by
      intro part hpart
      split at hpart
      · rw [List.mem_singleton.1 hpart]
        exact List.not_mem_nil
      · cases hpart
    have hparent : ∀ part ∈ parent above, c ∉ part.toList := by
      intro part hpart
      unfold parent at hpart
      split at hpart
      · exact habove part hpart
      · exact habove part (List.dropLast_subset _ hpart)
    unfold place
    split
    · exact List.forall_mem_append.2 ⟨hparent, hending⟩
    · split
      · exact List.forall_mem_append.2 ⟨habove, hending⟩
      · refine List.forall_mem_append.2 ⟨habove, ?_⟩
        intro part hpart
        rw [List.mem_singleton.1 hpart, segmentText_eq hkind, toList_encode]
        exact fun hmem => h.1 (mem_of_mem_encodeChars hpercent hc hmem)

end

/-! ## Paths below others -/

/-- The characters are a path that can be put below others as it is: nothing ends it, and there are
no dots to be followed. -/
structure IsPath (kind : SchemeKind) (cs : List Char) : Prop where
  whole : ∀ c ∈ cs, endsPath c = false
  noDots : ∀ segment ∈ splitBy (isSlash kind) cs, isDots segment = false

theorem length_encodeChars_map_asSlash (kind : SchemeKind) (cs : List Char) :
    (encodeChars inPath (cs.map (asSlash kind))).length = (encodeChars inPath cs).length := by
  induction cs with
  | nil => rfl
  | cons c cs ih =>
    have hchar : (encodeChar inPath (asSlash kind c)).length = (encodeChar inPath c).length := by
      unfold asSlash
      split
      · rename_i hslash
        simp only [isSlash, Bool.or_eq_true, Bool.and_eq_true, beq_iff_eq] at hslash
        rcases hslash with rfl | ⟨-, rfl⟩ <;> rfl
      · rfl
    rw [List.map_cons, encodeChars_cons, encodeChars_cons, List.length_append, List.length_append,
      hchar, ih]

section
variable {kind : SchemeKind} {cs : List Char}

theorem pathChars_segmentsOf (hkind : kind ≠ .file) (above : List String) (h : IsPath kind cs) :
    pathChars (segmentsOf kind above cs) =
      pathChars above ++ '/' :: encodeChars inPath (cs.map (asSlash kind)) := by
  have htake : cs.takeWhile (fun c => !endsPath c) = cs :=
    List.takeWhile_eq_self_iff.2 (by simpa using h.whole)
  rw [segmentsOf, htake, appendSegments_of_forall hkind above h.noDots, pathChars_append,
    pathChars_written_splitBy]

theorem length_segmentsOf_le (hkind : kind ≠ .file) (above : List String) (cs : List Char) :
    (pathChars (segmentsOf kind above cs)).length ≤
      (pathChars above).length + (encodeChars inPath cs).length + 1 := by
  have hle := length_appendSegments_le hkind above
    (splitBy (isSlash kind) (cs.takeWhile fun c => !endsPath c))
  have htake := length_encodeChars_le_of_sublist inPath
    (List.takeWhile_sublist (fun c => !endsPath c) (l := cs))
  rw [pathChars_written_splitBy, List.length_cons, length_encodeChars_map_asSlash] at hle
  unfold segmentsOf
  omega

theorem segmentsOf_ne_nil (kind : SchemeKind) (above : List String) (cs : List Char) :
    segmentsOf kind above cs ≠ [] :=
  appendSegments_ne_nil kind above (splitBy_ne_nil _ _)

/-- A slash ends a segment and is in none. -/
theorem slash_not_mem_segmentsOf (hkind : kind ≠ .file) (cs : List Char) :
    ∀ part ∈ segmentsOf kind [] cs, '/' ∉ part.toList :=
  not_mem_appendSegments hkind (by decide) (by decide) (by simp)
    (not_mem_of_mem_splitBy (by simp [isSlash]))

/-- Characters of which nothing is lost below others are a path. -/
theorem isPath_of_length_le (hkind : kind ≠ .file) (above : List String)
    (h : (pathChars above).length + (encodeChars inPath cs).length + 1 ≤
      (pathChars (segmentsOf kind above cs)).length) : IsPath kind cs := by
  have hle := length_appendSegments_le hkind above
    (splitBy (isSlash kind) (cs.takeWhile fun c => !endsPath c))
  have htake := List.takeWhile_sublist (fun c => !endsPath c) (l := cs)
  have hshort := length_encodeChars_le_of_sublist inPath htake
  rw [pathChars_written_splitBy, List.length_cons, length_encodeChars_map_asSlash] at hle
  unfold segmentsOf at h
  have hwhole : cs.takeWhile (fun c => !endsPath c) = cs :=
    eq_of_sublist_of_length_le inPath htake (by omega)
  rw [hwhole] at hle h
  refine ⟨?whole, ?noDots⟩
  case whole => simpa using List.takeWhile_eq_self_iff.1 hwhole
  case noDots =>
    have hnone : (splitBy (isSlash kind) cs).countP isDots = 0 := by omega
    simpa using List.countP_eq_zero.1 hnone

end

end Url

end Logbook
