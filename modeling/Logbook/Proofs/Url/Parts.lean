import Logbook.Proofs.Url.Authority
import Logbook.Proofs.Url.Path

/-!
# Parts of URLs

What a text is cut into when it is read as a URL: the characters that mean something, which are all
of them where there are no blanks at the ends and no breaks (`Url.significant_eq_toList_iff`), the
scheme, which is told by what precedes the first colon (`Url.scheme?_of_colon`) and is that of the
URL (`Url.scheme_of_ofRest`), the authority, and the path, which is made of what the authority
leaves of the text (`Url.path_of_ofAuthority`).
-/

set_option autoImplicit false

namespace Logbook

namespace Url

open Percent

/-! ## Characters that mean something -/

theorem blank_lt_head_of_dropWhile {cs : List Char} (h : cs.dropWhile (· ≤ ' ') = cs) :
    ∀ c ∈ cs.head?, ' ' < c := by
  intro c hc
  cases cs with
  | nil => cases hc
  | cons d ds =>
    cases hc
    have hneg := List.dropWhile_eq_self_iff.1 h (Nat.succ_pos _)
    rw [List.getElem_cons_zero] at hneg
    simpa using hneg

/-- Nothing in a text is passed over where it neither begins nor ends with a blank and has no
breaks. -/
theorem significant_eq_toList_iff {text : String} :
    significant text = text.toList ↔ (∀ c ∈ text.toList.head?, ' ' < c) ∧
      (∀ c ∈ text.toList.getLast?, ' ' < c) ∧ ∀ c ∈ text.toList, isBreak c = false := by
  constructor
  · intro h
    unfold significant at h
    dsimp only at h
    generalize text.toList = cs at h ⊢
    have hstart : (cs.dropWhile (· ≤ ' ')).Sublist cs := List.dropWhile_sublist _
    have hend : ((cs.dropWhile (· ≤ ' ')).reverse.dropWhile (· ≤ ' ')).reverse.Sublist
        (cs.dropWhile (· ≤ ' ')) := by
      simpa using (List.dropWhile_sublist (· ≤ ' ') (l := (cs.dropWhile (· ≤ ' ')).reverse)).reverse
    have hkept := List.filter_sublist (p := fun c => c != '\t' && c != '\n' && c != '\r')
      (l := ((cs.dropWhile (· ≤ ' ')).reverse.dropWhile (· ≤ ' ')).reverse)
    rw [h] at hkept
    have hfirst : cs.dropWhile (· ≤ ' ') = cs := hstart.antisymm (hkept.trans hend)
    rw [hfirst] at h hend hkept
    have hlast := hend.antisymm hkept
    rw [hlast, List.filter_eq_self] at h
    refine ⟨blank_lt_head_of_dropWhile hfirst, ?_, ?_⟩
    · rw [← List.head?_reverse]
      exact blank_lt_head_of_dropWhile (List.reverse_eq_iff.1 hlast)
    · intro c hc
      simpa [isBreak, and_assoc] using h c hc
  · rintro ⟨hfirst, hlast, hbreaks⟩
    rw [significant_of_ends hfirst hlast]
    exact List.filter_eq_self.2 (by simpa using hbreaks)

theorem significant_sublist (text : String) : (significant text).Sublist text.toList := by
  unfold significant
  refine List.filter_sublist.trans ?_
  have htrim := (List.dropWhile_sublist (· ≤ ' ')
    (l := (text.toList.dropWhile (· ≤ ' ')).reverse)).reverse
  rw [List.reverse_reverse] at htrim
  exact htrim.trans (List.dropWhile_sublist _)

section
variable {scheme : String} {cs : List Char} {url : Url}

/-! ## Schemes -/

/-- The characters before a colon are a scheme: a letter, and behind it letters, digits and some
signs. -/
def isScheme (cs : List Char) : Bool :=
  cs.head?.any Char.isAlpha && cs.all fun c => c.isAlphanum || ['+', '-', '.'].contains c

theorem scheme?_of_colon {tag : List Char} (rest : List Char) (h : ':' ∉ tag) :
    scheme? (tag ++ ':' :: rest) =
      if isScheme tag then some (String.ofList (tag.map Char.toLower), rest) else none := by
  have hsplit : splitAt? (· == ':') (tag ++ ':' :: rest) = some (tag, rest) :=
    splitAt?_beq_eq_some_iff.2 ⟨rfl, h⟩
  cases tag with
  | nil => rfl
  | cons c tag =>
    rw [List.cons_append] at hsplit ⊢
    simp [scheme?, hsplit, isScheme]

theorem scheme?_of_not_mem (h : ':' ∉ cs) : scheme? cs = none := by
  unfold scheme?
  rw [splitAt?_beq_eq_none_iff.2 h]
  split
  · contradiction
  · rfl

theorem scheme?_eq_some {rest : List Char} (h : scheme? cs = some (scheme, rest)) :
    ∃ tag, cs = tag ++ ':' :: rest := by
  by_cases hcolon : ':' ∈ cs
  · obtain ⟨tag, behind, rfl, htag⟩ := List.eq_append_cons_of_mem hcolon
    rw [scheme?_of_colon behind htag] at h
    split at h
    · cases h
      exact ⟨tag, rfl⟩
    · cases h
  · rw [scheme?_of_not_mem hcolon] at h
    cases h

/-- What follows adds no scheme, unless the first colon is in it. -/
theorem scheme?_append_eq_none_iff {rest : List Char} (hcolon : ':' ∈ rest → ':' ∈ cs) :
    scheme? (cs ++ rest) = none ↔ scheme? cs = none := by
  by_cases hmem : ':' ∈ cs
  · obtain ⟨tag, behind, rfl, htag⟩ := List.eq_append_cons_of_mem hmem
    rw [List.append_assoc, List.cons_append, scheme?_of_colon _ htag, scheme?_of_colon _ htag]
    split <;> simp
  · have hnone : ':' ∉ cs ++ rest := by
      rw [List.mem_append]
      exact fun h => hmem (h.elim id hcolon)
    rw [scheme?_of_not_mem hmem, scheme?_of_not_mem hnone]

/-! ## Authorities and paths -/

theorem splitPort_sublist (inside : Bool) (cs : List Char) :
    ((splitPort inside cs).2.getD []).Sublist cs := by
  induction cs generalizing inside with
  | nil => exact List.Sublist.slnil
  | cons c cs ih =>
    unfold splitPort
    split
    · exact List.sublist_cons_self c cs
    · exact (ih _).trans (List.sublist_cons_self c cs)

theorem portOf_sublist {port : Option Nat} {rest : List Char} (h : portOf cs = .ok (port, rest)) :
    rest.Sublist cs := by
  unfold portOf at h
  dsimp only at h
  split at h
  · cases h
  · cases h
    exact List.dropWhile_sublist _

theorem splitCredentials_sublist (cs : List Char) : (splitCredentials cs).2.Sublist cs := by
  unfold splitCredentials
  dsimp only
  split
  · exact List.Sublist.refl cs
  · have h := (List.takeWhile_sublist (· != '@') (l := cs.reverse)).reverse
    rwa [List.reverse_reverse] at h

/-- What an authority leaves to the path is at its end. -/
theorem authority_ok {more : Bool} {rest : List Char}
    (h : authority scheme more cs = .ok (url, rest)) : url.scheme = scheme ∧ rest.Sublist cs := by
  unfold authority at h
  dsimp only at h
  split at h
  · cases h
  · split at h
    · cases h
    · split at h
      all_goals
        obtain ⟨host, -, h⟩ := Fallible.bind_eq_ok_iff.1 h
        split at h
        · cases h
        · obtain ⟨⟨port, left⟩, hport, h⟩ := Fallible.bind_eq_ok_iff.1 h
          cases h
          exact ⟨rfl, (portOf_sublist hport).trans
            ((splitPort_sublist false _).trans (splitCredentials_sublist cs))⟩

theorem withRootedPath_scheme (url : Url) (cs : List Char) :
    (url.withRootedPath cs).scheme = url.scheme := by
  unfold withRootedPath
  dsimp only
  split <;> rfl

theorem scheme_of_ofAuthority (h : ofAuthority scheme cs = .ok url) : url.scheme = scheme := by
  obtain ⟨⟨url', rest⟩, hauthority, h⟩ := Fallible.bind_eq_ok_iff.1 h
  cases h
  rw [withRootedPath_scheme, (authority_ok hauthority).1]

theorem scheme_of_ofFileHost (h : ofFileHost cs = .ok url) : url.scheme = "file" := by
  unfold ofFileHost at h
  dsimp only at h
  split at h
  · cases h
    rfl
  · split at h
    all_goals
      obtain ⟨host, -, h⟩ := Fallible.bind_eq_ok_iff.1 h
      split at h
      · cases h
        rfl
      · cases h
        rfl

theorem scheme_of_ofFile (h : ofFile cs = .ok url) : url.scheme = "file" := by
  unfold ofFile at h
  split at h
  · split at h
    · exact scheme_of_ofFileHost h
    · cases h
      rfl
  · cases h
    rfl

/-- A URL has the scheme that its text begins with. -/
theorem scheme_of_ofRest (h : ofRest scheme cs = .ok url) : url.scheme = scheme := by
  unfold ofRest at h
  split at h
  · exact scheme_of_ofAuthority h
  · rename_i hfile
    have hscheme : scheme = "file" := by
      by_contra hne
      rw [kindOf, if_neg hne] at hfile
      split at hfile <;> cases hfile
    rw [scheme_of_ofFile h, hscheme]
  · unfold ofOther at h
    split at h
    · exact scheme_of_ofAuthority h
    · cases h
      rfl
    · cases h
      rfl

theorem path_withPath (hkind : kindOf url.scheme = .special) (above : List String)
    (cs : List Char) :
    (url.withPath above cs).path = .segments (segmentsOf .special above cs) := by
  unfold withPath
  rw [hkind]
  rfl

theorem withRootedPath_of_special (hkind : kindOf url.scheme = .special) (cs : List Char) :
    url.withRootedPath cs = url.withPath [] (belowRoot .special cs) := by
  unfold withRootedPath
  rw [hkind]
  rfl

theorem belowRoot_sublist (kind : SchemeKind) (cs : List Char) :
    (belowRoot kind cs).Sublist cs := by
  unfold belowRoot
  split
  · split
    · exact List.sublist_cons_self _ _
    · exact List.Sublist.refl _
  · exact List.Sublist.slnil

/-- The path of a URL of a special scheme is made of what is left of its text. -/
theorem path_of_ofAuthority (hkind : kindOf scheme = .special)
    (h : ofAuthority scheme cs = .ok url) :
    ∃ rest : List Char, rest.Sublist cs ∧ url.path = .segments (segmentsOf .special [] rest) := by
  obtain ⟨⟨url', left⟩, hauthority, h⟩ := Fallible.bind_eq_ok_iff.1 h
  obtain ⟨hscheme, hleft⟩ := authority_ok hauthority
  cases h
  have hkind' : kindOf url'.scheme = .special := by rw [hscheme, hkind]
  have hsplit := hleft.append
    (List.Sublist.refl (cs.dropWhile fun c => !endsAuthority (kindOf scheme) c))
  rw [List.takeWhile_append_dropWhile] at hsplit
  refine ⟨_, (belowRoot_sublist .special _).trans hsplit, ?_⟩
  rw [withRootedPath_of_special hkind', path_withPath hkind']

theorem length_path_of_ofAuthority_le (hkind : kindOf scheme = .special)
    (h : ofAuthority scheme cs = .ok url) :
    url.path.text.toList.length ≤ (encodeChars inPath cs).length + 1 := by
  obtain ⟨rest, hrest, hpath⟩ := path_of_ofAuthority hkind h
  have hle := length_segmentsOf_le special_ne_file [] rest
  have hshort := length_encodeChars_le_of_sublist inPath hrest
  rw [hpath, toList_text_segments]
  rw [pathChars_nil, List.length_nil] at hle
  omega

/-- The path of a URL of a special scheme has segments. -/
theorem path_of_ofText {text : String} (h : ofText text = .ok url)
    (hkind : kindOf url.scheme = .special) :
    ∃ rest, url.path = .segments (segmentsOf .special [] rest) := by
  unfold ofText at h
  split at h
  · have hscheme := scheme_of_ofRest h
    rw [hscheme] at hkind
    unfold ofRest at h
    rw [hkind] at h
    obtain ⟨rest, -, hpath⟩ := path_of_ofAuthority hkind h
    exact ⟨rest, hpath⟩
  · cases h

end

end Url

end Logbook
