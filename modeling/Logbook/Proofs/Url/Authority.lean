import Logbook.Proofs.Number.Digits
import Logbook.Proofs.Url.Domain

/-!
# Hosts and ports in URLs

The URL that `http`, a host and a port write. It is read where the only colon outside of brackets
is the one in front of the port, which holds of every host that can be read
(`Url.splitPort_eq_of_ok`), and it has that host and that port and nothing else
(`Url.ofRest_hostAndPort_eq_ok_iff`).
-/

set_option autoImplicit false

namespace Logbook

namespace Url

/-- Tabs and line breaks mean nothing in a URL. -/
def isBreak (c : Char) : Bool := c == '\t' || c == '\n' || c == '\r'

/-- Characters without tabs and line breaks. -/
def withoutBreaks (cs : List Char) : List Char := cs.filter fun c => !isBreak c

theorem withoutBreaks_append (cs ds : List Char) :
    withoutBreaks (cs ++ ds) = withoutBreaks cs ++ withoutBreaks ds :=
  List.filter_append ..

/-- The URL of a host and a port, reached by `http`. -/
def ofHost (host : Host) (port : Nat) : Url :=
  { ofScheme "http" with
    host := some host
    port := if port = 80 then none else some port
    path := .segments [""] }

theorem effectivePort?_ofHost (host : Host) (port : Nat) :
    (ofHost host port).effectivePort? = some port := by
  unfold ofHost effectivePort?
  split
  · rename_i h
    rw [h]
    rfl
  · rfl

/-! ## Significant characters -/

theorem significant_of_ends {text : String} (hfirst : ∀ c ∈ text.toList.head?, ' ' < c)
    (hlast : ∀ c ∈ text.toList.getLast?, ' ' < c) :
    significant text = withoutBreaks text.toList := by
  have hkeep (cs : List Char) (h : ∀ c ∈ cs.head?, ' ' < c) : cs.dropWhile (· ≤ ' ') = cs := by
    cases cs with
    | nil => rfl
    | cons c cs => rw [List.dropWhile_cons_of_neg (by simpa using h c rfl)]
  rw [← List.head?_reverse] at hlast
  unfold significant
  rw [hkeep _ hfirst, hkeep _ hlast, List.reverse_reverse]
  exact List.filter_congr (fun c _ => by simp [isBreak, bne, Bool.and_assoc])

/-! ## Ports -/

/-- Whether what follows a character is between brackets. -/
def insideBehind (inside : Bool) (c : Char) : Bool :=
  if c = '[' then true else if c = ']' then false else inside

theorem splitPort_cons {inside : Bool} {c : Char} (cs : List Char)
    (h : ¬(c = ':' ∧ inside = false)) :
    splitPort inside (c :: cs) =
      (c :: (splitPort (insideBehind inside c) cs).1,
        (splitPort (insideBehind inside c) cs).2) := by
  rw [splitPort, if_neg h]
  rfl

/-- A host ends in front of a colon or at the end of the authority; a colon in it is behind a
bracket. -/
theorem splitPort_cases (inside : Bool) (cs : List Char) :
    (splitPort inside cs = (cs, none) ∧ (':' ∈ cs → inside = true ∨ '[' ∈ cs)) ∨
      ∃ host port, splitPort inside cs = (host, some port) ∧ cs = host ++ ':' :: port ∧
        (':' ∈ host → inside = true ∨ '[' ∈ host) := by
  induction cs generalizing inside with
  | nil => exact .inl ⟨rfl, nofun⟩
  | cons c cs ih =>
    by_cases hcolon : c = ':' ∧ inside = false
    · refine .inr ⟨[], cs, ?_, ?_, nofun⟩
      · rw [splitPort, if_pos hcolon]
      · rw [hcolon.1, List.nil_append]
    · -- a colon here or behind it is between brackets that open before it
      have hopen : ∀ rest : List Char,
          (':' ∈ rest → insideBehind inside c = true ∨ '[' ∈ rest) →
            ':' ∈ c :: rest → inside = true ∨ '[' ∈ c :: rest := by
        intro rest hrest hmem
        unfold insideBehind at hrest
        simp only [List.mem_cons] at hmem ⊢
        grind
      rw [splitPort_cons cs hcolon]
      rcases ih (insideBehind inside c) with ⟨heq, hmem⟩ | ⟨host, port, heq, hcs, hmem⟩
      · rw [heq]
        exact .inl ⟨rfl, hopen cs hmem⟩
      · rw [heq]
        exact .inr ⟨c :: host, port, rfl, by rw [hcs, List.cons_append], hopen host hmem⟩

theorem splitPort_plain {host : List Char} (port : List Char) (hcolon : ':' ∉ host)
    (hbracket : '[' ∉ host) : splitPort false (host ++ ':' :: port) = (host, some port) := by
  induction host with
  | nil => rfl
  | cons c host ih =>
    simp only [List.mem_cons, not_or] at hcolon hbracket
    have hinside : insideBehind false c = false := by
      simp [insideBehind, Ne.symm hbracket.1]
    rw [List.cons_append, splitPort_cons _ (fun h => hcolon.1 h.1.symm), hinside,
      ih hcolon.2 hbracket.2]

theorem splitPort_inside {address : List Char} (port : List Char) (h : ']' ∉ address) :
    splitPort true (address ++ ']' :: ':' :: port) = (address ++ [']'], some port) := by
  induction address with
  | nil => rfl
  | cons c address ih =>
    simp only [List.mem_cons, not_or] at h
    have hinside : insideBehind true c = true := by
      simp [insideBehind, Ne.symm h.1]
    rw [List.cons_append, splitPort_cons _ (by simp), hinside, ih h.2, List.cons_append]

theorem splitPort_brackets {address : List Char} (port : List Char) (h : ']' ∉ address) :
    splitPort false ('[' :: address ++ [']'] ++ ':' :: port) =
      ('[' :: address ++ [']'], some port) := by
  rw [List.append_assoc, List.cons_append, splitPort_cons _ (by decide)]
  have hinside : insideBehind false '[' = true := rfl
  rw [hinside, List.singleton_append, splitPort_inside port h, List.cons_append]

theorem portOf_digits {port : Nat} (h : port ≤ 65535) :
    portOf (digits port) = .ok (some port, []) := by
  have hdigits : ∀ c ∈ digits port, c.isDigit = true := fun _ => isDigit_of_mem_digits
  unfold portOf
  rw [spanDigits_of_forall hdigits]
  simp [digitsValue_digits, digits_ne_nil, Nat.not_lt.2 h]

/-- What holds another colon is no port. -/
theorem portOf_of_colon {cs : List Char} (hcolon : ':' ∈ cs) (hbackslash : '\x5c' ∉ cs) :
    portOf cs = .error .badPort := by
  have hrest : (cs.dropWhile Char.isDigit).head?.any (· != '\x5c') = true := by
    cases hdrop : cs.dropWhile Char.isDigit with
    | nil =>
      rw [List.dropWhile_eq_nil_iff] at hdrop
      exact absurd (hdrop ':' hcolon) (by decide)
    | cons c rest =>
      have hmem : c ∈ cs := by
        apply (List.dropWhile_sublist Char.isDigit).mem
        rw [hdrop]
        exact List.mem_cons_self
      have hne : c ≠ '\x5c' := by
        rintro rfl
        exact hbackslash hmem
      simpa using hne
  unfold portOf spanDigits
  simp [hrest]

/-! ## URLs of a host and a port -/

/-- An authority without an at sign has no credentials. -/
theorem splitCredentials_of_not_mem {cs : List Char} (h : '@' ∉ cs) :
    splitCredentials cs = (none, cs) := by
  have hkeep : cs.reverse.takeWhile (· != '@') = cs.reverse := by
    rw [List.takeWhile_eq_self_iff]
    intro c hc
    simp only [bne_iff_ne, ne_eq]
    rintro rfl
    exact h (List.mem_reverse.1 hc)
  unfold splitCredentials
  rw [hkeep, List.reverse_reverse]
  simp

/-- An authority without credentials is a host and a port. There is always something in the place
of a host that can be read. -/
theorem authority_eq {cs : List Char} (hat : '@' ∉ cs) :
    authority "http" false cs = do
      let host ← Host.ofSpecial (splitPort false cs).1
      let parts ← portOf ((splitPort false cs).2.getD [])
      return ({ ofScheme "http" with
        host := some host
        port := if parts.1 = some 80 then none else parts.1 }, parts.2) := by
  have hspecial : (kindOf "http" == .special) = true := by decide
  have hlookup : specialPorts.lookup "http" = some 80 := by decide
  have hnone : credentialsOf [] = .none := by decide
  unfold authority
  rw [splitCredentials_of_not_mem hat]
  dsimp only
  generalize splitPort false cs = parts
  obtain ⟨hostChars, portChars⟩ := parts
  cases hostChars with
  | nil =>
    simp only [hspecial, List.isEmpty_nil, Bool.and_true, if_true, Host.ofSpecial_nil]
    rfl
  | cons c hostChars =>
    cases hhost : Host.ofSpecial (c :: hostChars) with
    | error cause =>
      simp [hspecial, bind, Except.bind]
    | ok host =>
      have hempty := Host.isEmpty_of_ofSpecial hhost
      simp [hspecial, hlookup, hnone, hempty, ofScheme, bind, Except.bind]

theorem withRootedPath_nil {url : Url} (hscheme : url.scheme = "http") :
    url.withRootedPath [] =
      { url with path := .segments [""], query := none, fragment := none } := by
  have hkind : kindOf "http" = .special := by decide
  simp only [withRootedPath, withPath, hscheme, hkind]
  rfl

theorem ofRest_http {cs : List Char} (hends : ∀ c ∈ cs, endsAuthority .special c = false) :
    ofRest "http" ('/' :: '/' :: cs) =
      (authority "http" false cs).map fun parts => parts.1.withRootedPath parts.2 := by
  have hkind : kindOf "http" = .special := by decide
  have hhead : cs.dropWhile (isSlash .special) = cs := by
    cases cs with
    | nil => rfl
    | cons c cs =>
      have hc := hends c List.mem_cons_self
      simp only [endsAuthority, Bool.or_eq_false_iff] at hc
      rw [List.dropWhile_cons_of_neg (by simp [hc.1.1])]
  have hall : ∀ c ∈ cs, (!endsAuthority .special c) = true := by simpa using hends
  have htext : cs.takeWhile (fun c => !endsAuthority .special c) = cs :=
    List.takeWhile_eq_self_iff.2 hall
  have hrest : cs.dropWhile (fun c => !endsAuthority .special c) = [] :=
    List.dropWhile_eq_nil_iff.2 hall
  have hslash : isSlash .special '/' = true := by decide
  unfold ofRest
  simp only [hkind, List.dropWhile_cons_of_pos hslash, hhead, ofAuthority, htext, hrest,
    List.append_nil, List.isEmpty_nil, Bool.not_true]
  cases authority "http" false cs <;> rfl

theorem blank_lt_of_isDigit {c : Char} (h : c.isDigit = true) : ' ' < c := by
  simp only [Char.isDigit, Bool.and_eq_true, decide_eq_true_eq, ge_iff_le] at h
  exact UInt32.lt_of_lt_of_le (by decide) h.1

theorem isBreak_of_isDigit {c : Char} (h : c.isDigit = true) : isBreak c = false := by
  have hne (d : Char) (hd : d.isDigit = false) : c ≠ d := ne_of_isDigit h hd
  simp [isBreak, hne '\t' rfl, hne '\n' rfl, hne '\r' rfl]

theorem ofText_http (host : String) (port : Nat) :
    ofText ("http://" ++ host ++ ":" ++ natText port) =
      ofRest "http" ('/' :: '/' :: (withoutBreaks host.toList ++ ':' :: digits port)) := by
  have hdigits : ∀ c ∈ digits port, c.isDigit = true := fun _ => isDigit_of_mem_digits
  have hlist : ("http://" ++ host ++ ":" ++ natText port).toList =
      ['h', 't', 't', 'p', ':', '/', '/'] ++ (host.toList ++ ':' :: digits port) := by
    simp [natText]
  have hsignificant : significant ("http://" ++ host ++ ":" ++ natText port) =
      ['h', 't', 't', 'p', ':', '/', '/'] ++
        (withoutBreaks host.toList ++ ':' :: digits port) := by
    have hkeep : withoutBreaks (':' :: digits port) = ':' :: digits port := by
      unfold withoutBreaks
      rw [List.filter_eq_self]
      intro c hc
      rcases List.mem_cons.1 hc with rfl | hdigit
      · rfl
      · rw [isBreak_of_isDigit (hdigits c hdigit), Bool.not_false]
    rw [significant_of_ends, hlist]
    · rw [withoutBreaks_append, withoutBreaks_append, hkeep]
      rfl
    · rw [hlist]
      intro c hc
      cases hc
      decide
    · rw [hlist]
      intro c hc
      rw [List.getLast?_append_of_ne_nil _ (by simp), List.getLast?_append_of_ne_nil _ (by simp),
        List.getLast?_cons_of_ne_nil (digits_ne_nil port)] at hc
      exact blank_lt_of_isDigit (hdigits c (List.mem_of_getLast? hc))
  have hsplit : splitAt? (· == ':') (['h', 't', 't', 'p', ':', '/', '/'] ++
      (withoutBreaks host.toList ++ ':' :: digits port)) =
      some (['h', 't', 't', 'p'],
        '/' :: '/' :: (withoutBreaks host.toList ++ ':' :: digits port)) :=
    splitAt?_beq_eq_some_iff.2 ⟨rfl, by decide⟩
  have hscheme : scheme? (['h', 't', 't', 'p', ':', '/', '/'] ++
      (withoutBreaks host.toList ++ ':' :: digits port)) =
      some ("http", '/' :: '/' :: (withoutBreaks host.toList ++ ':' :: digits port)) := by
    unfold scheme?
    rw [hsplit]
    rfl
  unfold ofText
  rw [hsignificant, hscheme]

/-- A host that can be read, in front of a port that can be read, is the whole host: the colon in
front of the port is the only one outside of brackets. -/
theorem splitPort_eq_of_ok {cs : List Char} {port : Nat} (hbackslash : '\x5c' ∉ cs) {host : Host}
    (hhost : Host.ofSpecial (splitPort false (cs ++ ':' :: digits port)).1 = .ok host)
    {parts : Option Nat × List Char}
    (hport : portOf ((splitPort false (cs ++ ':' :: digits port)).2.getD []) = .ok parts) :
    splitPort false (cs ++ ':' :: digits port) = (cs, some (digits port)) := by
  have hdigits (c : Char) (hc : c.isDigit = false) : c ∉ digits port := not_mem_digits hc port
  rcases splitPort_cases false (cs ++ ':' :: digits port) with
    ⟨heq, hopen⟩ | ⟨before, behind, heq, hcs, -⟩
  · -- all of it would be a host in brackets, and it ends with a digit
    rw [heq] at hhost
    have hbracket := (hopen (by simp)).resolve_left (by simp)
    have hhead := Host.head?_of_ofSpecial hhost hbracket
    obtain ⟨inner, hinner⟩ := Host.exists_of_ofSpecial_bracket hhost hhead
    have hlast := congrArg List.getLast? hinner
    rw [List.getLast?_append_of_ne_nil _ (by simp),
      List.getLast?_cons_of_ne_nil (digits_ne_nil port)] at hlast
    have hmem := List.mem_of_getLast? (hlast.trans (by simp : _ = some ']'))
    exact absurd hmem (hdigits ']' rfl)
  · rw [heq] at hport ⊢
    have hcolon : ':' ∉ behind := by
      intro hmem
      have hnone : '\x5c' ∉ behind := by
        intro hin
        have hall : '\x5c' ∈ cs ++ ':' :: digits port := by
          rw [hcs]
          simp [hin]
        simp only [List.mem_append, List.mem_cons] at hall
        exact hall.elim hbackslash (fun h => h.elim (by decide) (hdigits '\x5c' rfl))
      rw [Option.getD_some, portOf_of_colon hmem hnone] at hport
      cases hport
    obtain ⟨rfl, rfl⟩ := append_cons_inj_last (hdigits ':' rfl) hcolon hcs
    rfl

/-- **A host and a port behind `http` are read as what they are**, and are refused together
otherwise. -/
theorem ofRest_hostAndPort_eq_ok_iff {cs : List Char} {port : Nat}
    (hends : ∀ c ∈ cs, endsAuthority .special c = false) (hat : '@' ∉ cs) (hport : port ≤ 65535)
    {url : Url} :
    ofRest "http" ('/' :: '/' :: (cs ++ ':' :: digits port)) = .ok url ↔
      splitPort false (cs ++ ':' :: digits port) = (cs, some (digits port)) ∧
        ∃ host, Host.ofSpecial cs = .ok host ∧ url = ofHost host port := by
  have hdigits (c : Char) (hc : c.isDigit = false) : c ∉ digits port := not_mem_digits hc port
  have hbackslash : '\x5c' ∉ cs := fun h => absurd (hends _ h) (by decide)
  have hall : ∀ c ∈ cs ++ ':' :: digits port, endsAuthority .special c = false := by
    intro c hc
    rcases List.mem_append.1 hc with hmem | hmem
    · exact hends c hmem
    · rcases List.mem_cons.1 hmem with rfl | hdigit
      · rfl
      · have hne (d : Char) (hd : d.isDigit = false) : c ≠ d :=
          ne_of_isDigit (isDigit_of_mem_digits hdigit) hd
        simp [endsAuthority, isSlash, hne '/' rfl, hne '\x5c' rfl, hne '?' rfl, hne '#' rfl]
  have hat' : '@' ∉ cs ++ ':' :: digits port := by
    simp only [List.mem_append, List.mem_cons, not_or]
    exact ⟨hat, by decide, hdigits '@' rfl⟩
  rw [ofRest_http hall, authority_eq hat']
  constructor
  · intro h
    obtain ⟨parts, hparts, rfl⟩ := Fallible.map_eq_ok_iff.1 h
    obtain ⟨host, hhost, hparts⟩ := Fallible.bind_eq_ok_iff.1 hparts
    obtain ⟨written, hwritten, hparts⟩ := Fallible.bind_eq_ok_iff.1 hparts
    have hsplit := splitPort_eq_of_ok hbackslash hhost hwritten
    rw [hsplit] at hhost hwritten
    rw [Option.getD_some, portOf_digits hport] at hwritten
    cases hwritten
    cases hparts
    refine ⟨hsplit, host, hhost, ?_⟩
    rw [withRootedPath_nil rfl]
    simp [ofHost, ofScheme]
  · rintro ⟨hsplit, host, hhost, rfl⟩
    rw [hsplit, hhost, Option.getD_some, portOf_digits hport]
    show Except.ok (withRootedPath _ []) = _
    rw [withRootedPath_nil rfl]
    simp [ofHost, ofScheme]

end Url

end Logbook
