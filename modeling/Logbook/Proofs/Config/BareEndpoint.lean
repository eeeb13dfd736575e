import Logbook.Config.Endpoint
import Logbook.Proofs.Text.Blank
import Logbook.Proofs.Text.Lowercase
import Logbook.Proofs.Url.Authority

/-!
# Endpoints without a scheme

A bare endpoint is a host, behind which a colon and a port may stand (`Endpoint.Spells`). It is cut
at its brackets or at its last colon, and what is put together from the parts is read as a URL,
which has signs of its own.

* `bare_endpoints_are_hosts_and_ports`: where no sign of a URL is in the host, an endpoint is
  accepted where it is of that form and its host can be read, and means that host and that port.
* `endpoint_with_user_and_path`: the condition is needed.
-/

set_option autoImplicit false

namespace Logbook

namespace Endpoint

/-! ## Hosts in lower case -/

/-- The characters of a host as they are read in a URL. -/
def hostChars (host : List Char) : List Char := Url.withoutBreaks (lowercaseChars false host)

theorem caseless_of_isBreak {c : Char} (h : Url.isBreak c = true) :
    isCaseless c = true ∧ isBlank c = true := by
  simp only [Url.isBreak, Bool.or_eq_true, beq_iff_eq] at h
  rcases h with (rfl | rfl) | rfl <;> decide

section
variable {c : Char} (hc : isCaseless c = true) (hbreak : Url.isBreak c = false)
include hc hbreak

theorem count_hostChars (host : List Char) : (hostChars host).count c = host.count c := by
  unfold hostChars Url.withoutBreaks
  rw [List.count_filter (by simp [hbreak])]
  calc (lowercaseChars false host).count c
      = ((lowercaseChars false host).filter isCaseless).count c := (List.count_filter hc).symm
    _ = (host.filter isCaseless).count c := by rw [filter_lowercaseChars]
    _ = host.count c := List.count_filter hc

theorem mem_hostChars {host : List Char} : c ∈ hostChars host ↔ c ∈ host := by
  rw [← List.count_pos_iff, count_hostChars hc hbreak, List.count_pos_iff]

end

theorem head?_hostChars {c : Char} (hc : isCaseless c = true) {host : List Char}
    (hfirst : ∀ d ∈ host.head?, isBlank d = false) :
    (hostChars host).head? = some c ↔ host.head? = some c := by
  rw [← @head?_lowercaseChars c hc false host]
  unfold hostChars Url.withoutBreaks
  cases hlower : lowercaseChars false host with
  | nil => rfl
  | cons d rest =>
    have hkept : Url.isBreak d = false := by
      rw [← Bool.not_eq_true]
      intro hd
      -- the host itself would begin with the tab or the line break
      have hcase := caseless_of_isBreak hd
      have hhead := (@head?_lowercaseChars d hcase.1 false host).1 (by rw [hlower]; rfl)
      rw [hfirst d hhead] at hcase
      exact absurd hcase.2 (by decide)
    rw [List.filter_cons_of_pos (by simp [hkept]), List.head?_cons, List.head?_cons]

/-! ## The form of endpoints -/

/-- The form of a host: a name without a colon, or an address between brackets. -/
inductive IsHost : List Char → Prop where
  | name {cs : List Char} (hne : cs ≠ []) (hbracket : cs.head? ≠ some '[') (hcolon : ':' ∉ cs) :
    IsHost cs
  | address {cs : List Char} (hbracket : ']' ∉ cs) : IsHost ('[' :: cs ++ [']'])

theorem IsHost.ne_nil {cs : List Char} (h : IsHost cs) : cs ≠ [] := by
  cases h with
  | name hne => exact hne
  | address => exact List.cons_ne_nil _ _

/-- The spellings of a host and a port: the default port may be left out. -/
inductive Spells (host : List Char) : Nat → List Char → Prop where
  | host : Spells host defaultPort host
  | hostAndPort {port : Nat} {cs : List Char} (hport : portOf? cs = some port) :
    Spells host port (host ++ ':' :: cs)

/-- Characters that end a host in a URL, or what stands in front of it. -/
def isDelimiter (c : Char) : Bool := ['/', '\x5c', '?', '#', '@'].contains c

/-! ## Ports -/

theorem le_of_portText {portText : Option (List Char)} {port : Nat}
    (h : portText.elim (some defaultPort) portOf? = some port) : port ≤ 65535 := by
  cases portText with
  | none =>
    cases h
    decide
  | some cs =>
    have hle := (Option.filter_eq_some_iff.1 h).2
    simpa using hle

theorem colon_not_mem_of_portOf? {cs : List Char} {port : Nat} (h : portOf? cs = some port) :
    ':' ∉ cs := by
  have hnat := (Option.filter_eq_some_iff.1 h).1
  have hdigits (ds : List Char) (hds : natOfDigits? ds = some port) : ':' ∉ ds := by
    intro hmem
    have hcolon := (natOfDigits?_eq_some_iff.1 hds).2.1 ':' hmem
    cases hcolon
  unfold natOfChars? at hnat
  split at hnat
  · rw [List.mem_cons, not_or]
    exact ⟨by decide, hdigits _ hnat⟩
  · exact hdigits _ hnat

/-! ## Cutting an endpoint -/

theorem splitBrackets?_eq_some_iff {cs host rest : List Char} :
    splitBrackets? cs = some (host, rest) ↔
      ∃ address, ']' ∉ address ∧ host = '[' :: address ++ [']'] ∧ cs = host ++ rest := by
  constructor
  · intro h
    unfold splitBrackets? at h
    split at h
    · obtain ⟨⟨address, behind⟩, hsplit, heq⟩ := Option.map_eq_some_iff.1 h
      cases heq
      obtain ⟨rfl, haddress⟩ := splitAt?_beq_eq_some_iff.1 hsplit
      exact ⟨address, haddress, rfl, by simp⟩
    · cases h
  · rintro ⟨address, haddress, rfl, rfl⟩
    have hsplit : splitAt? (· == ']') (address ++ ']' :: rest) = some (address, rest) :=
      splitAt?_beq_eq_some_iff.2 ⟨rfl, haddress⟩
    simp only [List.cons_append, List.append_assoc, List.nil_append, splitBrackets?, hsplit,
      Option.map_some]

theorem splitBrackets?_eq_none_iff {cs : List Char} :
    splitBrackets? cs = none ↔ (cs.head? = some '[' → ']' ∉ cs) := by
  unfold splitBrackets?
  split
  · rw [Option.map_eq_none_iff, splitAt?_beq_eq_none_iff, List.mem_cons, List.head?_cons]
    simp
  · rename_i hne
    refine ⟨fun _ hhead => ?_, fun _ => rfl⟩
    obtain ⟨rest, hrest⟩ := List.head?_eq_some_iff.1 hhead
    exact absurd hrest (hne rest)

theorem splitLastColon?_eq_some_iff {cs host port : List Char} :
    splitLastColon? cs = some (host, port) ↔ cs = host ++ ':' :: port ∧ ':' ∉ port := by
  unfold splitLastColon?
  constructor
  · intro h
    obtain ⟨⟨behind, before⟩, hsplit, heq⟩ := Option.map_eq_some_iff.1 h
    cases heq
    obtain ⟨hcs, hbehind⟩ := splitAt?_beq_eq_some_iff.1 hsplit
    refine ⟨?_, fun hmem => hbehind (List.mem_reverse.1 hmem)⟩
    rw [← List.reverse_reverse cs, hcs]
    simp
  · rintro ⟨rfl, hport⟩
    have hsplit : splitAt? (· == ':') (host ++ ':' :: port).reverse =
        some (port.reverse, host.reverse) :=
      splitAt?_beq_eq_some_iff.2 ⟨by simp, fun hmem => hport (List.mem_reverse.1 hmem)⟩
    rw [hsplit]
    simp

theorem splitLastColon?_eq_none_iff {cs : List Char} : splitLastColon? cs = none ↔ ':' ∉ cs := by
  unfold splitLastColon?
  rw [Option.map_eq_none_iff, splitAt?_beq_eq_none_iff, List.mem_reverse]

/-- An endpoint of the right form is cut into its host and its port. -/
theorem exists_splitPort?_of_spells {host cs : List Char} {port : Nat} (hhost : IsHost host)
    (h : Spells host port cs) :
    ∃ portText, splitPort? cs = some (host, portText) ∧
      portText.elim (some defaultPort) portOf? = some port := by
  cases hhost with
  | name hne hbracket hcolon =>
    cases h with
    | host =>
      refine ⟨none, ?_, rfl⟩
      have hnone : splitBrackets? host = none :=
        splitBrackets?_eq_none_iff.2 (fun hhead => absurd hhead hbracket)
      rw [splitPort?, hnone, splitLastColon?_eq_none_iff.2 hcolon]
    | @hostAndPort _ portText hport =>
      refine ⟨some portText, ?_, hport⟩
      have hnone : splitBrackets? (host ++ ':' :: portText) = none := by
        rw [splitBrackets?_eq_none_iff, List.head?_append_of_ne_nil _ hne]
        exact fun hhead => absurd hhead hbracket
      have hlast := splitLastColon?_eq_some_iff.2
        ⟨(rfl : host ++ ':' :: portText = _), colon_not_mem_of_portOf? hport⟩
      rw [splitPort?, hnone, hlast]
  | @address address hbracket =>
    have hbrackets (rest : List Char) : splitBrackets? ('[' :: address ++ [']'] ++ rest) =
        some ('[' :: address ++ [']'], rest) :=
      splitBrackets?_eq_some_iff.2 ⟨address, hbracket, rfl, rfl⟩
    cases h with
    | host =>
      have hsplit := hbrackets []
      rw [List.append_nil] at hsplit
      exact ⟨none, by simp only [splitPort?, hsplit], rfl⟩
    | @hostAndPort _ portText hport =>
      exact ⟨some portText, by simp only [splitPort?, hbrackets], hport⟩

/-- What an endpoint is cut into: brackets come first, and without them the last colon counts. -/
theorem splitPort?_eq_some {cs host : List Char} {portText : Option (List Char)}
    (h : splitPort? cs = some (host, portText)) :
    cs = host ++ portText.elim [] (':' :: ·) ∧
      ((∃ address, ']' ∉ address ∧ host = '[' :: address ++ [']']) ∨
        (cs.head? = some '[' → ']' ∉ cs)) := by
  unfold splitPort? at h
  split at h
  · rename_i hsplit
    cases h
    obtain ⟨address, haddress, hhost, hcs⟩ := splitBrackets?_eq_some_iff.1 hsplit
    exact ⟨hcs, .inl ⟨address, haddress, hhost⟩⟩
  · rename_i hsplit
    cases h
    obtain ⟨address, haddress, hhost, hcs⟩ := splitBrackets?_eq_some_iff.1 hsplit
    exact ⟨hcs, .inl ⟨address, haddress, hhost⟩⟩
  · cases h
  · rename_i hnone
    have hbracket := splitBrackets?_eq_none_iff.1 hnone
    split at h
    · rename_i hsplit
      cases h
      exact ⟨(splitLastColon?_eq_some_iff.1 hsplit).1, .inr hbracket⟩
    · cases h
      exact ⟨by simp, .inr hbracket⟩

/-- A host begins as the endpoint does. -/
theorem head?_of_splitPort? {cs host : List Char} {portText : Option (List Char)}
    (hcut : splitPort? cs = some (host, portText)) (hne : host ≠ [])
    (hfirst : ∀ c ∈ cs.head?, isBlank c = false) : ∀ c ∈ host.head?, isBlank c = false := by
  rw [(splitPort?_eq_some hcut).1, List.head?_append_of_ne_nil _ hne] at hfirst
  exact hfirst

theorem bareUrl_eq_ok_iff {text : String} {url : Url} :
    bareUrl text = .ok url ↔ ∃ host portText port, splitPort? text.toList = some (host, portText) ∧
      portText.elim (some defaultPort) portOf? = some port ∧ host ≠ [] ∧
        urlOf text host port = .ok url := by
  unfold bareUrl
  cases splitPort? text.toList with
  | none => simp
  | some parts =>
    obtain ⟨host, portText⟩ := parts
    cases hport : portText.elim (some defaultPort) portOf? with
    | none => simp [hport]
    | some port =>
      cases host with
      | nil => simp [hport]
      | cons c host => simp [hport]

theorem urlOf_eq_ok_iff {text : String} {host : List Char} {port : Nat}
    (hplain : ∀ c ∈ host, isDelimiter c = false) (hport : port ≤ 65535) {url : Url} :
    urlOf text host port = .ok url ↔
      Url.splitPort false (hostChars host ++ ':' :: digits port) =
          (hostChars host, some (digits port)) ∧
        ∃ address, Host.ofSpecial (hostChars host) = .ok address ∧
          url = Url.ofHost address port := by
  have hnot (c : Char) (hdelimiter : isDelimiter c = true) (hc : isCaseless c = true)
      (hbreak : Url.isBreak c = false) : c ∉ hostChars host := by
    rw [mem_hostChars hc hbreak]
    intro hmem
    rw [hplain c hmem] at hdelimiter
    cases hdelimiter
  have hends : ∀ c ∈ hostChars host, Url.endsAuthority .special c = false := by
    intro c hc
    rw [← Bool.not_eq_true]
    intro hend
    simp only [Url.endsAuthority, Url.isSlash, Bool.or_eq_true, Bool.and_eq_true, beq_iff_eq]
      at hend
    rcases hend with ((rfl | ⟨-, rfl⟩) | rfl) | rfl
    all_goals exact hnot _ (by decide) (by decide) (by decide) hc
  have hat : '@' ∉ hostChars host := hnot '@' (by decide) (by decide) (by decide)
  rw [← Url.ofRest_hostAndPort_eq_ok_iff hends hat hport]
  have hlower : (lowercase (String.ofList host)).toList = lowercaseChars false host := by
    rw [lowercase, String.toList_ofList, String.toList_ofList]
  unfold urlOf
  dsimp only
  rw [Url.ofText_http, hlower]
  unfold hostChars
  cases Url.ofRest "http" _ with
  | ok url' => simp
  | error cause => simp

/-! ## What hosts become -/

section
variable {host : List Char} {address : Host}
  (hfirst : ∀ c ∈ host.head?, isBlank c = false)
  (haddress : Host.ofSpecial (hostChars host) = .ok address)
include hfirst haddress

/-- Only an address between brackets has a bracket in it. -/
theorem head?_of_bracket_mem (hmem : '[' ∈ hostChars host) : host.head? = some '[' :=
  (head?_hostChars (by decide) hfirst).1 (Host.head?_of_ofSpecial haddress hmem)

theorem exists_of_bracket (hhead : host.head? = some '[') :
    ∃ inner, hostChars host = '[' :: inner ++ [']'] := by
  have hhead' := (head?_hostChars (by decide) hfirst).2 hhead
  obtain ⟨inner, hinner⟩ := Host.exists_of_ofSpecial_bracket haddress hhead'
  rw [hinner] at hhead'
  cases inner with
  | nil => exact absurd hhead' (by decide)
  | cons c inner =>
    cases hhead'
    exact ⟨inner, hinner⟩

/-- The colon behind a host of the right form is the first one outside of brackets. -/
theorem splitPort_hostChars (hhost : IsHost host) (port : List Char) :
    Url.splitPort false (hostChars host ++ ':' :: port) = (hostChars host, some port) := by
  cases hhost with
  | name hne hbracket hcolon =>
    apply Url.splitPort_plain
    · rwa [mem_hostChars (by decide) (by decide)]
    · exact fun hmem => hbracket (head?_of_bracket_mem hfirst haddress hmem)
  | @address cs hbracket =>
    obtain ⟨inner, hinner⟩ := exists_of_bracket hfirst haddress rfl
    have hcount := @count_hostChars ']' (by decide) (by decide) ('[' :: cs ++ [']'])
    rw [hinner] at hcount ⊢
    have hnone : ']' ∉ inner := by
      rw [← List.count_eq_zero] at hbracket ⊢
      simpa [hbracket] using hcount
    exact Url.splitPort_brackets port hnone

/-- A host that is read as a whole has the right form. -/
theorem isHost_of_splitPort {cs port : List Char} {portText : Option (List Char)}
    (hcut : splitPort? cs = some (host, portText)) (hne : host ≠ [])
    (hsplit : Url.splitPort false (hostChars host ++ ':' :: port) = (hostChars host, some port)) :
    IsHost host := by
  obtain ⟨hcs, ⟨inner, hinner, rfl⟩ | hbracket⟩ := splitPort?_eq_some hcut
  · exact .address hinner
  · have hhead : host.head? ≠ some '[' := by
      intro hhead
      obtain ⟨inner, hinner⟩ := exists_of_bracket hfirst haddress hhead
      have hmem : ']' ∈ host := by
        rw [← @mem_hostChars ']' (by decide) (by decide), hinner]
        simp
      rw [hcs, List.head?_append_of_ne_nil _ hne] at hbracket
      exact hbracket hhead (List.mem_append_left _ hmem)
    refine .name hne hhead (fun hcolon => hhead ?_)
    rcases Url.splitPort_cases false (hostChars host ++ ':' :: port) with
      ⟨heq, -⟩ | ⟨before, behind, heq, -, hopen⟩
    · rw [hsplit] at heq
      exact absurd (congrArg Prod.snd heq) (by simp)
    · rw [hsplit] at heq
      cases heq
      have hmem := (hopen ((mem_hostChars (by decide) (by decide)).2 hcolon)).resolve_left (by simp)
      exact head?_of_bracket_mem hfirst haddress hmem

end

end Endpoint

open Endpoint in
/-- **A bare endpoint means the host and the port it says.** An endpoint without a scheme, in the
host of which there is no sign of a URL, is accepted where it has the form of a host or of a host
and a port and the host can be read in lower case. It is then the URL of that host and that port,
or of the default port, and of nothing else. -/
theorem bare_endpoints_are_hosts_and_ports {text : String}
    (hbare : hasScheme (trim text).toList = false)
    (hplain : ∀ host portText, splitPort? (trim text).toList = some (host, portText) →
      ∀ c ∈ host, isDelimiter c = false) {url : Url} :
    Endpoint.url text = .ok url ↔
      ∃ host port address, IsHost host ∧ Spells host port (trim text).toList ∧
        Host.ofSpecial (hostChars host) = .ok address ∧
          url = ⟨"http", .none, some address, if port = 80 then none else some port,
            .segments [""], none, none⟩ ∧
          url.path.text = "/" ∧ url.effectivePort? = some port := by
  have hurl : Endpoint.url text = bareUrl (trim text) := by
    simp [Endpoint.url, hbare]
  have hfirst : ∀ c ∈ (trim text).toList.head?, isBlank c = false := by
    intro c hc
    rw [trim, String.toList_ofList] at hc
    exact isBlank_of_head?_trimChars hc
  rw [hurl, bareUrl_eq_ok_iff]
  constructor
  · rintro ⟨host, portText, port, hcut, hport, hne, h⟩
    have hcs := (splitPort?_eq_some hcut).1
    have hhostFirst := head?_of_splitPort? hcut hne hfirst
    have hle := le_of_portText hport
    obtain ⟨hsplit, address, haddress, rfl⟩ := (urlOf_eq_ok_iff (hplain _ _ hcut) hle).1 h
    refine ⟨host, port, address, isHost_of_splitPort hhostFirst haddress hcut hne hsplit, ?_,
      haddress, rfl, rfl, Url.effectivePort?_ofHost address port⟩
    rw [hcs]
    cases portText with
    | none =>
      cases hport
      simpa using Spells.host
    | some cs => exact .hostAndPort hport
  · rintro ⟨host, port, address, hhost, hspells, haddress, rfl, -⟩
    obtain ⟨portText, hcut, hport⟩ := exists_splitPort?_of_spells hhost hspells
    have hne := hhost.ne_nil
    have hhostFirst := head?_of_splitPort? hcut hne hfirst
    have hle := le_of_portText hport
    exact ⟨host, portText, port, hcut, hport, hne,
      (urlOf_eq_ok_iff (hplain _ _ hcut) hle).2
        ⟨splitPort_hostChars hhostFirst haddress hhost _, address, haddress, rfl⟩⟩

open Endpoint in
theorem bare_endpoint_of_address :
    hasScheme (trim " [FE80::A]:9300").toList = false ∧
      Endpoint.url " [FE80::A]:9300" =
        .ok ⟨"http", .none, some (.v6 [0xFE80, 0, 0, 0, 0, 0, 0, 0xA]), some 9300,
          .segments [""], none, none⟩ := by
  have htext : (trim " [FE80::A]:9300").toList =
      '[' :: ['F', 'E', '8', '0', ':', ':', 'A'] ++ [']'] ++ ':' :: ['9', '3', '0', '0'] := by
    decide +kernel
  have hhost : IsHost ('[' :: ['F', 'E', '8', '0', ':', ':', 'A'] ++ [']']) :=
    .address (by decide)
  have hspells : Spells ('[' :: ['F', 'E', '8', '0', ':', ':', 'A'] ++ [']']) 9300
      (trim " [FE80::A]:9300").toList := by
    rw [htext]
    exact .hostAndPort (by decide)
  have hbare : hasScheme (trim " [FE80::A]:9300").toList = false := by
    rw [htext]
    decide
  refine ⟨hbare, (bare_endpoints_are_hosts_and_ports hbare fun host portText hcut => ?_).2
    ⟨_, 9300, .v6 [0xFE80, 0, 0, 0, 0, 0, 0, 0xA], hhost, hspells, by decide +kernel, rfl, rfl,
      rfl⟩⟩
  rw [htext] at hcut
  cases hcut
  have hall : ('[' :: ['F', 'E', '8', '0', ':', ':', 'A'] ++ [']']).all (!isDelimiter ·) = true := by
    decide
  exact fun c hc => by simpa using List.all_eq_true.1 hall c hc

open Endpoint in
/-- With an at sign and a slash in its host an endpoint that is no host and port is accepted: the
user in front of the one becomes credentials, and the port behind the other a part of the path. -/
theorem endpoint_with_user_and_path :
    hasScheme (trim "admin@[::1]/es:9300").toList = false ∧
      (¬∃ host port, IsHost host ∧ Spells host port (trim "admin@[::1]/es:9300").toList) ∧
      ∃ url, Endpoint.url "admin@[::1]/es:9300" = .ok url ∧ url.credentials = ⟨"admin", ""⟩ ∧
        url.path.text = "/es:9300" ∧ url.effectivePort? = some 80 := by
  have htext : (trim "admin@[::1]/es:9300").toList =
      ['a', 'd', 'm', 'i', 'n', '@', '['] ++
        ':' :: [':', '1', ']', '/', 'e', 's', ':', '9', '3', '0', '0'] := by
    decide +kernel
  refine ⟨by rw [htext]; decide, ?_, ?_⟩
  · rintro ⟨host, port, hhost, hspells⟩
    rw [htext] at hspells
    cases hhost with
    | name hne hbracket hcolon =>
      generalize hcs : ['a', 'd', 'm', 'i', 'n', '@', '['] ++ ':' :: _ = cs at hspells
      cases hspells with
      | host =>
        rw [← hcs] at hcolon
        exact absurd hcolon (by decide)
      | hostAndPort hport =>
        obtain ⟨rfl, rfl⟩ := append_cons_inj (by decide) hcolon hcs
        exact colon_not_mem_of_portOf? hport (by decide)
    | address hbracket => cases hspells
  · refine ⟨⟨"http", ⟨"admin", ""⟩, some (.v6 [0, 0, 0, 0, 0, 0, 0, 1]), none,
      .segments ["es:9300"], none, none⟩, ?_, rfl, ?_, rfl⟩
    · decide +kernel
    · decide

end Logbook
