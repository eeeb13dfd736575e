import Logbook.Command.Run
import Logbook.Proofs.Partition.Reference
import Logbook.Proofs.Search.Refusal

/-!
# Where calls go

A node is called at the URL that a path means as a reference relative to the URL of the node. A
network that writes down what is called (`Network.recorded`) sees one call, or none where there is
no such URL (`Cluster.ask_recorded`). The call is below the path of the node, with all characters of
the path that is asked for, where this is a plain reference (`Url.below_isUnder_iff`). The paths of
the searches and partitions of a scheme are all plain, or none of them is, by the label of the
scheme: `calls_are_under_node_iff_plain_label`.
-/

set_option autoImplicit false

namespace Logbook

namespace Url

open Percent

/-- The text of a path with a slash at its end. -/
def folderText (path : String) : String :=
  if path.toList.getLast? = some '/' then path else path ++ "/"

/-- A URL on the same node as another one, at the path that this has, with one slash behind it and
then the characters of a relative path, encoded where a path does not hold them. -/
structure IsUnder (url node : Url) (path : String) : Prop where
  scheme : url.scheme = node.scheme
  host : url.host = node.host
  port : url.port = node.port
  path : url.path.text = folderText node.path.text ++ encode inPath path.toList

section
variable {node url : Url} {rest : List Char}

/-- The path of a folder is that of its URL with one slash at its end. -/
theorem exists_asFolder (hpath : node.path = .segments (segmentsOf .special [] rest)) :
    ∃ above, node.asFolder = { node with path := .segments (above ++ [""]) } ∧
      (UrlPath.segments (above ++ [""])).text = folderText node.path.text := by
  have hslash := slash_not_mem_segmentsOf special_ne_file rest
  have hne := segmentsOf_ne_nil .special [] rest
  generalize segmentsOf .special [] rest = parts at hpath hslash hne
  obtain ⟨above, last, hparts⟩ := (List.eq_nil_or_concat parts).resolve_left hne
  rw [List.concat_eq_append] at hparts
  subst hparts
  have htext : node.path.text.toList = pathChars above ++ '/' :: last.toList := by
    rw [hpath, toList_text_segments, pathChars_append]
    simp
  by_cases hlast : last = ""
  · subst hlast
    have hend : node.path.text.toList.getLast? = some '/' := by
      rw [htext]
      exact List.getLast?_concat
    refine ⟨above, ?_, ?_⟩
    · unfold asFolder
      simp only [hpath, List.getLast?_concat, if_true]
      rw [← hpath]
    · rw [folderText, if_pos hend, hpath]
  · have hend : node.path.text.toList.getLast? ≠ some '/' := by
      rw [htext, List.getLast?_append_of_ne_nil _ (List.cons_ne_nil _ _),
        List.getLast?_cons_of_ne_nil (by simpa using hlast)]
      intro hmem
      exact hslash last (by simp) (List.mem_of_getLast? hmem)
    refine ⟨above ++ [last], ?_, ?_⟩
    · unfold asFolder
      simp [hpath, hlast]
    · rw [folderText, if_neg hend, ← String.toList_inj, toList_text_segments, String.toList_append,
        htext]
      simp

/-- A path is asked for below a node just where it is a plain reference. -/
theorem below_isUnder_iff (hkind : kindOf node.scheme = .special)
    (hpath : node.path = .segments (segmentsOf .special [] rest)) {path : String}
    (hne : path.toList ≠ []) :
    (∃ url, node.below path = .ok url ∧ url.IsUnder node path) ↔ IsPlain path.toList := by
  obtain ⟨above, hfolder, htext⟩ := exists_asFolder hpath
  have hbelow (url : Url) : node.below path = .ok url ↔ node.asFolder.join path = .ok url := by
    unfold below
    cases node.asFolder.join path <;> simp
  have hkind' : kindOf node.asFolder.scheme = .special := by rwa [hfolder]
  have hpath' : node.asFolder.path = .segments (above ++ [""]) := by rw [hfolder]
  rw [← join_iff_isPlain hkind' hpath' hne]
  refine exists_congr fun url => and_congr (hbelow url) ?_
  rw [hfolder]
  constructor
  · rintro ⟨hscheme, hhost, hport, hchars⟩
    refine ⟨hscheme, hhost, hport, ?_⟩
    rw [htext, hchars, String.toList_append, toList_encode]
  · rintro ⟨hscheme, hhost, hport, hchars⟩
    refine ⟨hscheme, hhost, hport, ?_⟩
    rw [← String.toList_inj, ← htext, hchars, String.toList_append, toList_encode]

end

end Url

/-! ## Nodes -/

/-- The URL of an endpoint is one that a text writes. -/
theorem Endpoint.exists_ofText {text : String} {url : Url} (h : Endpoint.url text = .ok url) :
    ∃ written, Url.ofText written = .ok url := by
  unfold Endpoint.url at h
  dsimp only at h
  split at h
  · split at h
    · rename_i hurl
      cases h
      exact ⟨_, hurl⟩
    · cases h
  · unfold bareUrl at h
    split at h
    · cases h
    · split at h
      · cases h
      · split at h
        · cases h
        · unfold urlOf at h
          dsimp only at h
          split at h
          · rename_i hurl
            cases h
            exact ⟨_, hurl⟩
          · cases h

namespace Cluster

theorem node_mem (cluster : Cluster) (calls : Nat) :
    cluster.node calls ∈ cluster.first :: cluster.others := by
  have hlt : calls % (cluster.others.length + 1) < (cluster.first :: cluster.others).length :=
    Nat.mod_lt _ (Nat.succ_pos _)
  unfold node
  rw [List.getD_eq_getElem?_getD, List.getElem?_eq_getElem hlt]
  exact List.getElem_mem hlt

end Cluster

/-- Every node of a configured cluster is at a URL that one of the endpoints writes. -/
theorem Config.exists_endpoint_of_node {config : Config} {cluster : Cluster}
    (h : config.cluster? = .ok cluster) (calls : Nat) :
    ∃ text ∈ config.nodes.endpoints, Endpoint.url text = .ok (cluster.node calls) := by
  obtain ⟨urls, hurls, h⟩ := Fallible.bind_eq_ok_iff.1 h
  have hmem := cluster.node_mem calls
  unfold Cluster.ofUrls at h
  cases urls with
  | nil => cases h
  | cons first others =>
    cases h
    unfold Endpoint.urls at hurls
    split at hurls
    · cases hurls
    · exact Fallible.exists_mem_of_mapM_eq_ok hurls hmem

/-! ## Calls -/

/-- A network that writes down the calls that reach it. -/
def Network.recorded (answer : Call → Option Reply) : Network (StateM (List Call)) :=
  fun call calls => (answer call, calls ++ [call])

namespace Cluster

/-- The calls that a cluster makes for one question to its backend, after a number of calls. -/
def callsOf {α : Type} (cluster : Cluster) (answer : Call → Option Reply) (calls : Nat)
    (ask : Backend (StateT Nat (StateM (List Call))) → StateT Nat (StateM (List Call)) α) :
    List Call :=
  (ask (cluster.backend (.recorded answer)) calls []).2

section
variable (cluster : Cluster) (answer : Call → Option Reply) (calls : Nat)

theorem bind_recorded {α β : Type} (x : StateT Nat (StateM (List Call)) α)
    (f : α → StateT Nat (StateM (List Call)) β) (calls : Nat) (seen : List Call) :
    (x >>= f) calls seen = f (x calls seen).1.1 (x calls seen).1.2 (x calls seen).2 := rfl

/-- What is made of a result calls nobody. -/
theorem snd_bind_pure {α β : Type} (x : StateT Nat (StateM (List Call)) α) (f : α → β)
    (calls : Nat) (seen : List Call) :
    ((do return f (← x) : StateT Nat (StateM (List Call)) β) calls seen).2 = (x calls seen).2 := by
  rw [bind_recorded]
  rfl

/-- A node is called once, unless there is no URL at which it could be asked. -/
theorem ask_recorded (method : Method) (path : String) (query : Option String)
    (body : Option Json) (seen : List Call) :
    ((cluster.ask (.recorded answer) method path query body calls) seen).2 =
      seen ++ ((cluster.node calls).below path).toOption.toList.map fun url =>
        cluster.call method (if query.isSome then { url with query } else url) body := by
  have hturn : (modifyGet fun calls => (calls, calls + 1) : StateT Nat (StateM (List Call)) Nat)
      calls seen = ((calls, calls + 1), seen) := rfl
  rw [ask, bind_recorded, hturn]
  dsimp only
  cases (cluster.node calls).below path with
  | error fault => exact (List.append_nil seen).symm
  | ok url =>
    dsimp only
    rw [bind_recorded]
    change _ = seen ++ [cluster.call method (if query.isSome then { url with query } else url) body]
    generalize cluster.call method (if query.isSome then { url with query } else url) body = call
    have hcall : (liftM (Network.recorded answer call) :
        StateT Nat (StateM (List Call)) (Option Reply)) (calls + 1) seen =
          ((answer call, calls + 1), seen ++ [call]) := rfl
    rw [hcall]
    -- the reply decides what is made of the call, not what was called
    cases answer call <;> rfl

/-- The URL of the one call that is made at a path. -/
theorem exists_callsOf_iff {α : Type}
    {ask : Backend (StateT Nat (StateM (List Call))) → StateT Nat (StateM (List Call)) α}
    {method : Method} {path : String} {query : Option String} {body : Option Json}
    (hask : cluster.callsOf answer calls ask =
      ((cluster.ask (.recorded answer) method path query body calls) []).2) (node : Url) :
    (∃ call, cluster.callsOf answer calls ask = [call] ∧ call.url.IsUnder node path) ↔
      ∃ url, (cluster.node calls).below path = .ok url ∧ url.IsUnder node path := by
  rw [hask, ask_recorded, List.nil_append]
  cases (cluster.node calls).below path with
  | error fault => simp [Except.toOption]
  | ok url =>
    constructor
    · rintro ⟨call, hcall, hunder⟩
      cases hcall
      refine ⟨url, rfl, ?_⟩
      cases query <;> exact ⟨hunder.scheme, hunder.host, hunder.port, hunder.path⟩
    · rintro ⟨_, ⟨⟩, hunder⟩
      refine ⟨_, rfl, ?_⟩
      cases query <;> exact ⟨hunder.scheme, hunder.host, hunder.port, hunder.path⟩

theorem callsOf_search (search : Search) : cluster.callsOf answer calls (·.search search) =
    ((cluster.ask (.recorded answer) .post search.path (some Search.pathQuery)
      (some search.toBody) calls) []).2 :=
  snd_bind_pure _ _ _ _

/-- A search that no node can be asked for is not called. -/
theorem callsOf_search_of_error {search : Search} {fault : BackendFault}
    (h : (cluster.node calls).below search.path = .error fault) :
    cluster.callsOf answer calls (·.search search) = [] := by
  rw [callsOf_search, ask_recorded, h]
  rfl

theorem callsOf_hasPartition (name : String) : cluster.callsOf answer calls (·.hasPartition name) =
    ((cluster.ask (.recorded answer) .head name none none calls) []).2 :=
  snd_bind_pure _ _ _ _

end

end Cluster

/-! ## Searches -/

namespace Search

open Url

/-- The searches that are made with a scheme: what a query or an identifier comes down to, also with
partitions left out, or with all of them where none would be left. -/
inductive IsOf (scheme : PartitionScheme) : Search → Prop where
  | ofQuery {kind : DocumentKind} {query : Query} {search : Search}
      (h : Search.ofQuery scheme kind query = .ok search) : IsOf scheme search
  | byId (kind : DocumentKind) (id : String) : IsOf scheme (.byId scheme kind id)
  | latestMonitoring {gateway : String} {now : Int64} {search : Search}
      (h : Search.latestMonitoring scheme gateway now = .ok search) : IsOf scheme search
  | narrowed {search : Search} {kept : List String} (h : IsOf scheme search)
      (hkept : kept ⊆ search.partitions) :
      IsOf scheme
        { search with partitions := if kept.isEmpty then [scheme.everyPartition] else kept }

section
variable {scheme : PartitionScheme} {search : Search}

theorem IsOf.ne_nil (h : search.IsOf scheme) : search.partitions ≠ [] := by
  cases h with
  | ofQuery h =>
    obtain ⟨-, hpartitions, -⟩ := ofQuery_ok h
    exact PartitionScheme.partitionsOf_ne_nil hpartitions
  | byId => exact List.cons_ne_nil _ _
  | latestMonitoring h =>
    obtain ⟨today, -, hpartitions⟩ := partitions_of_latestMonitoring h
    rw [hpartitions]
    exact List.cons_ne_nil _ _
  | @narrowed search kept h hkept =>
    cases kept with
    | nil => exact List.cons_ne_nil _ _
    | cons name kept => exact List.cons_ne_nil _ _

/-- A search names partitions of its scheme. -/
theorem IsOf.isName (h : search.IsOf scheme) :
    ∀ name ∈ search.partitions, scheme.IsName name := by
  induction h with
  | ofQuery h =>
    obtain ⟨-, hpartitions, -⟩ := ofQuery_ok h
    exact fun name hname => PartitionScheme.isName_of_mem_partitionsOf hpartitions hname
  | byId => exact fun name hname => .inl (List.mem_singleton.1 hname)
  | latestMonitoring h =>
    intro name hname
    obtain ⟨today, htoday, hpartitions⟩ := partitions_of_latestMonitoring h
    rw [hpartitions] at hname
    obtain rfl := List.mem_singleton.1 hname
    obtain ⟨day, -, rfl⟩ := PartitionScheme.partitionAt?_eq_some_iff.1 htoday
    exact .inr ⟨day, rfl⟩
  | @narrowed search kept _ hkept ih =>
    intro name hname
    cases kept with
    | nil => exact .inl (List.mem_singleton.1 hname)
    | cons first rest => exact ih name (hkept hname)

theorem toList_path_ne_nil (search : Search) : search.path.toList ≠ [] := by
  simp [path]

theorem isPlain_path_iff (hlabel : scheme.label.toList ≠ []) (hne : search.partitions ≠ [])
    (hnames : ∀ name ∈ search.partitions, scheme.IsName name) :
    IsPlain search.path.toList ↔ IsPlainLabel scheme.label.toList := by
  have hlist := PartitionScheme.namesIn_intercalate hne hnames
  have hpath : search.path.toList = (String.intercalate "," search.partitions).toList ++
      '/' :: (search.kind.name.toList ++ "/_search".toList) := by
    simp [path, partitionList]
  obtain ⟨rest, hrest⟩ := hlist.exists_eq
  rw [hpath]
  constructor
  · intro h
    rw [hrest, List.append_assoc, List.cons_append] at h
    exact isPlainLabel_of_isPlain hlabel h
  · intro h
    refine isPlain_append_slash (isPlain_of_namesIn hlabel h hlist) hlist.ne_nil ?_ ?_
    · rw [← List.all_eq_true]
      cases search.kind <;> decide
    · cases search.kind <;> decide

end

end Search

theorem PartitionScheme.isPlain_name_iff {scheme : PartitionScheme} {name : String}
    (hlabel : scheme.label.toList ≠ []) (hname : scheme.IsName name) :
    Url.IsPlain name.toList ↔ Url.IsPlainLabel scheme.label.toList := by
  have hlist := PartitionScheme.namesIn_of_isName hname
  constructor
  · intro h
    obtain ⟨rest, hrest⟩ := hlist.exists_eq
    rw [hrest] at h
    exact Url.isPlainLabel_of_isPlain hlabel h
  · intro h
    exact Url.isPlain_of_namesIn hlabel h hlist

theorem PartitionConfig.label_of_scheme? {partitions : PartitionConfig} {scheme : PartitionScheme}
    (h : partitions.scheme? = .ok scheme) :
    scheme.label.toList ≠ [] ∧ partitions.label = scheme.label := by
  unfold scheme? at h
  split at h
  · cases h
  · rename_i hblank
    obtain ⟨offset, -, h⟩ := Fallible.bind_eq_ok_iff.1 h
    cases h
    refine ⟨fun hnil => hblank ?_, rfl⟩
    have hempty : partitions.label = "" := String.toList_eq_nil_iff.1 hnil
    rw [hempty]
    rfl

/-- **The calls of a cluster go where its nodes are just where the label of the partitions is
plain.** Then a search, and a question after any partition of it, is one call on the node whose turn
it is, below the path of the node, and with the characters of the path that was asked for. With any
other label there is no such call, for no search. -/
theorem calls_are_under_node_iff_plain_label {config : Config} {cluster : Cluster}
    {scheme : PartitionScheme} (hcluster : config.cluster? = .ok cluster)
    (hscheme : config.partitions.scheme? = .ok scheme) {calls : Nat}
    (hweb : (cluster.node calls).scheme = "http" ∨ (cluster.node calls).scheme = "https")
    {search : Search} (hsearch : search.IsOf scheme) (answer : Call → Option Reply) :
    ((∃ call, cluster.callsOf answer calls (·.search search) = [call] ∧
        call.url.IsUnder (cluster.node calls) search.path) ↔
      Url.IsPlainLabel config.partitions.label.toList) ∧
    ∀ name ∈ search.partitions,
      (∃ call, cluster.callsOf answer calls (·.hasPartition name) = [call] ∧
        call.url.IsUnder (cluster.node calls) name) ↔
      Url.IsPlainLabel config.partitions.label.toList := by
  obtain ⟨hlabel, hsame⟩ := PartitionConfig.label_of_scheme? hscheme
  have hkind : Url.kindOf (cluster.node calls).scheme = .special := by
    rcases hweb with heq | heq <;> rw [heq] <;> decide
  obtain ⟨text, -, hnode⟩ := Config.exists_endpoint_of_node hcluster calls
  obtain ⟨written, hwritten⟩ := Endpoint.exists_ofText hnode
  obtain ⟨rest, hpath⟩ := Url.path_of_ofText hwritten hkind
  rw [hsame]
  refine ⟨?search, fun name hname => ?probe⟩
  case search =>
    have hplain := Search.isPlain_path_iff hlabel hsearch.ne_nil hsearch.isName
    rw [cluster.exists_callsOf_iff answer calls (cluster.callsOf_search answer calls search),
      Url.below_isUnder_iff hkind hpath search.toList_path_ne_nil, hplain]
  case probe =>
    have hplain := PartitionScheme.isPlain_name_iff hlabel (hsearch.isName name hname)
    have hne := (PartitionScheme.namesIn_of_isName (hsearch.isName name hname)).ne_nil
    rw [cluster.exists_callsOf_iff answer calls (cluster.callsOf_hasPartition answer calls name),
      Url.below_isUnder_iff hkind hpath hne, hplain]

/-- A label with a blank and a slash is plain: the blank is encoded and the slash is a slash. -/
theorem calls_are_under_node_of_blank_and_slash :
    let config : Config :=
      ⟨⟨["http://[::1]:9200/es"], .http, none, none, 30⟩, ⟨"tenant 1/logs", "+00:00"⟩, .default,
        .default⟩
    let node : Url :=
      ⟨"http", .none, some (.v6 [0, 0, 0, 0, 0, 0, 0, 1]), some 9200, .segments ["es"], none, none⟩
    let scheme : PartitionScheme := ⟨"tenant 1/logs", .utc⟩
    let search : Search := .byId scheme .request "1"
    let cluster : Cluster := ⟨node, [], none⟩
    config.cluster? = .ok cluster ∧ config.partitions.scheme? = .ok scheme ∧
      (∃ call, cluster.callsOf (fun _ => none) 0 (·.search search) = [call] ∧
        call.url.scheme = "http" ∧ call.url.host = node.host ∧ call.url.port = some 9200 ∧
        call.url.path.text = "/es/tenant%201/logs-*/request/_search") ∧
      ∃ call, cluster.callsOf (fun _ => none) 0 (·.hasPartition "tenant 1/logs-*") = [call] ∧
        call.url.path.text = "/es/tenant%201/logs-*" := by
  intro config node scheme search cluster
  have hurls : Endpoint.urls config.nodes.endpoints = .ok [node] := by decide +kernel
  have hcluster : config.cluster? = .ok cluster := by
    unfold Config.cluster?
    rw [hurls]
    rfl
  have hscheme : config.partitions.scheme? = .ok scheme := by decide +kernel
  have hplain : Url.IsPlainLabel config.partitions.label.toList := by decide +kernel
  have hweb : (cluster.node 0).scheme = "http" := rfl
  obtain ⟨hsearch, hprobe⟩ := calls_are_under_node_iff_plain_label hcluster hscheme (.inl hweb)
    (.byId .request "1") fun _ => none
  obtain ⟨call, hcall, hunder⟩ := hsearch.2 hplain
  obtain ⟨probe, hcall', hunder'⟩ := (hprobe "tenant 1/logs-*" (by decide)).2 hplain
  refine ⟨hcluster, hscheme, ⟨call, hcall, hunder.scheme, hunder.host, hunder.port, ?_⟩,
    probe, hcall', ?_⟩
  · rw [hunder.path]
    decide +kernel
  · rw [hunder'.path]
    decide +kernel

/-- A label that begins with two slashes is read as the name of a node, and where it is none there
is no call at all. -/
theorem no_call_with_slashes_and_bracket :
    ∃ (config : Config) (cluster : Cluster) (scheme : PartitionScheme) (search : Search),
      config.nodes.endpoints = ["http://[::1]:1/es"] ∧ config.partitions.label = "//[" ∧
        config.cluster? = .ok cluster ∧ config.partitions.scheme? = .ok scheme ∧
        Search.ofQuery scheme .request ⟨⟨none, none, none⟩, .count⟩ = .ok search ∧
        (cluster.node 0).scheme = "http" ∧
        ∀ answer, cluster.callsOf answer 0 (·.search search) = [] := by
  let node : Url :=
    ⟨"http", .none, some (.v6 [0, 0, 0, 0, 0, 0, 0, 1]), some 1, .segments ["es"], none, none⟩
  have hurls : Endpoint.urls ["http://[::1]:1/es"] = .ok [node] := by decide +kernel
  have hbelow : node.below "//[-*/request/_search" =
      .error (.badTarget "//[-*/request/_search" .badIpv6) := by decide +kernel
  refine ⟨⟨⟨["http://[::1]:1/es"], .http, none, none, 30⟩, ⟨"//[", "+00:00"⟩, .default, .default⟩,
    ⟨node, [], none⟩, ⟨"//[", .utc⟩, _, rfl, rfl, ?cluster, by decide +kernel, rfl, rfl, ?calls⟩
  case cluster =>
    unfold Config.cluster?
    rw [hurls]
    rfl
  case calls =>
    intro answer
    exact Cluster.callsOf_search_of_error _ answer 0 hbelow

/-- Where slashes are followed by an address, it is called in the place of the node. -/
example :
    ((⟨"http", .none, some (.v6 [0, 0, 0, 0, 0, 0, 0, 1]), some 1, .segments ["es"], none, none⟩ :
      Url).below "//[::2]/logs-*/request/_search").toOption.map (fun url => (url.host, url.path)) =
      some (some (.v6 [0, 0, 0, 0, 0, 0, 0, 2]),
        .segments ["logs-*", "request", "_search"]) := by
  decide +kernel

end Logbook
