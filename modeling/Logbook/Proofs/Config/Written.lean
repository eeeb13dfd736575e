import Logbook.Command.Run
import Logbook.Proofs.Json.Fields
import Logbook.Proofs.Json.Written
import Logbook.Proofs.Toml.Document

/-!
# Configurations are read back as they were written

* `Config.document?_toText`: what is written of a configuration is the document of its tables, line
  by line.
* `Config.read_tables`: from its tables the configuration is read, each value under its own key.
* `Config.ofFile_toText`: so a saved file holds the configuration, which is then used or rejected
  for what it says.
* `saved_config_is_loaded`: all of this together.
-/

set_option autoImplicit false

namespace Logbook

open FieldReader Toml

namespace Config

/-! ## The tables of a configuration -/

/-- What the table of the nodes says. -/
def nodeEntries (nodes : NodeConfig) : List (String × Toml) :=
  [("endpoints", Toml.array (nodes.endpoints.map Toml.string)),
      ("protocol", Toml.string nodes.protocol.name)] ++
    (nodes.user.map fun text => ("username", Toml.string text)).toList ++
    (nodes.password.map fun text => ("password", Toml.string text)).toList ++
    [("timeout_secs", Toml.integer nodes.timeout.toNat)]

/-- The tables of the document of a configuration. -/
def tables (config : Config) : List (String × List (String × Toml)) :=
  [("backend", nodeEntries config.nodes),
    ("index", [("prefix", Toml.string config.partitions.label),
      ("time_zone", Toml.string config.partitions.offset)]),
    ("partition_cache", [("enabled", Toml.bool config.cache.enabled),
      ("ttl_secs", Toml.integer config.cache.lifetime.toNat)]),
    ("logging", [("level", Toml.string config.journal.level),
      ("format", Toml.string config.journal.format)])]

/-- What the lines of a configuration say. -/
def statements (config : Config) : List Statement :=
  [Statement.table ["backend"]] ++
    [Statement.assign ["endpoints"] (Toml.array (config.nodes.endpoints.map Toml.string))] ++
    [Statement.assign ["protocol"] (Toml.string config.nodes.protocol.name)] ++
    (config.nodes.user.map fun text => Statement.assign ["username"] (Toml.string text)).toList ++
    (config.nodes.password.map fun text =>
      Statement.assign ["password"] (Toml.string text)).toList ++
    [Statement.assign ["timeout_secs"] (Toml.integer config.nodes.timeout.toNat)] ++
    [Statement.table ["index"]] ++
    [Statement.assign ["prefix"] (Toml.string config.partitions.label)] ++
    [Statement.assign ["time_zone"] (Toml.string config.partitions.offset)] ++
    [Statement.table ["partition_cache"]] ++
    [Statement.assign ["enabled"] (Toml.bool config.cache.enabled)] ++
    [Statement.assign ["ttl_secs"] (Toml.integer config.cache.lifetime.toNat)] ++
    [Statement.table ["logging"]] ++
    [Statement.assign ["level"] (Toml.string config.journal.level)] ++
    [Statement.assign ["format"] (Toml.string config.journal.format)]

theorem says_toText {config : Config} (htimeout : config.nodes.timeout.toNat < 2 ^ 63)
    (hlifetime : config.cache.lifetime.toNat < 2 ^ 63) :
    Says config.toText config.statements := by
  unfold toText statements
  refine .append (.append (.append (.append (.append (.append (.append (.append (.append (.append
    (.append (.append (.append (.append ?_ ?_) ?_) ?_) ?_) ?_) ?_) ?_) ?_) ?_) ?_) ?_) ?_) ?_) ?_
  · exact .header (by decide +kernel) (by decide +kernel)
  · exact .line (by decide +kernel) (spells_list _)
  · exact .line (by decide +kernel) (spells_string _)
  · exact .optionalLine (by decide +kernel) _
  · exact .optionalLine (by decide +kernel) _
  · exact .line (by decide +kernel) (spells_nat htimeout)
  · exact .spacedHeader (by decide +kernel) (by decide +kernel)
  · exact .line (by decide +kernel) (spells_string _)
  · exact .line (by decide +kernel) (spells_string _)
  · exact .spacedHeader (by decide +kernel) (by decide +kernel)
  · exact .line (by decide +kernel) (spells_bool _)
  · exact .line (by decide +kernel) (spells_nat hlifetime)
  · exact .spacedHeader (by decide +kernel) (by decide +kernel)
  · exact .line (by decide +kernel) (spells_string _)
  · exact .line (by decide +kernel) (spells_string _)

theorem statementsOf_tables (config : Config) : statementsOf config.tables = config.statements := by
  cases hu : config.nodes.user <;> cases hp : config.nodes.password <;>
    simp [statementsOf, tables, nodeEntries, statements, hu, hp]

theorem nodup_nodeEntries (nodes : NodeConfig) : ((nodeEntries nodes).map Prod.fst).Nodup := by
  cases hu : nodes.user <;> cases hp : nodes.password <;> simp [nodeEntries, hu, hp]

theorem head?_toList_append {text : String} {c : Char} (h : text.toList.head? = some c)
    (more : String) : (text ++ more).toList.head? = some c := by
  rw [String.toList_append, List.head?_append, h, Option.some_or]

theorem head?_toText (config : Config) : config.toText.toList.head? = some '[' := by
  unfold toText
  iterate 14 apply head?_toList_append
  rfl

/-- The document that is written of a configuration. -/
theorem document?_toText {config : Config} (htimeout : config.nodes.timeout.toNat < 2 ^ 63)
    (hlifetime : config.cache.lifetime.toNat < 2 ^ 63) : document? config.toText =
      some (config.tables.map fun table => (table.1, .table table.2)) := by
  have hmark : config.toText.toList.head? ≠ some '\uFEFF' := by
    rw [head?_toText]
    decide
  have hkeys : ∀ table ∈ config.tables, (table.2.map Prod.fst).Nodup := by
    simp [tables, nodup_nodeEntries]
  rw [document?_of_lines (says_toText htimeout hlifetime) hmark, ← statementsOf_tables]
  exact document?_statementsOf (by simp [tables]) hkeys

/-! ## Reading the tables -/

/-- A text that may be absent is read from a field that may be. -/
theorem reads_optional_string {name : String} {fields : List (String × Json)} {o : Option String}
    (hfield : fields.lookup name = o.map .string) :
    (FieldReader.optional name Reader.string).Reads fields o := by
  cases o with
  | none => exact .withDefault_absent hfield
  | some text => exact .optional hfield rfl

theorem entriesToJson_eq_map (entries : List (String × Toml)) :
    entriesToJson entries = entries.map fun entry => (entry.1, entry.2.toJson) := by
  induction entries with
  | nil => rfl
  | cons entry entries ih => rw [entriesToJson, ih, List.map_cons]

theorem itemsToJson_eq_map (items : List Toml) : itemsToJson items = items.map Toml.toJson := by
  induction items with
  | nil => rfl
  | cons item items ih => rw [itemsToJson, ih, List.map_cons]

/-- A record is read from the entries of a table. -/
theorem record_table {α : Type} {r : FieldReader α} {entries : List (String × Toml)} {a : α}
    (h : r.Reads (entriesToJson entries) a) (hkeys : (entries.map Prod.fst).Nodup) (name : String) :
    ConfigFormat.toml.record name r (Toml.table entries).toJson = .ok a := by
  have hkeys : ((entriesToJson entries).map Prod.fst).Nodup := by
    rw [entriesToJson_eq_map, List.map_map]
    exact hkeys
  exact (readFields_eq_ok_iff h.byName hkeys).2 h.value

theorem readNodes_nodeEntries (nodes : NodeConfig) :
    ConfigFormat.toml.readNodes (Toml.table (nodeEntries nodes)).toJson = .ok nodes := by
  have hkeys := nodup_nodeEntries nodes
  obtain ⟨endpoints, protocol, user, password, timeout⟩ := nodes
  let fields := entriesToJson (nodeEntries ⟨endpoints, protocol, user, password, timeout⟩)
  have hendpoints : fields.lookup "endpoints" = some (.ofList .string endpoints) := by
    have hitems : itemsToJson (endpoints.map Toml.string) = endpoints.map Json.string := by
      rw [itemsToJson_eq_map, List.map_map]
      rfl
    exact congrArg (fun items => some (Json.array items)) hitems
  have hlist : Reader.list Reader.string (.ofList .string endpoints) = .ok endpoints :=
    Reader.list_ofList fun text _ => Reader.string_string text
  have huser : fields.lookup "username" = user.map .string := by
    cases user <;> cases password <;> rfl
  have hpassword : fields.lookup "password" = password.map .string := by
    cases user <;> cases password <;> rfl
  have htimeout : fields.lookup "timeout_secs" = some (.ofUInt64 timeout) := by
    cases user <;> cases password <;> rfl
  have hprotocol : Reader.choice ConfigFormat.toml.isNothing Protocol.names
      (.string protocol.name) = .ok protocol := Reader.choice_string (by cases protocol; rfl)
  refine record_table ?_ hkeys "BackendConfig"
  exact (((((Reads.withDefault hendpoints hlist).map NodeConfig.mk).seq
    (.withDefault rfl hprotocol)).seq (reads_optional_string huser)).seq
      (reads_optional_string hpassword)).seq
      (.withDefault htimeout (Reader.uint64_ofUInt64 timeout))

theorem readPartitions_table (partitions : PartitionConfig) :
    ConfigFormat.toml.readPartitions (Toml.table [("prefix", Toml.string partitions.label),
      ("time_zone", Toml.string partitions.offset)]).toJson = .ok partitions := by
  refine record_table ?_ (by simp) "IndexConfig"
  exact ((Reads.withDefault rfl (Reader.string_string _)).map PartitionConfig.mk).seq
    (.withDefault rfl (Reader.string_string _))

theorem readCache_table (cache : CacheConfig) :
    ConfigFormat.toml.readCache (Toml.table [("enabled", Toml.bool cache.enabled),
      ("ttl_secs", Toml.integer cache.lifetime.toNat)]).toJson = .ok cache := by
  have henabled : Reader.bool (.bool cache.enabled) = .ok cache.enabled := rfl
  refine record_table ?_ (by simp) "PartitionCacheConfig"
  exact ((Reads.withDefault rfl henabled).map CacheConfig.mk).seq
    (.withDefault rfl (Reader.uint64_ofUInt64 cache.lifetime))

theorem readJournal_table (journal : JournalConfig) :
    ConfigFormat.toml.readJournal (Toml.table [("level", Toml.string journal.level),
      ("format", Toml.string journal.format)]).toJson = .ok journal := by
  refine record_table ?_ (by simp) "LoggingConfig"
  exact ((Reads.withDefault rfl (Reader.string_string _)).map JournalConfig.mk).seq
    (.withDefault rfl (Reader.string_string _))

/-- From its tables a configuration is read. -/
theorem read_tables (config : Config) : ConfigFormat.toml.read
    (Toml.table (config.tables.map fun table => (table.1, .table table.2))).toJson =
      .ok config := by
  refine record_table ?_ (by simp [tables]) "Config"
  exact ((((Reads.withDefault rfl (readNodes_nodeEntries config.nodes)).map Config.mk).seq
    (.withDefault rfl (readPartitions_table config.partitions))).seq
    (.withDefault rfl (readCache_table config.cache))).seq
    (.withDefault rfl (readJournal_table config.journal))

theorem ofDocument?_toText {config : Config} (htimeout : config.nodes.timeout.toNat < 2 ^ 63)
    (hlifetime : config.cache.lifetime.toNat < 2 ^ 63) :
    ofDocument? config.toText = some config := by
  rw [ofDocument?, document?_toText htimeout hlifetime, Option.bind_some]
  exact Fallible.toOption_eq_some_iff.2 config.read_tables

/-- A configuration that was written is one, and it is used or rejected for what it says. -/
theorem ofFile_toText {config : Config} (htimeout : config.nodes.timeout.toNat < 2 ^ 63)
    (hlifetime : config.cache.lifetime.toNat < 2 ^ 63) :
    ofFile config.toText = match config.check with
      | .ok () => .ok config
      | .error fault => .error (.rejected fault) := by
  have hdocument := ofDocument?_toText htimeout hlifetime
  cases hcheck : config.check <;> simp only [ofFile, hdocument, hcheck]

theorem check_eq_ok_iff {config : Config} : config.check = .ok () ↔
    ∃ urls scheme, Endpoint.urls config.nodes.endpoints = .ok urls ∧
      config.partitions.scheme? = .ok scheme := by
  unfold check
  constructor
  · intro h
    obtain ⟨urls, hurls, h⟩ := Fallible.bind_eq_ok_iff.1 h
    obtain ⟨scheme, hscheme, -⟩ := Fallible.bind_eq_ok_iff.1 h
    exact ⟨urls, scheme, hurls, hscheme⟩
  · rintro ⟨urls, scheme, hurls, hscheme⟩
    rw [hurls, hscheme]
    rfl

theorem check_eq_error_of_urls {config : Config} {fault : ConfigFault}
    (h : Endpoint.urls config.nodes.endpoints = .error fault) : config.check = .error fault := by
  rw [check, h]
  rfl

theorem check_eq_error_of_scheme {config : Config} {urls : List Url} {fault : ConfigFault}
    (hurls : Endpoint.urls config.nodes.endpoints = .ok urls)
    (h : config.partitions.scheme? = .error fault) : config.check = .error fault := by
  rw [check, hurls, h]
  rfl

end Config

/-- **A configuration that was saved is loaded again.** -/
theorem saved_config_is_loaded {config : Config}
    (htimeout : config.nodes.timeout.toNat < 2 ^ 63)
    (hlifetime : config.cache.lifetime.toNat < 2 ^ 63) :
    ∃ text, config.toFile = .ok text ∧
      (∀ urls scheme, Endpoint.urls config.nodes.endpoints = .ok urls →
        config.partitions.scheme? = .ok scheme → Config.ofFile text = .ok config) ∧
      (∀ fault, Endpoint.urls config.nodes.endpoints = .error fault →
        Config.ofFile text = .error (.rejected fault)) ∧
      (∀ urls fault, Endpoint.urls config.nodes.endpoints = .ok urls →
        config.partitions.scheme? = .error fault → Config.ofFile text = .error (.rejected fault)) ∧
      ∀ {m : Type → Type} [Monad m] [LawfulMonad m] (surroundings : Surroundings m)
        (place path : String), expandHome surroundings.home place = .ok path →
          surroundings.fileAt path = pure (.text text) →
            surroundings.loadConfig (some place) = pure (Config.ofFile text) := by
  have hload := Config.ofFile_toText htimeout hlifetime
  refine ⟨config.toText, if_pos ⟨htimeout, hlifetime⟩, ?_, ?_, ?_, ?_⟩
  · intro urls scheme hurls hscheme
    rw [hload, Config.check_eq_ok_iff.2 ⟨urls, scheme, hurls, hscheme⟩]
  · intro fault h
    rw [hload, Config.check_eq_error_of_urls h]
  · intro urls fault hurls h
    rw [hload, Config.check_eq_error_of_scheme hurls h]
  · intro m _ _ surroundings place path hpath hfile
    rw [Surroundings.loadConfig, Option.getD_some, hpath]
    simp [hfile]

/-- Quotes of both kinds, backslashes, line breaks and control characters are saved. -/
theorem saved_config_is_loaded_of_hard_strings :
    let config : Config :=
      ⟨⟨["http://[::1]"], .http, some "it\x27s \x22quoted\x22\\",
          some "\x00\x7f\t line\nbreak \x27\x27\x27 \x22\x22\x22", 9223372036854775807⟩,
        ⟨"logs", "+05:30"⟩, ⟨true, 0⟩, ⟨"\x22\x22\n\x27", ""⟩⟩
    ∃ text, config.toFile = .ok text ∧ Config.ofFile text = .ok config := by
  intro config
  have hcheck : config.check = .ok () := by decide +kernel
  obtain ⟨urls, scheme, hurls, hscheme⟩ := Config.check_eq_ok_iff.1 hcheck
  have htimeout : config.nodes.timeout.toNat < 2 ^ 63 := by decide
  have hlifetime : config.cache.lifetime.toNat < 2 ^ 63 := by decide
  obtain ⟨text, htext, hload, -⟩ := saved_config_is_loaded htimeout hlifetime
  exact ⟨text, htext, hload urls scheme hurls hscheme⟩

end Logbook
