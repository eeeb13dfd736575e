import Logbook.Config.Endpoint
import Logbook.Json.Reader
import Logbook.Partition

/-!
# Configuration

Where the nodes are and who asks, how partitions are named, whether it is remembered which of them
exist, and what is written to a journal. Everything has a default. A configuration is read before
it is known whether its endpoints and its partitions make sense; that is a check of its own.
-/

set_option autoImplicit false

namespace Logbook

/-- How nodes are talked to. -/
inductive Protocol where
  | http
deriving DecidableEq, Repr

namespace Protocol

/-- The name of a protocol. -/
def name : Protocol → String
  | http => "http"

/-- The names of the protocols. -/
def names : List (String × Protocol) := [("http", http)]

end Protocol

/-- Where the nodes are, and who asks. -/
structure NodeConfig where
  endpoints : List String
  protocol : Protocol
  user : Option String
  password : Option String
  /-- How many seconds an answer may take. -/
  timeout : UInt64
deriving DecidableEq, Repr

/-- How partitions are named. -/
structure PartitionConfig where
  label : String
  offset : String
deriving DecidableEq, Repr

/-- Whether it is remembered which partitions exist, and for how many seconds. -/
structure CacheConfig where
  enabled : Bool
  lifetime : UInt64
deriving DecidableEq, Repr

/-- What is written to a journal, and how. -/
structure JournalConfig where
  level : String
  format : String
deriving DecidableEq, Repr

/-- A configuration. -/
structure Config where
  nodes : NodeConfig
  partitions : PartitionConfig
  cache : CacheConfig
  journal : JournalConfig
deriving DecidableEq, Repr

/-! ## Defaults -/

/-- A node on this machine. -/
def NodeConfig.default : NodeConfig := ⟨["localhost:9200"], .http, none, none, 30⟩

/-- Days of universal time. -/
def PartitionConfig.default : PartitionConfig := ⟨"gravitee", "+00:00"⟩

/-- Nothing is remembered. -/
def CacheConfig.default : CacheConfig := ⟨false, 300⟩

/-- A journal to be read by people. -/
def JournalConfig.default : JournalConfig := ⟨"info", "pretty"⟩

/-- The configuration where nothing is said. -/
def Config.default : Config := ⟨.default, .default, .default, .default⟩

/-! ## Checks -/

namespace NodeConfig

/-- The user and the password; a password alone means nothing. -/
def credentials? (nodes : NodeConfig) : Option (String × Option String) :=
  nodes.user.map fun user => (user, nodes.password)

end NodeConfig

namespace PartitionConfig

/-- The offset in which days are computed. -/
def offset? (partitions : PartitionConfig) : Except ConfigFault Offset :=
  match Offset.ofText? partitions.offset with
  | some offset => .ok offset
  | none => .error (.badOffset (trim partitions.offset))

/-- How partitions are named. -/
def scheme? (partitions : PartitionConfig) : Except ConfigFault PartitionScheme :=
  if trim partitions.label = "" then .error .blankLabel
  else do return ⟨partitions.label, ← partitions.offset?⟩

end PartitionConfig

namespace Config

/-- A configuration can be used when its endpoints are URLs and its partitions have names. -/
def check (config : Config) : Except ConfigFault Unit := do
  let _ ← Endpoint.urls config.nodes.endpoints
  let _ ← config.partitions.scheme?
  return ()

end Config

/-! ## As JSON -/

namespace Config

/-- A configuration as JSON. -/
def toJson (config : Config) : Json :=
  .record
    [("backend", .record
        [("endpoints", .ofList .string config.nodes.endpoints),
          ("protocol", .string config.nodes.protocol.name),
          ("username", .ofOption .string config.nodes.user),
          ("password", .ofOption .string config.nodes.password),
          ("timeout_secs", .ofUInt64 config.nodes.timeout)]),
      ("index", .record
        [("prefix", .string config.partitions.label),
          ("time_zone", .string config.partitions.offset)]),
      ("partition_cache", .record
        [("enabled", .bool config.cache.enabled), ("ttl_secs", .ofUInt64 config.cache.lifetime)]),
      ("logging", .record
        [("level", .string config.journal.level), ("format", .string config.journal.format)])]

end Config

/-- What differs between the formats in which configurations are written. -/
structure ConfigFormat where
  /-- The items of an array behind those of a record mean nothing. -/
  extraItems : Bool
  /-- A value that stands for nothing under the name of a choice. -/
  isNothing : Json → Bool

namespace ConfigFormat

/-- Configurations as JSON. -/
def json : ConfigFormat := ⟨false, Json.isNull⟩

variable {α : Type} (format : ConfigFormat)

/-- Reads a record of a given name. -/
def record (name : String) (r : FieldReader α) : Reader α :=
  if format.extraItems then r.leadingItems name else r.record name

/-- Reads where the nodes are. -/
def readNodes : Reader NodeConfig :=
  format.record "BackendConfig"
    (NodeConfig.mk <$>
      .withDefault "endpoints" (Reader.list Reader.string) NodeConfig.default.endpoints <*>
      .withDefault "protocol" (Reader.choice format.isNothing Protocol.names) .http <*>
      .optional "username" Reader.string <*>
      .optional "password" Reader.string <*>
      .withDefault "timeout_secs" Reader.uint64 NodeConfig.default.timeout)

/-- Reads how partitions are named. -/
def readPartitions : Reader PartitionConfig :=
  format.record "IndexConfig"
    (PartitionConfig.mk <$>
      .withDefault "prefix" Reader.string PartitionConfig.default.label <*>
      .withDefault "time_zone" Reader.string PartitionConfig.default.offset)

/-- Reads whether it is remembered which partitions exist. -/
def readCache : Reader CacheConfig :=
  format.record "PartitionCacheConfig"
    (CacheConfig.mk <$>
      .withDefault "enabled" Reader.bool CacheConfig.default.enabled <*>
      .withDefault "ttl_secs" Reader.uint64 CacheConfig.default.lifetime)

/-- Reads what is written to a journal. -/
def readJournal : Reader JournalConfig :=
  format.record "LoggingConfig"
    (JournalConfig.mk <$>
      .withDefault "level" Reader.string JournalConfig.default.level <*>
      .withDefault "format" Reader.string JournalConfig.default.format)

/-- Reads a configuration. -/
def read : Reader Config :=
  format.record "Config"
    (Config.mk <$>
      .withDefault "backend" format.readNodes NodeConfig.default <*>
      .withDefault "index" format.readPartitions PartitionConfig.default <*>
      .withDefault "partition_cache" format.readCache CacheConfig.default <*>
      .withDefault "logging" format.readJournal JournalConfig.default)

end ConfigFormat

end Logbook
