import Logbook.Document.Basic

/-!
# Monitoring documents

Each gateway reports the state of its machine from time to time. Only the gateway and the instant
are required; a section or a counter that is absent counts as zero.
-/

set_option autoImplicit false

namespace Logbook

/-- How busy the processors are: a percentage, and the load by length of time. -/
structure Processor where
  percent : Int64
  loadAverage : Keyed Binary64
deriving DecidableEq

namespace Processor

/-- Nothing was reported. -/
def unknown : Processor := ⟨0, .empty⟩

/-- Reads what was reported. -/
def read : Reader Processor :=
  FieldReader.record "CpuStats"
    (mk <$> .withDefault "percent" Reader.int64 0 <*>
      .withDefault "load_average" (Reader.keyed Reader.binary64) .empty)

/-- What was reported as JSON. -/
def toJson (x : Processor) : Json :=
  .record
    [("percent", .ofInt64 x.percent),
      ("load_average", .ofMap .ofBinary64 x.loadAverage)]

end Processor

/-- The memory of the machine. -/
structure SystemMemory where
  used : UInt64
  free : UInt64
  total : UInt64
  usedPercent : Int64
  freePercent : Int64
deriving DecidableEq

namespace SystemMemory

/-- Nothing was reported. -/
def unknown : SystemMemory := ⟨0, 0, 0, 0, 0⟩

/-- Reads what was reported. -/
def read : Reader SystemMemory :=
  FieldReader.record "OsMemory"
    (mk <$> .withDefault "used_in_bytes" Reader.uint64 0 <*>
      .withDefault "free_in_bytes" Reader.uint64 0 <*>
      .withDefault "total_in_bytes" Reader.uint64 0 <*>
      .withDefault "used_percent" Reader.int64 0 <*>
      .withDefault "free_percent" Reader.int64 0)

/-- What was reported as JSON. -/
def toJson (x : SystemMemory) : Json :=
  .record
    [("used_in_bytes", .ofUInt64 x.used),
      ("free_in_bytes", .ofUInt64 x.free),
      ("total_in_bytes", .ofUInt64 x.total),
      ("used_percent", .ofInt64 x.usedPercent),
      ("free_percent", .ofInt64 x.freePercent)]

end SystemMemory

/-- The state of the machine. -/
structure System where
  processor : Processor
  memory : SystemMemory
deriving DecidableEq

namespace System

/-- Nothing was reported. -/
def unknown : System := ⟨.unknown, .unknown⟩

/-- Reads what was reported. -/
def read : Reader System :=
  FieldReader.record "OsStats"
    (mk <$> .withDefault "cpu" Processor.read .unknown <*>
      .withDefault "mem" SystemMemory.read .unknown)

/-- What was reported as JSON. -/
def toJson (x : System) : Json :=
  .record
    [("cpu", x.processor.toJson),
      ("mem", x.memory.toJson)]

end System

/-- The files that the process has open, and how many it may have. -/
structure ProcessFiles where
  openFiles : Int64
  maxFiles : Int64
deriving DecidableEq

namespace ProcessFiles

/-- Nothing was reported. -/
def unknown : ProcessFiles := ⟨0, 0⟩

/-- Reads what was reported. -/
def read : Reader ProcessFiles :=
  FieldReader.record "ProcessStats"
    (mk <$> .withDefault "open_file_descriptors" Reader.int64 0 <*>
      .withDefault "max_file_descriptors" Reader.int64 0)

/-- What was reported as JSON. -/
def toJson (x : ProcessFiles) : Json :=
  .record
    [("open_file_descriptors", .ofInt64 x.openFiles),
      ("max_file_descriptors", .ofInt64 x.maxFiles)]

end ProcessFiles

/-- One pool of memory. -/
structure MemoryPool where
  used : UInt64
  max : UInt64
  peakUsed : UInt64
  peakMax : UInt64
deriving DecidableEq

namespace MemoryPool

/-- Nothing was reported. -/
def unknown : MemoryPool := ⟨0, 0, 0, 0⟩

/-- Reads what was reported. -/
def read : Reader MemoryPool :=
  FieldReader.record "MemoryPool"
    (mk <$> .withDefault "used_in_bytes" Reader.uint64 0 <*>
      .withDefault "max_in_bytes" Reader.uint64 0 <*>
      .withDefault "peak_used_in_bytes" Reader.uint64 0 <*>
      .withDefault "peak_max_in_bytes" Reader.uint64 0)

/-- What was reported as JSON. -/
def toJson (x : MemoryPool) : Json :=
  .record
    [("used_in_bytes", .ofUInt64 x.used),
      ("max_in_bytes", .ofUInt64 x.max),
      ("peak_used_in_bytes", .ofUInt64 x.peakUsed),
      ("peak_max_in_bytes", .ofUInt64 x.peakMax)]

end MemoryPool

/-- The pools of memory by the age of what they hold. -/
structure MemoryPools where
  young : MemoryPool
  old : MemoryPool
  survivor : MemoryPool
deriving DecidableEq

namespace MemoryPools

/-- Nothing was reported. -/
def unknown : MemoryPools := ⟨.unknown, .unknown, .unknown⟩

/-- Reads what was reported. -/
def read : Reader MemoryPools :=
  FieldReader.record "MemoryPools"
    (mk <$> .withDefault "young" MemoryPool.read .unknown <*>
      .withDefault "old" MemoryPool.read .unknown <*>
      .withDefault "survivor" MemoryPool.read .unknown)

/-- What was reported as JSON. -/
def toJson (x : MemoryPools) : Json :=
  .record
    [("young", x.young.toJson),
      ("old", x.old.toJson),
      ("survivor", x.survivor.toJson)]

end MemoryPools

/-- The memory of the virtual machine. -/
structure MachineMemory where
  heapUsed : UInt64
  heapUsedPercent : Int64
  heapCommitted : UInt64
  heapMax : UInt64
  otherUsed : UInt64
  otherCommitted : UInt64
  pools : MemoryPools
deriving DecidableEq

namespace MachineMemory

/-- Nothing was reported. -/
def unknown : MachineMemory := ⟨0, 0, 0, 0, 0, 0, .unknown⟩

/-- Reads what was reported. -/
def read : Reader MachineMemory :=
  FieldReader.record "JvmMemory"
    (mk <$> .withDefault "heap_used_in_bytes" Reader.uint64 0 <*>
      .withDefault "heap_used_percent" Reader.int64 0 <*>
      .withDefault "heap_committed_in_bytes" Reader.uint64 0 <*>
      .withDefault "heap_max_in_bytes" Reader.uint64 0 <*>
      .withDefault "non_heap_used_in_bytes" Reader.uint64 0 <*>
      .withDefault "non_heap_committed_in_bytes" Reader.uint64 0 <*>
      .withDefault "pools" MemoryPools.read .unknown)

/-- What was reported as JSON. -/
def toJson (x : MachineMemory) : Json :=
  .record
    [("heap_used_in_bytes", .ofUInt64 x.heapUsed),
      ("heap_used_percent", .ofInt64 x.heapUsedPercent),
      ("heap_committed_in_bytes", .ofUInt64 x.heapCommitted),
      ("heap_max_in_bytes", .ofUInt64 x.heapMax),
      ("non_heap_used_in_bytes", .ofUInt64 x.otherUsed),
      ("non_heap_committed_in_bytes", .ofUInt64 x.otherCommitted),
      ("pools", x.pools.toJson)]

end MachineMemory

/-- The threads, now and at most. -/
structure Threads where
  count : Int64
  peak : Int64
deriving DecidableEq

namespace Threads

/-- Nothing was reported. -/
def unknown : Threads := ⟨0, 0⟩

/-- Reads what was reported. -/
def read : Reader Threads :=
  FieldReader.record "ThreadStats"
    (mk <$> .withDefault "count" Reader.int64 0 <*>
      .withDefault "peak_count" Reader.int64 0)

/-- What was reported as JSON. -/
def toJson (x : Threads) : Json :=
  .record
    [("count", .ofInt64 x.count),
      ("peak_count", .ofInt64 x.peak)]

end Threads

/-- How often a garbage collector ran, and for how long. -/
structure Collector where
  runs : UInt64
  millis : UInt64
deriving DecidableEq

namespace Collector

/-- Nothing was reported. -/
def unknown : Collector := ⟨0, 0⟩

/-- Reads what was reported. -/
def read : Reader Collector :=
  FieldReader.record "CollectorStats"
    (mk <$> .withDefault "collection_count" Reader.uint64 0 <*>
      .withDefault "collection_time_in_millis" Reader.uint64 0)

/-- What was reported as JSON. -/
def toJson (x : Collector) : Json :=
  .record
    [("collection_count", .ofUInt64 x.runs),
      ("collection_time_in_millis", .ofUInt64 x.millis)]

end Collector

/-- The garbage collectors by name. -/
structure Garbage where
  collectors : Keyed Collector
deriving DecidableEq

namespace Garbage

/-- Nothing was reported. -/
def unknown : Garbage := ⟨.empty⟩

/-- Reads what was reported. -/
def read : Reader Garbage :=
  FieldReader.record "GcStats"
    (mk <$> .withDefault "collectors" (Reader.keyed Collector.read) .empty)

/-- What was reported as JSON. -/
def toJson (x : Garbage) : Json :=
  .record
    [("collectors", .ofMap Collector.toJson x.collectors)]

end Garbage

/-- The state of the virtual machine. -/
structure VirtualMachine where
  uptime : UInt64
  instant : Int64
  memory : MachineMemory
  threads : Threads
  garbage : Garbage
deriving DecidableEq

namespace VirtualMachine

/-- Nothing was reported. -/
def unknown : VirtualMachine := ⟨0, 0, .unknown, .unknown, .unknown⟩

/-- Reads what was reported. -/
def read : Reader VirtualMachine :=
  FieldReader.record "JvmStats"
    (mk <$> .withDefault "uptime_in_millis" Reader.uint64 0 <*>
      .withDefault "timestamp" Reader.int64 0 <*>
      .withDefault "mem" MachineMemory.read .unknown <*>
      .withDefault "threads" Threads.read .unknown <*>
      .withDefault "gc" Garbage.read .unknown)

/-- What was reported as JSON. -/
def toJson (x : VirtualMachine) : Json :=
  .record
    [("uptime_in_millis", .ofUInt64 x.uptime),
      ("timestamp", .ofInt64 x.instant),
      ("mem", x.memory.toJson),
      ("threads", x.threads.toJson),
      ("gc", x.garbage.toJson)]

end VirtualMachine

/-- The report of a gateway. -/
structure Monitoring where
  gateway : String
  instant : Int64
  hostname : Option String
  system : System
  process : ProcessFiles
  machine : VirtualMachine
deriving DecidableEq

namespace Monitoring

/-- Reads a report. -/
def read : Reader Monitoring :=
  FieldReader.record "MonitoringResponse"
    (mk <$> .required "gateway" Reader.string <*>
      .required "@timestamp" readInstant <*>
      .optional "hostname" Reader.string <*>
      .withDefault "os" System.read .unknown <*>
      .withDefault "process" ProcessFiles.read .unknown <*>
      .withDefault "jvm" VirtualMachine.read .unknown)

/-- The report in a document. -/
def ofDocument (source : Json) : Except DocumentFault Monitoring :=
  read.part "monitoring document" source

/-- A report as JSON. -/
def toJson (x : Monitoring) : Json :=
  .record
    [("gateway_id", .string x.gateway),
      ("timestamp", .ofInt64 x.instant),
      ("hostname", .ofOption .string x.hostname),
      ("os", x.system.toJson),
      ("process", x.process.toJson),
      ("jvm", x.machine.toJson)]

end Monitoring

end Logbook
