import Logbook.Backend.Node
import Logbook.Command.Line
import Logbook.Config.File
import Logbook.Inquiry.Session

/-!
# Carrying out commands

A command is carried out against the nodes of a configuration, or only shown: then what is written
is the request that would be sent. Files and the network are parameters.
-/

set_option autoImplicit false

namespace Logbook

/-- Why a command is not carried out. -/
inductive CommandFault where
  | usage (fault : UsageFault)
  | file (fault : FileFault)
  | config (fault : ConfigFault)
  | inquiry (failure : Failure)
  | backend (fault : BackendFault)
deriving Repr

namespace CommandFault

/-- The wording of a fault. -/
def message : CommandFault → String
  | usage fault => fault.message
  | file fault => fault.message
  | config fault => fault.message
  | inquiry failure => failure.message
  | backend fault => fault.message

/-- What the program ends with: 2 where the command line makes no sense, and 1 otherwise. To show
what can be done is no failure. -/
def exitCode : CommandFault → Nat
  | usage .helpWanted | usage .versionWanted => 0
  | usage _ => 2
  | _ => 1

end CommandFault

/-- What the program ends with where it has nothing to write: 101 where there was an overflow. -/
def Halt.exitCode : Halt CommandFault → Nat
  | fault told => told.exitCode
  | overflow _ => 101

/-! ## Showing -/

namespace Search

/-- A search as the request that would be sent. -/
def preview (search : Search) : Json :=
  .record
    [("method", .string Method.post.name),
      ("path", .string ("/" ++ search.path ++ "?" ++ pathQuery)),
      ("body", search.toBody)]

end Search

namespace Task

/-- The request for the health of a cluster. -/
def healthPreview : Json :=
  .record [("method", .string Method.get.name), ("path", .string ("/" ++ Cluster.healthPath))]

/-- The request that a task at an instant would send. -/
def preview (scheme : PartitionScheme) (now : Int64) : Task → Except (Halt QueryFault) Json
  | analytics query => do return (← Search.ofQuery scheme .request query).preview
  | logs filter page size => do
    return (← Search.ofQuery scheme .request ⟨filter, .logs page size⟩).preview
  | requestLog id => .ok (Search.byId scheme .request id).preview
  | health query => do
    return (← Search.ofQuery scheme .health (query.withDefaultWindow now)).preview
  | healthCheck id => .ok (Search.byId scheme .health id).preview
  | monitoring gateway => do
    return (← (Search.latestMonitoring scheme gateway now).mapError .overflow).preview
  | ping => .ok healthPreview

end Task

/-! ## Doing -/

section
variable {m : Type → Type} [Monad m]

/-- Makes an inquiry at an instant, and says what was found as it is written. -/
def Archive.answer (archive : Archive m) (now : Int64) (inquiry : Inquiry) :
    Session m (Except (Halt CommandFault) Json) := do
  match ← archive.inquire now inquiry with
  | .ok finding => return .ok finding.toJson
  | .error halt => return .error (halt.map .inquiry)

/-- Says how the nodes are. -/
def Archive.ping (archive : Archive m) : Session m (Except (Halt CommandFault) Json) := do
  match ← archive.backend.clusterHealth with
  | .ok health => return .ok health.toJson
  | .error fault => return .error (.fault (.backend fault))

/-- Carries out a task at an instant. -/
def Task.carryOut (archive : Archive m) (now : Int64) :
    Task → Session m (Except (Halt CommandFault) Json)
  | analytics query => archive.answer now (.query .requests query)
  | logs filter page size => archive.answer now (.query .requests ⟨filter, .logs page size⟩)
  | requestLog id => archive.answer now (.requestLog id)
  | health query => archive.answer now (.query .health query)
  | healthCheck id => archive.answer now (.healthCheck id)
  | monitoring gateway => archive.answer now (.monitoring gateway)
  | ping => archive.ping

end

namespace Command

/-- What a query is refused for, told as the fault of a command. -/
def refusal (fault : QueryFault) : CommandFault := .inquiry (.refused fault)

/-- The request that a command at an instant would send. -/
def preview (scheme : PartitionScheme) (now : Int64) (command : Command) :
    Except (Halt CommandFault) Json :=
  match command.task now with
  | .error fault => .error (.fault (refusal fault))
  | .ok task => (task.preview scheme now).mapError (Halt.map refusal)

/-- Carries out a command at an instant. -/
def carryOut {m : Type → Type} [Monad m] (archive : Archive m) (now : Int64) (command : Command) :
    Session m (Except (Halt CommandFault) Json) :=
  match command.task now with
  | .error fault => return .error (.fault (refusal fault))
  | .ok task => task.carryOut archive now

end Command

namespace Config

/-- The nodes of a configuration. -/
def cluster? (config : Config) : Except ConfigFault Cluster := do
  let urls ← Endpoint.urls config.nodes.endpoints
  match Cluster.ofUrls urls config.nodes.credentials? with
  | .ok cluster => return cluster
  | .error _ => throw .noEndpoint

end Config

/-! ## Programs -/

/-- What is found at the place of a file. -/
inductive FileState where
  | absent
  | unreadable
  | text (contents : String)
deriving DecidableEq, Repr

/-- What the program finds around it. -/
structure Surroundings (m : Type → Type) where
  home : Option String
  now : Int64
  fileAt : String → m FileState
  /-- The network, with the number of seconds after which a reply is no longer waited for. -/
  network : UInt64 → Network m

namespace Surroundings

variable {m : Type → Type} [Monad m] (surroundings : Surroundings m)

/-- Where a configuration is looked for when none is named. -/
def defaultPath : String := joinPath (surroundings.home.getD ".") ".sightline/config.toml"

/-- Loads the configuration from a named file, or from the default place if there is one. -/
def loadConfig (place : Option String) : m (Except FileFault Config) := do
  match expandHome surroundings.home (place.getD surroundings.defaultPath) with
  | .error fault => return .error (.rejected fault)
  | .ok path =>
    match ← surroundings.fileAt path with
    | .text contents => return Config.ofFile contents
    | .unreadable => return .error .unreadable
    | .absent => return if place.isSome then .error .unreadable else .ok .default

/-- Carries out a command with a configuration. -/
def carryOut (config : Config) (command : Command) : m (Except (Halt CommandFault) Json) := do
  match config.cluster?, config.partitions.scheme? with
  | .error fault, _ => return .error (.fault (.config fault))
  | .ok _, .error fault => return .error (.fault (.config fault))
  | .ok cluster, .ok scheme =>
    let archive := ⟨cluster.backend (surroundings.network config.nodes.timeout), scheme⟩
    let session := (command.carryOut archive surroundings.now).run config.cache.newCache
    return (← session.run 0).1.1

/-- Shows what a command with a configuration would send. -/
def preview (config : Config) (command : Command) : Except (Halt CommandFault) Json :=
  match config.partitions.scheme? with
  | .error fault => .error (.fault (.config fault))
  | .ok scheme => command.preview scheme surroundings.now

/-- Runs the program on the words of a command line: what it writes, or why it fails. -/
def run (words : List String) : m (Except (Halt CommandFault) Json) := do
  match CommandLine.ofWords words with
  | .error fault => return .error (.fault (.usage fault))
  | .ok line =>
    match ← surroundings.loadConfig line.config with
    | .error fault => return .error (.fault (.file fault))
    | .ok config =>
      if line.dryRun then return surroundings.preview config line.command
      else surroundings.carryOut config line.command

end Surroundings

end Logbook
