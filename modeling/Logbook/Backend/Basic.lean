import Logbook.Json.Reader
import Logbook.Response.Basic
import Logbook.Search.Basic
import Logbook.Url.Basic

/-!
# Backends

A backend runs searches and knows which partitions exist. It works in a monad `m`, so that one that
talks to nodes and one that holds its replies in memory have the same type.
-/

set_option autoImplicit false

namespace Logbook

/-- Why a backend gives no answer. -/
inductive BackendFault where
  /-- There was no exchange with a node. -/
  | unreachable
  /-- A node refused. -/
  | status (code : Nat) (body : String)
  /-- What a node answered cannot be read. -/
  | malformed
  /-- There is no node. -/
  | noNode
  /-- There is no URL at which a node could be asked. -/
  | badTarget (path : String) (cause : UrlFault)
deriving DecidableEq, Repr

namespace BackendFault

/-- The wording of a fault. -/
def message : BackendFault → String
  | unreachable => "Connection failed"
  | status code body => "Backend returned status " ++ natText code ++ ": " ++ body
  | malformed => "Malformed response body"
  | noNode => "No backend endpoint configured"
  | badTarget path cause => "invalid request path '" ++ path ++ "': " ++ cause.message

end BackendFault

/-- How the nodes of a cluster are. -/
structure ClusterHealth where
  name : String
  /-- One of `green`, `yellow` and `red`. -/
  status : String
  timedOut : Bool
  nodes : UInt64
  dataNodes : UInt64
  activeShards : UInt64
  unassignedShards : UInt64
deriving DecidableEq, Repr

namespace ClusterHealth

/-- Reads how the nodes of a cluster are. -/
def read : Reader ClusterHealth :=
  FieldReader.record "ClusterHealth"
    (ClusterHealth.mk <$>
      .withDefault "cluster_name" Reader.string "" <*>
      .withDefault "status" Reader.string "" <*>
      .withDefault "timed_out" Reader.bool false <*>
      .withDefault "number_of_nodes" Reader.uint64 0 <*>
      .withDefault "number_of_data_nodes" Reader.uint64 0 <*>
      .withDefault "active_shards" Reader.uint64 0 <*>
      .withDefault "unassigned_shards" Reader.uint64 0)

/-- What is read of how the nodes of a cluster are. -/
def outline : Json.Outline :=
  .record [("cluster_name", .whole), ("status", .whole), ("timed_out", .whole),
    ("number_of_nodes", .whole), ("number_of_data_nodes", .whole), ("active_shards", .whole),
    ("unassigned_shards", .whole)]

/-- How a text says that the nodes of a cluster are. -/
def ofText? (text : String) : Option ClusterHealth := do
  let value ← Json.parseWithin? outline text
  (read value).toOption

/-- How the nodes of a cluster are, as JSON. -/
def toJson (health : ClusterHealth) : Json :=
  .record
    [("cluster_name", .string health.name), ("status", .string health.status),
      ("timed_out", .bool health.timedOut), ("number_of_nodes", .ofUInt64 health.nodes),
      ("number_of_data_nodes", .ofUInt64 health.dataNodes),
      ("active_shards", .ofUInt64 health.activeShards),
      ("unassigned_shards", .ofUInt64 health.unassignedShards)]

end ClusterHealth

/-- Where searches are run. -/
structure Backend (m : Type → Type) where
  name : String
  search : Search → m (Except BackendFault Response)
  hasPartition : String → m (Except BackendFault Bool)
  clusterHealth : m (Except BackendFault ClusterHealth)

end Logbook
