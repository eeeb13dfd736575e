import Logbook.Backend.Basic

/-!
# A backend in memory

A backend that answers searches with replies given beforehand: first those in a queue, then the same
response again and again. It keeps a record of everything it was asked.
-/

set_option autoImplicit false

namespace Logbook

/-- What a search is answered with. -/
inductive CannedReply where
  | success (response : Response)
  | refusal (code : Nat) (body : String)

namespace CannedReply

/-- The result of a search that is answered so. -/
def result : CannedReply → Except BackendFault Response
  | success response => .ok response
  | refusal code body => .error (.status code body)

end CannedReply

/-- The replies to come, the partitions that exist, and what was asked so far. -/
structure Memory where
  replies : List CannedReply
  /-- The response to a search when there are no replies left. -/
  fallback : Response
  partitions : List String
  /-- The searches so far, oldest first. -/
  searches : List Search
  /-- The partitions that were asked for so far, oldest first. -/
  checks : List String

namespace Memory

/-- A memory that was asked nothing yet. -/
def ofPartitions (partitions : List String) (fallback : Response) : Memory :=
  ⟨[], fallback, partitions, [], []⟩

/-- The memory with one more reply at the end of the queue. -/
def push (memory : Memory) (reply : CannedReply) : Memory :=
  { memory with replies := memory.replies ++ [reply] }

/-- The reply to the next search, and the replies that remain. -/
def nextReply (memory : Memory) : CannedReply × List CannedReply :=
  match memory.replies with
  | [] => (.success memory.fallback, [])
  | reply :: rest => (reply, rest)

/-- Answers a search with the next reply. -/
def search (search : Search) : StateM Memory (Except BackendFault Response) := fun memory =>
  let (reply, replies) := memory.nextReply
  (reply.result, { memory with replies, searches := memory.searches ++ [search] })

/-- Tells whether a partition is one of those that exist. -/
def hasPartition (name : String) : StateM Memory (Except BackendFault Bool) := fun memory =>
  (.ok (memory.partitions.contains name), { memory with checks := memory.checks ++ [name] })

/-- A cluster of one node that is well. -/
def clusterHealth : ClusterHealth := ⟨"memory", "green", false, 1, 1, 0, 0⟩

/-- The backend in memory. -/
def backend : Backend (StateM Memory) :=
  { name := "memory"
    search
    hasPartition
    clusterHealth := pure (.ok clusterHealth) }

end Memory

end Logbook
