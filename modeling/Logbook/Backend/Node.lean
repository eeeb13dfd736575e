import Logbook.Backend.Basic
import Logbook.Config.Basic
import Logbook.Document.Basic
import Logbook.Search.Body
import Logbook.Text.Base64
import Logbook.Url.Parser

/-!
# A backend of nodes

A cluster is one or more nodes, each below a URL, which take turns. What a node is asked is a
`Call`; how a call reaches it is a parameter, so that the rules for the URL and the contents of a
call, and those for reading the reply, hold for every network.
-/

set_option autoImplicit false

namespace Logbook

/-- What a node is asked. -/
structure Call where
  method : Method
  url : Url
  authorization : Option String
  body : Option Json

/-- What a node answered. -/
structure Reply where
  status : Nat
  body : String

namespace Reply

/-- The node did what it was asked. -/
def isSuccess (reply : Reply) : Bool := 200 ≤ reply.status && reply.status < 300

end Reply

/-- A network takes a call to its node and brings the reply, if there is one. -/
abbrev Network (m : Type → Type) := Call → m (Option Reply)

/-! ## URLs -/

namespace Url

/-- The URL whose path ends in a slash, so that references are resolved below it. -/
def asFolder (url : Url) : Url :=
  match url.path with
  | .segments parts =>
    if parts.getLast? = some "" then url else { url with path := .segments (parts ++ [""]) }
  | .rootless _ => url

/-- The URL of a path below another URL. -/
def below (url : Url) (path : String) : Except BackendFault Url :=
  match url.asFolder.join path with
  | .ok url => .ok url
  | .error cause => .error (.badTarget path cause)

end Url

namespace Search

/-- The path of a search. -/
def path (search : Search) : String :=
  search.partitionList ++ "/" ++ search.kind.name ++ "/_search"

/-- The query that lets a search pass over partitions that do not exist. -/
def pathQuery : String := "ignore_unavailable=true"

end Search

/-! ## Nodes -/

/-- Nodes, and who asks them. -/
structure Cluster where
  first : Url
  others : List Url
  credentials : Option (String × Option String)

namespace Cluster

/-- The cluster of some nodes. -/
def ofUrls (urls : List Url) (credentials : Option (String × Option String)) :
    Except BackendFault Cluster :=
  match urls with
  | [] => .error .noNode
  | first :: others => .ok ⟨first, others, credentials⟩

/-- The path at which a node tells how the cluster is. -/
def healthPath : String := "_cluster/health"

/-- The node whose turn it is after a number of calls. -/
def node (cluster : Cluster) (calls : Nat) : Url :=
  (cluster.first :: cluster.others).getD (calls % (cluster.others.length + 1)) cluster.first

/-- A user and a password, as a node is told them. -/
def authorizationOf (user : String) (password : Option String) : String :=
  "Basic " ++ Base64.ofText (user ++ ":" ++ password.getD "")

/-- The text that is encoded in a part of a URL. -/
def plainText (text : String) : String := (Percent.decode? text.toList).getD text

/-- Who asks: the user of the cluster, else the one in the URL. -/
def authorization (cluster : Cluster) (url : Url) : Option String :=
  match cluster.credentials with
  | some (user, password) => some (authorizationOf user password)
  | none =>
    if url.credentials = .none then none
    else some (authorizationOf (plainText url.credentials.user)
      (some (plainText url.credentials.password)))

/-- A call at a URL. -/
def call (cluster : Cluster) (method : Method) (url : Url) (body : Option Json) : Call :=
  ⟨method, { url with credentials := .none }, cluster.authorization url, body⟩

variable {m : Type → Type} [Monad m]

/-- Asks the node whose turn it is at a path below it. -/
def ask (cluster : Cluster) (network : Network m) (method : Method) (path : String)
    (query : Option String) (body : Option Json) : StateT Nat m (Except BackendFault Reply) := do
  let calls ← modifyGet fun calls => (calls, calls + 1)
  match (cluster.node calls).below path with
  | .error fault => return .error fault
  | .ok url =>
    let url := if query.isSome then { url with query } else url
    match ← network (cluster.call method url body) with
    | none => return .error .unreachable
    | some reply => return .ok reply

/-- The value that a reply holds. -/
def contents {α : Type} (ofText? : String → Option α) (reply : Reply) : Except BackendFault α :=
  if reply.isSuccess then
    match ofText? reply.body with
    | some a => .ok a
    | none => .error .malformed
  else .error (.status reply.status reply.body)

/-- What a reply says about whether something exists. It has no body. -/
def existence (reply : Reply) : Except BackendFault Bool :=
  if reply.isSuccess then .ok true
  else if reply.status = 404 then .ok false
  else .error (.status reply.status "")

/-- The backend of a cluster. Its state is the number of calls so far. -/
def backend (cluster : Cluster) (network : Network m) : Backend (StateT Nat m) :=
  { name := "elasticsearch"
    search := fun search => do
      let reply ← cluster.ask network .post search.path (some Search.pathQuery) (some search.toBody)
      return reply.bind (contents Response.ofText?)
    hasPartition := fun name => do
      let reply ← cluster.ask network .head name none none
      return reply.bind existence
    clusterHealth := do
      let reply ← cluster.ask network .get healthPath none none
      return reply.bind (contents ClusterHealth.ofText?) }

end Cluster

end Logbook
