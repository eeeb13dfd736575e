import Logbook.Backend.Basic
import Logbook.Cache
import Logbook.Config.Basic
import Logbook.Inquiry.Basic

/-!
# Sessions

Inquiries are made of a backend one after the other. Where there is a cache, partitions that are
known not to exist are left out of a search; one about which nothing can be found out stays in, and
where none would be left all partitions are searched.
-/

set_option autoImplicit false

namespace Logbook

/-- What inquiries are made of: a backend, and how its partitions are named. -/
structure Archive (m : Type → Type) where
  backend : Backend m
  scheme : PartitionScheme

/-- Steps that may use a cache, where there is one. -/
abbrev Session (m : Type → Type) := StateT (Option PartitionCache) m

namespace Archive

variable {m : Type → Type} [Monad m] (archive : Archive m)

/-- Tells whether a partition is to be searched: it is a pattern, or it exists, or it cannot be
found out whether it exists. What is found out is remembered. -/
def isWanted (name : String) : StateT PartitionCache m Bool := do
  if name.contains '*' then return true
  match ← modifyGet fun cache => cache.get name with
  | some found => return found
  | none =>
    match ← archive.backend.hasPartition name with
    | .ok found => do
      modify fun cache => cache.insert name found
      return found
    | .error _ => return true

/-- The partitions that are to be searched, in their order. -/
def wanted : List String → StateT PartitionCache m (List String)
  | [] => return []
  | name :: names => do
    let isWanted ← archive.isWanted name
    let rest ← wanted names
    return if isWanted then name :: rest else rest

/-- A search of the partitions that are to be searched. -/
def narrow (search : Search) : Session m Search
  | none => return (search, none)
  | some cache => do
    let (names, cache) ← (archive.wanted search.partitions).run cache
    let partitions := if names.isEmpty then [archive.scheme.everyPartition] else names
    return ({ search with partitions }, some cache)

/-- Runs a search under the name of an operation. -/
def submit (operation : String) (search : Search) : Session m (Except Failure Response) := do
  let search ← archive.narrow search
  match ← archive.backend.search search with
  | .ok response => return .ok response
  | .error fault => return .error (.unanswered operation fault)

/-- Makes an inquiry at an instant. -/
def inquire (now : Int64) (inquiry : Inquiry) :
    Session m (Except (Halt Failure) Finding) := do
  match inquiry.search archive.scheme now with
  | .error halt => return .error (halt.map .refused)
  | .ok search =>
    match ← archive.submit inquiry.operation search with
    | .error failure => return .error (.fault failure)
    | .ok response => return inquiry.finding response

end Archive

namespace CacheConfig

/-- The cache that a configuration asks for. -/
def newCache (config : CacheConfig) : Option PartitionCache :=
  if config.enabled then some (.empty (1000 * config.lifetime.toNat)) else none

end CacheConfig

end Logbook
