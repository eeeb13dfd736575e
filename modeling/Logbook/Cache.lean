import Logbook.Keyed
import Logbook.Number.Binary64
import Logbook.Overflow

/-!
# The partition cache

A cache remembers for some time whether partitions exist, and counts how often it knew. It has a
clock of its own, which stands still until it is told how much time has passed. An entry is fresh
for less than the lifetime of the cache; so with a lifetime of zero nothing is ever known.
-/

set_option autoImplicit false

namespace Logbook

/-- What was found out about a partition, and when. -/
structure CacheEntry where
  found : Bool
  since : Nat
deriving DecidableEq, Repr

/-- How often a cache knew the answer, how often it did not, and how often it had forgotten it. Each
count starts from zero again after `2 ^ 64` look-ups. -/
structure CacheCounts where
  hits : UInt64
  misses : UInt64
  expirations : UInt64
deriving DecidableEq, Repr

namespace CacheCounts

/-- Nothing was asked yet. -/
def zero : CacheCounts := ⟨0, 0, 0⟩

/-- The share of the questions to which the answer was known; zero before the first question. -/
def hitRate (counts : CacheCounts) : Except Overflow Binary64 := do
  let total ← addCounts counts.hits counts.misses
  if total = 0 then return .finite (Finite64.zero false)
  else return .div (.ofNat counts.hits.toNat) (.ofNat total.toNat)

end CacheCounts

/-- What is known about the partitions that exist. -/
structure PartitionCache where
  /-- How many milliseconds an entry is fresh. -/
  lifetime : Nat
  clock : Nat
  entries : Keyed CacheEntry
  counts : CacheCounts

namespace PartitionCache

/-- A cache that knows nothing yet. -/
def empty (lifetime : Nat) : PartitionCache := ⟨lifetime, 0, .empty, .zero⟩

/-- The entry is still to be trusted. -/
def isFresh (cache : PartitionCache) (entry : CacheEntry) : Bool :=
  cache.clock - entry.since < cache.lifetime

/-- What is known about a partition. An entry that is not fresh is forgotten. -/
def get (cache : PartitionCache) (name : String) : Option Bool × PartitionCache :=
  let { hits, misses, expirations } := cache.counts
  match cache.entries.find? name with
  | none => (none, { cache with counts := ⟨hits, misses + 1, expirations⟩ })
  | some entry =>
    if cache.isFresh entry then
      (some entry.found, { cache with counts := ⟨hits + 1, misses, expirations⟩ })
    else
      (none, { cache with
        entries := cache.entries.erase name
        counts := ⟨hits, misses + 1, expirations + 1⟩ })

/-- The cache that knows whether a partition exists. -/
def insert (cache : PartitionCache) (name : String) (found : Bool) : PartitionCache :=
  { cache with entries := cache.entries.insert name ⟨found, cache.clock⟩ }

/-- The cache that knows nothing about a partition. -/
def invalidate (cache : PartitionCache) (name : String) : PartitionCache :=
  { cache with entries := cache.entries.erase name }

/-- The cache that knows nothing, with its counts. -/
def clear (cache : PartitionCache) : PartitionCache := { cache with entries := .empty }

/-- The cache some milliseconds later. -/
def elapse (cache : PartitionCache) (millis : Nat) : PartitionCache :=
  { cache with clock := cache.clock + millis }

/-- The number of entries. -/
def size (cache : PartitionCache) : Nat := cache.entries.size

/-- There are no entries. -/
def isEmpty (cache : PartitionCache) : Bool := cache.entries.isEmpty

end PartitionCache

end Logbook
