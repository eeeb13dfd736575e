import Logbook.Cache

/-!
# Looking up in the cache

What a cache holds under a name (`known?`), fresh or not, before and after each operation. A look-up
tells what the cache still holds under the name afterwards (`known?_get`): an entry that is not
fresh is gone. It is always fresh where the clock has not reached the lifetime
(`get_of_clock_lt`), and never where the lifetime is zero (`get_of_lifetime_zero`).
-/

set_option autoImplicit false

namespace Logbook

namespace PartitionCache

variable (cache : PartitionCache) (name name' : String)

/-- What the cache holds about a partition, be it fresh or not. -/
def known? : Option Bool := (cache.entries.find? name).map CacheEntry.found

@[simp] theorem known?_empty (lifetime : Nat) : (empty lifetime).known? name = none := rfl

@[simp] theorem known?_elapse (millis : Nat) :
    (cache.elapse millis).known? name = cache.known? name := rfl

@[simp] theorem lifetime_insert (found : Bool) :
    (cache.insert name found).lifetime = cache.lifetime := rfl

@[simp] theorem clock_insert (found : Bool) : (cache.insert name found).clock = cache.clock := rfl

theorem known?_insert (found : Bool) :
    (cache.insert name found).known? name' =
      if name' = name then some found else cache.known? name' := by
  rw [known?, insert, Keyed.find?_insert]
  split
  · rfl
  · rfl

/-! ## The three outcomes of a look-up -/

theorem get_of_no_entry (h : cache.entries.find? name = none) :
    cache.get name =
      (none, { cache with counts := { cache.counts with misses := cache.counts.misses + 1 } }) := by
  simp only [get, h]

theorem get_of_fresh {entry : CacheEntry} (h : cache.entries.find? name = some entry)
    (hfresh : cache.isFresh entry = true) :
    cache.get name =
      (some entry.found,
        { cache with counts := { cache.counts with hits := cache.counts.hits + 1 } }) := by
  simp only [get, h, hfresh, if_true]

theorem get_of_stale {entry : CacheEntry} (h : cache.entries.find? name = some entry)
    (hstale : cache.isFresh entry = false) :
    cache.get name =
      (none,
        { cache with
          entries := cache.entries.erase name
          counts :=
            ⟨cache.counts.hits, cache.counts.misses + 1, cache.counts.expirations + 1⟩ }) := by
  simp only [get, h, hstale, Bool.false_eq_true, if_false]

/-- A name with no entry is missed, one with a fresh entry is hit, and an entry that is not fresh is
forgotten; the clock and the lifetime stay. -/
theorem get_cases :
    (cache.get name).2.lifetime = cache.lifetime ∧ (cache.get name).2.clock = cache.clock ∧
      ((cache.entries.find? name = none ∧ (cache.get name).1 = none ∧
          (cache.get name).2.entries = cache.entries) ∨
        (∃ entry, cache.entries.find? name = some entry ∧ cache.isFresh entry = true ∧
          (cache.get name).1 = some entry.found ∧ (cache.get name).2.entries = cache.entries) ∨
        (∃ entry, cache.entries.find? name = some entry ∧ cache.isFresh entry = false ∧
          (cache.get name).1 = none ∧
          (cache.get name).2.entries = cache.entries.erase name)) := by
  rcases hentry : cache.entries.find? name with _ | entry
  · rw [get_of_no_entry cache name hentry]
    exact ⟨rfl, rfl, .inl ⟨rfl, rfl, rfl⟩⟩
  · rcases hfresh : cache.isFresh entry with _ | _
    · rw [get_of_stale cache name hentry hfresh]
      exact ⟨rfl, rfl, .inr (.inr ⟨entry, rfl, hfresh, rfl, rfl⟩)⟩
    · rw [get_of_fresh cache name hentry hfresh]
      exact ⟨rfl, rfl, .inr (.inl ⟨entry, rfl, hfresh, rfl, rfl⟩)⟩

@[simp] theorem lifetime_get : (cache.get name).2.lifetime = cache.lifetime :=
  (get_cases cache name).1

@[simp] theorem clock_get : (cache.get name).2.clock = cache.clock :=
  (get_cases cache name).2.1

/-- What is told about a partition is what the cache holds about it afterwards. -/
theorem known?_get :
    (cache.get name).2.known? name' =
      if name' = name then (cache.get name).1 else cache.known? name' := by
  unfold known?
  obtain ⟨-, -, ⟨hnone, hget, hentries⟩ | ⟨entry, hsome, -, hget, hentries⟩ |
    ⟨entry, hsome, -, hget, hentries⟩⟩ := get_cases cache name
  · rw [hget, hentries]
    split
    · rename_i h
      rw [h, hnone, Option.map_none]
    · rfl
  · rw [hget, hentries]
    split
    · rename_i h
      rw [h, hsome, Option.map_some]
    · rfl
  · rw [hget, hentries, Keyed.find?_erase]
    split
    · rfl
    · rfl

/-- Nothing is told that the cache does not hold. -/
theorem known?_of_get {cache : PartitionCache} {name : String} {found : Bool}
    (h : (cache.get name).1 = some found) : cache.known? name = some found := by
  obtain ⟨-, -, ⟨-, hget, -⟩ | ⟨entry, hsome, -, hget, -⟩ | ⟨-, -, -, hget, -⟩⟩ :=
    get_cases cache name
  · rw [hget] at h
    cases h
  · rw [known?, hsome, Option.map_some, ← hget, h]
  · rw [hget] at h
    cases h

/-- Until the clock reaches the lifetime nothing is forgotten. -/
theorem get_of_clock_lt {cache : PartitionCache} (h : cache.clock < cache.lifetime) :
    (cache.get name).1 = cache.known? name := by
  obtain ⟨-, -, ⟨hnone, hget, -⟩ | ⟨entry, hsome, -, hget, -⟩ | ⟨entry, -, hstale, -, -⟩⟩ :=
    get_cases cache name
  · rw [hget, known?, hnone, Option.map_none]
  · rw [hget, known?, hsome, Option.map_some]
  · rw [isFresh, decide_eq_false_iff_not] at hstale
    omega

/-- With a lifetime of zero nothing is ever told. -/
theorem get_of_lifetime_zero {cache : PartitionCache} (h : cache.lifetime = 0) :
    (cache.get name).1 = none := by
  obtain ⟨-, -, ⟨-, hget, -⟩ | ⟨entry, -, hfresh, -, -⟩ | ⟨-, -, -, hget, -⟩⟩ :=
    get_cases cache name
  · exact hget
  · rw [isFresh, decide_eq_true_iff] at hfresh
    omega
  · exact hget

end PartitionCache

end Logbook
