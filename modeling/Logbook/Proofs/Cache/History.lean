import Mathlib
import Logbook.Proofs.Cache
import Logbook.Proofs.Keyed

/-!
# A cache is told by its history

What a cache holds is told by the actions that it went through, latest first (`held?`): where
entries last, the last insertion of a name counts that nothing took back since; where nothing is
ever fresh, a look-up takes back as well. One action keeps that, and counts what it has to count
(`Keeps.step`), so that every turn of a history is exact (`CacheMemory.exact_of_turns`). What is
counted are the look-ups of each outcome, in words (`CacheTurn.countsOf`), and so exactly where
there were fewer than `2 ^ 64` look-ups (`CacheTurn.exact_countsOf`).

A cache has clones, which tell the same places of one memory (`CacheHandle`, `CacheMemory`). The
actions may come through any of them: `clones_keep_one_map`.
-/

set_option autoImplicit false

namespace Logbook

/-! ## Actions -/

/-- What may happen to a cache. -/
inductive CacheAction where
  | get (name : String)
  | insert (name : String) (found : Bool)
  | invalidate (name : String)
  | clear
  /-- Time goes by. -/
  | elapse (millis : Nat)
deriving DecidableEq

namespace CacheAction

/-- What a cache answers to an action, and the cache after it. Only a look-up is answered. -/
def run (cache : PartitionCache) : CacheAction → Option Bool × PartitionCache
  | get name => cache.get name
  | insert name found => (none, cache.insert name found)
  | invalidate name => (none, cache.invalidate name)
  | clear => (none, cache.clear)
  | elapse millis => (none, cache.elapse millis)

/-- How much time goes by. -/
def millis : CacheAction → Nat
  | elapse millis => millis
  | _ => 0

/-- The action is a look-up. -/
def isGet : CacheAction → Bool
  | get _ => true
  | _ => false

/-- The name that is inserted. -/
def inserted? : CacheAction → Option String
  | insert name _ => some name
  | _ => none

end CacheAction

/-- What a map holds under a name after some actions, latest first: the value of the last insertion
that nothing took back since. A forgetful map forgets what it is asked for. -/
def held? (forgetful : Bool) (name : String) : List CacheAction → Option Bool
  | [] => none
  | .insert key found :: earlier => if name = key then some found else held? forgetful name earlier
  | .invalidate key :: earlier => if name = key then none else held? forgetful name earlier
  | .clear :: _ => none
  | .get key :: earlier => if forgetful ∧ name = key then none else held? forgetful name earlier
  | .elapse _ :: earlier => held? forgetful name earlier

/-- The names under which a map holds something after some actions, each once. -/
def heldNames (forgetful : Bool) (history : List CacheAction) : List String :=
  (history.filterMap CacheAction.inserted?).dedup.filter fun name =>
    (held? forgetful name history).isSome

theorem mem_inserted_of_held? {forgetful : Bool} {name : String} {history : List CacheAction}
    (h : (held? forgetful name history).isSome) :
    name ∈ history.filterMap CacheAction.inserted? := by
  induction history with
  | nil => cases h
  | cons action earlier ih =>
    cases action with
    | get key =>
      rw [held?] at h
      split at h
      · cases h
      · exact ih h
    | insert key found =>
      change name ∈ key :: earlier.filterMap CacheAction.inserted?
      rw [held?] at h
      split at h
      · rename_i heq
        exact heq ▸ List.mem_cons_self
      · exact List.mem_cons_of_mem _ (ih h)
    | invalidate key =>
      rw [held?] at h
      split at h
      · cases h
      · exact ih h
    | clear => cases h
    | elapse millis => exact ih h

theorem mem_heldNames_iff {forgetful : Bool} {name : String} {history : List CacheAction} :
    name ∈ heldNames forgetful history ↔ (held? forgetful name history).isSome := by
  simp only [heldNames, List.mem_filter, List.mem_dedup, and_iff_right_iff_imp]
  exact mem_inserted_of_held?

theorem nodup_heldNames (forgetful : Bool) (history : List CacheAction) :
    (heldNames forgetful history).Nodup := (List.nodup_dedup _).filter _

/-! ## Turns -/

/-- An action with what was answered to it, and the cache before and after it. -/
structure CacheTurn where
  action : CacheAction
  answer : Option Bool
  before : PartitionCache
  after : PartitionCache

namespace CacheTurn

/-- The turn of an action in a cache. -/
def ofAction (cache : PartitionCache) (action : CacheAction) : CacheTurn :=
  ⟨action, (action.run cache).1, cache, (action.run cache).2⟩

/-- The actions of some turns, latest first. -/
def historyOf (turns : List CacheTurn) : List CacheAction := (turns.map action).reverse

theorem historyOf_concat (turns : List CacheTurn) (turn : CacheTurn) :
    historyOf (turns ++ [turn]) = turn.action :: historyOf turns := by
  simp [historyOf]

/-- A look-up that was answered. -/
def isHit (turn : CacheTurn) : Bool := turn.action.isGet && turn.answer.isSome

/-- A look-up that was not answered. -/
def isMiss (turn : CacheTurn) : Bool := turn.action.isGet && turn.answer.isNone

/-- A look-up that was not answered, of a name under which the cache held something. -/
def isExpiration (turn : CacheTurn) : Bool :=
  match turn.action with
  | .get name => turn.answer.isNone && (turn.before.known? name).isSome
  | _ => false

/-- What a cache has to have counted after some turns. -/
def countsOf (turns : List CacheTurn) : CacheCounts :=
  ⟨.ofNat (turns.countP isHit), .ofNat (turns.countP isMiss), .ofNat (turns.countP isExpiration)⟩

theorem countP_isHit_add_countP_isMiss (turns : List CacheTurn) :
    turns.countP isHit + turns.countP isMiss = turns.countP fun turn => turn.action.isGet := by
  induction turns with
  | nil => rfl
  | cons turn turns ih =>
    obtain ⟨action, answer, before, after⟩ := turn
    have hone : ((if isHit ⟨action, answer, before, after⟩ then 1 else 0) +
        if isMiss ⟨action, answer, before, after⟩ then 1 else 0) =
          if action.isGet then 1 else 0 := by
      cases action <;> cases answer <;> rfl
    simp only [List.countP_cons, ← ih]
    omega

theorem isMiss_of_isExpiration {turn : CacheTurn} (h : turn.isExpiration = true) :
    turn.isMiss = true := by
  unfold isExpiration at h
  split at h
  · rename_i name haction
    rw [isMiss, haction]
    exact (Bool.and_eq_true_iff.1 h).1
  · cases h

theorem countP_isExpiration_le (turns : List CacheTurn) :
    turns.countP isExpiration ≤ turns.countP isMiss :=
  List.countP_mono_left fun _ _ => isMiss_of_isExpiration

/-- Hits and misses add up to the look-ups, however many there were. -/
theorem asked_countsOf (turns : List CacheTurn) :
    (countsOf turns).hits + (countsOf turns).misses =
      .ofNat (turns.countP fun turn => turn.action.isGet) := by
  rw [← countP_isHit_add_countP_isMiss, UInt64.ofNat_add]
  rfl

/-- Fewer than `2 ^ 64` look-ups are counted exactly. -/
theorem exact_countsOf {turns : List CacheTurn}
    (hfew : turns.countP (fun turn => turn.action.isGet) < 2 ^ 64) :
    (countsOf turns).hits.toNat = turns.countP isHit ∧
      (countsOf turns).misses.toNat = turns.countP isMiss ∧
        (countsOf turns).expirations.toNat = turns.countP isExpiration := by
  have hasked := countP_isHit_add_countP_isMiss turns
  have hforgotten := countP_isExpiration_le turns
  exact ⟨UInt64.toNat_ofNat_of_lt' (by simp only [UInt64.size]; omega),
    UInt64.toNat_ofNat_of_lt' (by simp only [UInt64.size]; omega),
    UInt64.toNat_ofNat_of_lt' (by simp only [UInt64.size]; omega)⟩

/-- One more turn counts for what it is. -/
theorem countsOf_concat (turns : List CacheTurn) (turn : CacheTurn) :
    countsOf (turns ++ [turn]) =
      ⟨(countsOf turns).hits + if turn.isHit then 1 else 0,
        (countsOf turns).misses + if turn.isMiss then 1 else 0,
        (countsOf turns).expirations + if turn.isExpiration then 1 else 0⟩ := by
  have hword (p : CacheTurn → Bool) : UInt64.ofNat ((turns ++ [turn]).countP p) =
      .ofNat (turns.countP p) + if p turn then 1 else 0 := by
    rw [List.countP_append, List.countP_singleton, UInt64.ofNat_add]
    split <;> rfl
  simp only [countsOf, hword]

/-- What holds of a turn that comes after others, in a cache with a lifetime. -/
structure Exact (lifetime : Nat) (done : List CacheTurn) (turn : CacheTurn) : Prop where
  /-- Where entries last, a look-up is answered by the last insertion that nothing took back. -/
  answered : lifetime ≠ 0 → ∀ name, turn.action = .get name →
    turn.answer = held? false name (historyOf done)
  unanswered : lifetime = 0 → turn.answer = none
  /-- Where nothing is ever fresh, a look-up takes away what there is, and counts it. -/
  forgotten : lifetime = 0 → ∀ name, turn.action = .get name →
    turn.after.known? name = none ∧ turn.after.counts.expirations =
      turn.before.counts.expirations + if (turn.before.known? name).isSome then 1 else 0
  unchanged : turn.action.isGet = false → turn.after.counts = turn.before.counts
  present : ∀ name, turn.before.known? name = held? (lifetime = 0) name (historyOf done)
  held : ∀ name, turn.after.known? name =
    held? (lifetime = 0) name (historyOf (done ++ [turn]))
  size : turn.after.size = (heldNames (lifetime = 0) (historyOf (done ++ [turn]))).length
  /-- However many turns there were, each count is the number of turns that it counts, in words. -/
  counts : turn.after.counts = countsOf (done ++ [turn])
  asked : turn.after.counts.hits + turn.after.counts.misses =
    .ofNat ((done ++ [turn]).countP fun turn => turn.action.isGet)
  /-- Below `2 ^ 64` look-ups the counts are exact. -/
  exact : (done ++ [turn]).countP (fun turn => turn.action.isGet) < 2 ^ 64 →
    turn.after.counts.hits.toNat + turn.after.counts.misses.toNat =
        (done ++ [turn]).countP (fun turn => turn.action.isGet) ∧
      turn.after.counts.hits.toNat =
        (done ++ [turn]).countP (fun turn => turn.action.isGet && turn.answer.isSome) ∧
      turn.after.counts.expirations ≤ turn.after.counts.misses
  expirations_eq : lifetime ≠ 0 → turn.after.counts.expirations = 0

end CacheTurn

namespace PartitionCache

/-! ## What one action does -/

section
variable (cache : PartitionCache) (name name' : String)

theorem known?_invalidate : (cache.invalidate name).known? name' =
    if name' = name then none else cache.known? name' := by
  rw [known?, invalidate, Keyed.find?_erase]
  split <;> rfl

/-- A look-up counts as a hit or as a miss, and where it misses what was held, as an expiration. -/
theorem counts_get : (cache.get name).2.counts =
    if (cache.get name).1.isSome then { cache.counts with hits := cache.counts.hits + 1 }
    else ⟨cache.counts.hits, cache.counts.misses + 1,
      cache.counts.expirations + if (cache.known? name).isSome then 1 else 0⟩ := by
  rcases hentry : cache.entries.find? name with _ | entry
  · simp [get_of_no_entry cache name hentry, known?, hentry]
  · rcases hfresh : cache.isFresh entry with _ | _
    · simp [get_of_stale cache name hentry hfresh, known?, hentry]
    · simp [get_of_fresh cache name hentry hfresh]

end

/-- A cache has as many entries as names under which it holds something. -/
theorem size_eq_length {cache : PartitionCache} {names : List String} (hnodup : names.Nodup)
    (hmem : ∀ name, name ∈ names ↔ (cache.known? name).isSome) : cache.size = names.length := by
  have hperm : (cache.entries.toList.map Prod.fst).Perm names := by
    refine (List.perm_ext_iff_of_nodup cache.entries.nodup_keys hnodup).2 fun name => ?_
    rw [hmem, known?, Option.isSome_map, Keyed.find?, Keyed.isSome_lookup_iff]
  rw [size, Keyed.size, ← hperm.length_eq, List.length_map]

/-- What a cache holds and has counted after some turns. -/
structure Keeps (lifetime : Nat) (done : List CacheTurn) (cache : PartitionCache) : Prop where
  lifetime_eq : cache.lifetime = lifetime
  clock : cache.clock = (done.map fun turn => turn.action.millis).sum
  held : ∀ name, cache.known? name = held? (lifetime = 0) name (CacheTurn.historyOf done)
  counts : cache.counts = CacheTurn.countsOf done
  expirations_eq : lifetime ≠ 0 → cache.counts.expirations = 0

namespace Keeps

variable {lifetime : Nat} {done : List CacheTurn} {cache : PartitionCache}

theorem empty (lifetime : Nat) : Keeps lifetime [] (.empty lifetime) where
  lifetime_eq := rfl
  clock := rfl
  held _ := rfl
  counts := rfl
  expirations_eq _ := rfl

/-- An action that is no look-up changes what is held at most. -/
theorem step_of_not_get (h : Keeps lifetime done cache) {action : CacheAction}
    (hget : action.isGet = false)
    (hlifetime : (action.run cache).2.lifetime = cache.lifetime)
    (hclock : (action.run cache).2.clock = cache.clock + action.millis)
    (hcounts : (action.run cache).2.counts = cache.counts)
    (hheld : ∀ name, (action.run cache).2.known? name =
      held? (lifetime = 0) name (action :: CacheTurn.historyOf done)) :
    Keeps lifetime (done ++ [.ofAction cache action]) (action.run cache).2 where
  lifetime_eq := hlifetime.trans h.lifetime_eq
  clock := by simp [hclock, h.clock, CacheTurn.ofAction]
  held name := by rw [hheld, CacheTurn.historyOf_concat]; rfl
  counts := by
    have hexpiration : (CacheTurn.ofAction cache action).isExpiration = false := by
      cases action with
      | get name => cases hget
      | insert | invalidate | clear | elapse => rfl
    rw [hcounts, h.counts, CacheTurn.countsOf_concat, hexpiration]
    simp [CacheTurn.isHit, CacheTurn.isMiss, CacheTurn.ofAction, hget]
  expirations_eq hpos := by rw [hcounts]; exact h.expirations_eq hpos

/-- What a look-up tells while entries last, or where they never do. -/
theorem get_eq (h : Keeps lifetime done cache) (hlasting : lifetime = 0 ∨ cache.clock < lifetime)
    (name : String) : (cache.get name).1 = if lifetime = 0 then none else cache.known? name := by
  split
  · rename_i hzero
    exact get_of_lifetime_zero name (h.lifetime_eq.trans hzero)
  · rename_i hpos
    refine get_of_clock_lt name ?_
    rw [h.lifetime_eq]
    omega

theorem step_get (h : Keeps lifetime done cache) (hlasting : lifetime = 0 ∨ cache.clock < lifetime)
    (name : String) :
    Keeps lifetime (done ++ [.ofAction cache (.get name)]) (cache.get name).2 := by
  have hget := h.get_eq hlasting name
  have hcounts := counts_get cache name
  refine ⟨(lifetime_get cache name).trans h.lifetime_eq, ?_, fun name' => ?_, ?_, fun hpos => ?_⟩
  · simp [h.clock, CacheTurn.ofAction, CacheAction.millis]
  · rw [CacheTurn.historyOf_concat, known?_get, hget, h.held]
    by_cases hname : name' = name
    · subst hname
      by_cases hzero : lifetime = 0 <;> simp [CacheTurn.ofAction, held?, hzero]
    · simp [CacheTurn.ofAction, held?, hname, h.held]
  · rw [hcounts, h.counts, CacheTurn.countsOf_concat]
    cases hanswer : (cache.get name).1 <;>
      simp [CacheTurn.isHit, CacheTurn.isMiss, CacheTurn.isExpiration, CacheTurn.ofAction,
        CacheAction.run, CacheAction.isGet, hanswer]
  · have hzero := h.expirations_eq hpos
    rw [hcounts, hget, if_neg hpos]
    split
    · exact hzero
    · simp_all

/-- One action keeps what a cache holds and has counted. -/
theorem step (h : Keeps lifetime done cache) (hlasting : lifetime = 0 ∨ cache.clock < lifetime)
    (action : CacheAction) :
    Keeps lifetime (done ++ [.ofAction cache action]) (action.run cache).2 := by
  cases action with
  | get name => exact h.step_get hlasting name
  | insert name found =>
    refine h.step_of_not_get rfl rfl rfl rfl fun name' => ?_
    rw [CacheAction.run, known?_insert, h.held, held?]
  | invalidate name =>
    refine h.step_of_not_get rfl rfl rfl rfl fun name' => ?_
    rw [CacheAction.run, known?_invalidate, h.held, held?]
  | clear => exact h.step_of_not_get rfl rfl rfl rfl fun name' => rfl
  | elapse millis =>
    refine h.step_of_not_get rfl rfl rfl rfl fun name' => ?_
    rw [CacheAction.run, known?_elapse, h.held, held?]

/-- So the turn of an action is exact. -/
theorem exact (h : Keeps lifetime done cache) (hlasting : lifetime = 0 ∨ cache.clock < lifetime)
    (action : CacheAction) : (CacheTurn.ofAction cache action).Exact lifetime done where
  answered hpos name haction := by
    obtain rfl : action = .get name := haction
    have hheld := h.held name
    rw [decide_eq_false hpos] at hheld
    rw [← hheld]
    exact (h.get_eq hlasting name).trans (if_neg hpos)
  unanswered hzero := by
    cases action with
    | get name => exact (h.get_eq hlasting name).trans (if_pos hzero)
    | insert | invalidate | clear | elapse => rfl
  forgotten hzero name haction := by
    obtain rfl : action = .get name := haction
    have hnone : (cache.get name).1 = none := (h.get_eq hlasting name).trans (if_pos hzero)
    constructor
    · exact (known?_get cache name name).trans ((if_pos rfl).trans hnone)
    · simp only [CacheTurn.ofAction, CacheAction.run, counts_get, hnone, Option.isSome_none,
        Bool.false_eq_true, if_false]
  unchanged hget := by
    cases action with
    | get name => cases hget
    | insert | invalidate | clear | elapse => rfl
  present := h.held
  held := (h.step hlasting action).held
  size := size_eq_length (nodup_heldNames _ _) fun name => by
    rw [mem_heldNames_iff, ← (h.step hlasting action).held]
    rfl
  counts := (h.step hlasting action).counts
  asked := by
    rw [← CacheTurn.asked_countsOf, ← (h.step hlasting action).counts]
    rfl
  exact hfew := by
    obtain ⟨hhits, hmisses, hexpirations⟩ := CacheTurn.exact_countsOf hfew
    rw [← (h.step hlasting action).counts] at hhits hmisses hexpirations
    refine ⟨?_, hhits, ?_⟩
    · rw [← CacheTurn.countP_isHit_add_countP_isMiss, ← hhits, ← hmisses]
      rfl
    · have hle := CacheTurn.countP_isExpiration_le (done ++ [.ofAction cache action])
      rw [← hexpirations, ← hmisses] at hle
      exact UInt64.le_iff_toNat_le.2 hle
  expirations_eq := (h.step hlasting action).expirations_eq

end Keeps

end PartitionCache

/-! ## Clones -/

/-- Where caches keep what they share: entries and counts by place, under one clock. -/
structure CacheMemory where
  clock : Nat
  entries : Nat → Keyed CacheEntry
  counts : Nat → CacheCounts

/-- A cache as it is handed around: a lifetime, and the places of its entries and counts. -/
structure CacheHandle where
  lifetime : Nat
  entries : Nat
  counts : Nat
deriving DecidableEq

namespace CacheHandle

/-- Another handle with the same lifetime and places. -/
def clone (handle : CacheHandle) : CacheHandle :=
  { lifetime := handle.lifetime, entries := handle.entries, counts := handle.counts }

/-- A handle and what was cloned from it, from its clones, and so on. -/
inductive IsCloneOf (handle : CacheHandle) : CacheHandle → Prop where
  | self : IsCloneOf handle handle
  | clone {other : CacheHandle} (h : IsCloneOf handle other) : IsCloneOf handle other.clone

theorem IsCloneOf.eq {handle other : CacheHandle} (h : handle.IsCloneOf other) :
    other = handle := by
  induction h with
  | self => rfl
  | clone _ ih => exact ih ▸ rfl

end CacheHandle

/-- An action that is made through a handle. -/
structure CacheCall where
  handle : CacheHandle
  action : CacheAction

namespace CacheMemory

/-- The cache that a handle tells. -/
def cache (memory : CacheMemory) (handle : CacheHandle) : PartitionCache :=
  ⟨handle.lifetime, memory.clock, memory.entries handle.entries, memory.counts handle.counts⟩

/-- The memory with a cache in the places of a handle. -/
def store (memory : CacheMemory) (handle : CacheHandle) (cache : PartitionCache) : CacheMemory where
  clock := cache.clock
  entries := Function.update memory.entries handle.entries cache.entries
  counts := Function.update memory.counts handle.counts cache.counts

theorem cache_store (memory : CacheMemory) (handle : CacheHandle) (cache : PartitionCache)
    (hlifetime : cache.lifetime = handle.lifetime) :
    (memory.store handle cache).cache handle = cache := by
  simp [store, CacheMemory.cache, ← hlifetime]

/-- What some calls are answered, turn by turn, each in the cache of its own handle. -/
def turns (memory : CacheMemory) : List CacheCall → List CacheTurn
  | [] => []
  | ⟨handle, action⟩ :: calls =>
    let (answer, cache) := action.run (memory.cache handle)
    let memory' := memory.store handle cache
    ⟨action, answer, memory.cache handle, memory'.cache handle⟩ :: memory'.turns calls

theorem map_action_turns (calls : List CacheCall) (memory : CacheMemory) :
    (memory.turns calls).map CacheTurn.action = calls.map CacheCall.action := by
  induction calls generalizing memory with
  | nil => rfl
  | cons call calls ih => exact congrArg _ (ih _)

theorem turns_cons {memory : CacheMemory} {handle : CacheHandle} {action : CacheAction}
    {calls : List CacheCall} (h : (action.run (memory.cache handle)).2.lifetime = handle.lifetime) :
    memory.turns (⟨handle, action⟩ :: calls) =
      CacheTurn.ofAction (memory.cache handle) action ::
        (memory.store handle (action.run (memory.cache handle)).2).turns calls := by
  refine congrArg₂ List.cons ?_ rfl
  exact congrArg (CacheTurn.mk action _ _) (cache_store memory handle _ h)

/-- Through whichever clone an action comes, its turn is exact. -/
theorem exact_of_turns {handle : CacheHandle} {calls : List CacheCall} {memory : CacheMemory}
    {before : List CacheTurn} (hclones : ∀ call ∈ calls, handle.IsCloneOf call.handle)
    (h : PartitionCache.Keeps handle.lifetime before (memory.cache handle))
    (hlasting : handle.lifetime = 0 ∨
      memory.clock + (calls.map fun call => call.action.millis).sum < handle.lifetime)
    {done : List CacheTurn} {turn : CacheTurn} {rest : List CacheTurn}
    (hturns : memory.turns calls = done ++ turn :: rest) :
    turn.Exact handle.lifetime (before ++ done) := by
  induction calls generalizing memory before done with
  | nil => cases done <;> cases hturns
  | cons call calls ih =>
    obtain ⟨other, action⟩ := call
    obtain ⟨hclone, hclones⟩ := List.forall_mem_cons.1 hclones
    have heq : other = handle := hclone.eq
    subst heq
    simp only [List.map_cons, List.sum_cons] at hlasting
    have hnow : other.lifetime = 0 ∨ (memory.cache other).clock < other.lifetime := by
      simp only [CacheMemory.cache]
      omega
    have hstep := h.step hnow action
    rw [turns_cons hstep.lifetime_eq] at hturns
    cases done with
    | nil =>
      obtain ⟨rfl, -⟩ := List.cons.inj hturns
      rw [List.append_nil]
      exact h.exact hnow action
    | cons first done =>
      obtain ⟨rfl, hrest⟩ := List.cons.inj hturns
      rw [← cache_store memory other _ hstep.lifetime_eq] at hstep
      refine List.append_cons before _ done ▸ ih hclones hstep ?_ hrest
      have hclock : (memory.store other (action.run (memory.cache other)).2).clock =
          memory.clock + action.millis := by
        have hbefore : memory.clock = _ := h.clock
        rw [hbefore]
        refine hstep.clock.trans ?_
        rw [List.map_append, List.sum_append, List.map_singleton, List.sum_singleton]
        rfl
      omega

/-- Each turn finds the cache as the turn before left it. -/
theorem isChain_turns {handle : CacheHandle} {calls : List CacheCall} {memory : CacheMemory}
    (hclones : ∀ call ∈ calls, handle.IsCloneOf call.handle) :
    (memory.turns calls).IsChain fun earlier later => earlier.after = later.before := by
  induction calls generalizing memory with
  | nil => exact .nil
  | cons call calls ih =>
    obtain ⟨hclone, hclones⟩ := List.forall_mem_cons.1 hclones
    have hrest := @ih (memory.store call.handle (call.action.run (memory.cache call.handle)).2)
      hclones
    cases calls with
    | nil => exact .singleton _
    | cons next calls =>
      refine .cons_cons ?_ hrest
      have hsame : next.handle = call.handle :=
        (hclones next List.mem_cons_self).eq.trans hclone.eq.symm
      exact congrArg (CacheMemory.cache _) hsame.symm

end CacheMemory

/-- **A cache and its clones keep one map, and count exactly.** Whatever is done to a new cache,
through whichever of its clones, while its entries last or where they never do: each turn finds the
cache as the one before left it, a look-up is answered by the last insertion that nothing took back,
or by nothing where entries never last, and the counts are those of the look-ups so far, in words
and so exactly where there were fewer than `2 ^ 64`. -/
theorem clones_keep_one_map (handle : CacheHandle) (memory : CacheMemory)
    (hnew : memory.cache handle = .empty handle.lifetime) (calls : List CacheCall)
    (hclones : ∀ call ∈ calls, handle.IsCloneOf call.handle)
    (hlasting : handle.lifetime = 0 ∨
      (calls.map fun call => call.action.millis).sum < handle.lifetime) :
    (memory.turns calls).map CacheTurn.action = calls.map CacheCall.action ∧
    (memory.turns calls).IsChain (fun earlier later => earlier.after = later.before) ∧
    ∀ done turn rest, memory.turns calls = done ++ turn :: rest →
      turn.Exact handle.lifetime done := by
  refine ⟨CacheMemory.map_action_turns calls memory, CacheMemory.isChain_turns hclones, ?_⟩
  intro done turn rest hturns
  have hkeeps : PartitionCache.Keeps handle.lifetime [] (memory.cache handle) := by
    rw [hnew]
    exact .empty handle.lifetime
  have hclock : memory.clock = 0 := congrArg PartitionCache.clock hnew
  refine CacheMemory.exact_of_turns hclones hkeeps ?_ hturns
  rwa [hclock, Nat.zero_add]

/-- What a cache learns its clones tell; and where nothing lasts, one of them takes it away. -/
theorem clones_keep_one_map_of_two_names :
    let memory : CacheMemory := ⟨0, fun _ => .empty, fun _ => .zero⟩
    let calls (handle : CacheHandle) : List CacheCall :=
      [⟨handle, .insert "a" true⟩, ⟨handle.clone, .insert "b" false⟩,
        ⟨handle.clone.clone, .get "a"⟩, ⟨handle, .get "c"⟩]
    (∃ turn, (memory.turns (calls ⟨60000, 0, 0⟩))[2]? = some turn ∧ turn.answer = some true ∧
      turn.after.known? "b" = some false ∧ turn.after.counts.expirations = 0) ∧
    ∃ turn, (memory.turns (calls ⟨0, 3, 3⟩))[2]? = some turn ∧ turn.answer = none ∧
      turn.after.known? "b" = some false ∧ turn.after.known? "a" = none := by
  intro memory calls
  have hclones (handle : CacheHandle) : ∀ call ∈ calls handle, handle.IsCloneOf call.handle := by
    simp only [calls, List.forall_mem_cons, List.not_mem_nil, false_implies, implies_true, and_true]
    exact ⟨.self, .clone .self, .clone (.clone .self), .self⟩
  constructor
  · obtain ⟨-, -, hexact⟩ := clones_keep_one_map ⟨60000, 0, 0⟩ memory rfl (calls _) (hclones _)
      (.inr (by decide))
    have hturn := hexact [_, _] _ [_] rfl
    exact ⟨_, rfl, hturn.answered (by decide) "a" rfl, hturn.held "b",
      hturn.expirations_eq (by decide)⟩
  · obtain ⟨-, -, hexact⟩ := clones_keep_one_map ⟨0, 3, 3⟩ memory rfl (calls _) (hclones _)
      (.inl rfl)
    have hturn := hexact [_, _] _ [_] rfl
    exact ⟨_, rfl, hturn.unanswered rfl, hturn.held "b", (hturn.forgotten rfl "a" rfl).1⟩

end Logbook
