import Logbook.Proofs.Cache
import Logbook.Proofs.Inquiry.Recording

/-!
# Looking for partitions

A backend is honest about its partitions if it tells the truth about them whenever it tells anything
(`Backend.Honest`). One look at a partition (`Looked`), and so one at each of several (`LookedAll`),
keeps the invariant `Faithful` where entries never or at once cease to be fresh: the cache holds the
answer to the last question after each partition, and no question is repeated while its answer is
held. Then no partition that exists is left out (`LookedAll.filter_sublist`), and another is kept
only if nothing could be found out about it (`LookedAll.isSought_or_failed`).
-/

set_option autoImplicit false

namespace Logbook

/-- The answer to the last question after a partition, if it was asked for and answered. -/
def lastAnswer? (name : String) (probes : List Probe) : Option Bool :=
  (probes.filter fun probe => name = probe.name).getLast?.bind fun probe => probe.answer.toOption

theorem lastAnswer?_concat (name : String) (probes : List Probe) (probe : Probe) :
    lastAnswer? name (probes ++ [probe]) =
      if name = probe.name then probe.answer.toOption else lastAnswer? name probes := by
  unfold lastAnswer?
  rw [List.filter_append]
  by_cases h : name = probe.name
  · rw [if_pos h, List.filter_cons_of_pos (by simpa using h), List.filter_nil,
      List.getLast?_concat, Option.bind_some]
  · rw [if_neg h, List.filter_cons_of_neg (by simpa using h), List.filter_nil, List.append_nil]

/-- The name is a pattern, or that of a partition that exists. -/
def isSought (present : String → Bool) (name : String) : Bool := name.contains '*' || present name

/-! ## One look at a partition -/

/-- How it comes out whether a partition is wanted, what is known then, and what was asked. -/
inductive Looked (present : String → Bool) (name : String) (cache : PartitionCache) :
    Bool → PartitionCache → List Probe → Prop where
  | pattern (hstar : name.contains '*' = true) : Looked present name cache true cache []
  | known {found : Bool} (hstar : name.contains '*' = false)
      (hget : (cache.get name).1 = some found) :
      Looked present name cache found (cache.get name).2 []
  | found (hstar : name.contains '*' = false) (hget : (cache.get name).1 = none) :
      Looked present name cache (present name) ((cache.get name).2.insert name (present name))
        [⟨name, .ok (present name)⟩]
  | failed (fault : BackendFault) (hstar : name.contains '*' = false)
      (hget : (cache.get name).1 = none) :
      Looked present name cache true (cache.get name).2 [⟨name, .error fault⟩]

/-- The partitions that are wanted, found out one after the other. -/
inductive LookedAll (present : String → Bool) :
    List String → PartitionCache → List String → PartitionCache → List Probe → Prop where
  | nil (cache : PartitionCache) : LookedAll present [] cache [] cache []
  | cons {name : String} {names rest : List String} {isWanted : Bool}
      {cache cache₁ cache₂ : PartitionCache} {probes₁ probes₂ : List Probe}
      (first : Looked present name cache isWanted cache₁ probes₁)
      (later : LookedAll present names cache₁ rest cache₂ probes₂) :
      LookedAll present (name :: names) cache (if isWanted then name :: rest else rest) cache₂
        (probes₁ ++ probes₂)

/-- What a backend tells about its partitions is true, as long as a property holds of its state that
nothing it is asked takes away. It need not tell anything. -/
structure Backend.Honest {σ : Type} (backend : Backend (StateM σ)) (present : String → Bool)
    (holds : σ → Prop) : Prop where
  truth : ∀ {name state found}, holds state →
    (backend.hasPartition name state).1 = .ok found → found = present name
  hasPartition : ∀ {name state}, holds state → holds (backend.hasPartition name state).2
  search : ∀ {search state}, holds state → holds (backend.search search state).2

namespace Archive

variable {σ : Type} {archive : Archive (StateM σ)} {present : String → Bool} {holds : σ → Prop}

theorem looked_of_isWanted (honest : archive.backend.Honest present holds) (name : String)
    (cache : PartitionCache) (record : Recorded σ) (hstate : holds record.state) :
    ∃ isWanted cache' probes state',
      archive.recorded.isWanted name cache record =
        ((isWanted, cache'),
          { record with state := state', probes := record.probes ++ probes }) ∧
      Looked present name cache isWanted cache' probes ∧ holds state' := by
  rcases hstar : name.contains '*' with _ | _
  · rcases hget : (cache.get name).1 with _ | found
    · have hstate' : holds (archive.backend.hasPartition name record.state).2 :=
        honest.hasPartition hstate
      rcases hprobe : archive.backend.hasPartition name record.state with ⟨fault | found, state'⟩
      · rw [hprobe] at hstate'
        refine ⟨_, _, _, state', ?_, .failed fault hstar hget, hstate'⟩
        exact isWanted_of_fault archive.recorded hstar hget (Backend.recorded_hasPartition hprobe)
      · rw [hprobe] at hstate'
        have htrue : found = present name := honest.truth hstate (by rw [hprobe])
        subst htrue
        refine ⟨_, _, _, state', ?_, .found hstar hget, hstate'⟩
        exact isWanted_of_found archive.recorded hstar hget (Backend.recorded_hasPartition hprobe)
    · refine ⟨_, _, [], record.state, ?_, .known hstar hget, hstate⟩
      rw [isWanted_of_known archive.recorded hstar hget, List.append_nil]
  · refine ⟨_, _, [], record.state, ?_, .pattern hstar, hstate⟩
    rw [isWanted_of_pattern archive.recorded hstar, List.append_nil]

theorem lookedAll_of_wanted (honest : archive.backend.Honest present holds) (names : List String)
    (cache : PartitionCache) (record : Recorded σ) (hstate : holds record.state) :
    ∃ kept cache' probes state',
      archive.recorded.wanted names cache record =
        ((kept, cache'), { record with state := state', probes := record.probes ++ probes }) ∧
      LookedAll present names cache kept cache' probes ∧ holds state' := by
  induction names generalizing cache record with
  | nil =>
    refine ⟨[], cache, [], record.state, ?_, .nil cache, hstate⟩
    rw [wanted_nil, List.append_nil]
  | cons name names ih =>
    obtain ⟨isWanted, cache₁, probes₁, state₁, hfirst, first, hstate₁⟩ :=
      looked_of_isWanted honest name cache record hstate
    obtain ⟨rest, cache₂, probes₂, state₂, hlater, later, hstate₂⟩ :=
      ih cache₁ { record with state := state₁, probes := record.probes ++ probes₁ } hstate₁
    refine ⟨_, cache₂, probes₁ ++ probes₂, state₂, ?_, .cons first later, hstate₂⟩
    rw [wanted_cons archive.recorded hfirst hlater, List.append_assoc]

end Archive

/-! ## The invariant -/

/-- What holds of a cache when so much time has gone by and these questions were asked. -/
structure Faithful (present : String → Bool) (lifetime clock : Nat) (probes : List Probe)
    (cache : PartitionCache) : Prop where
  lifetime_eq : cache.lifetime = lifetime
  clock_eq : cache.clock = clock
  last : ∀ name, cache.known? name = lastAnswer? name probes
  truth : ∀ name found, cache.known? name = some found → found = present name
  held : lifetime ≠ 0 → ∀ probe ∈ probes, probe.answer.isOk = true →
    (cache.known? probe.name).isSome = true
  once : lifetime ≠ 0 → probes.Pairwise fun earlier later =>
    earlier.answer.isOk = true → earlier.name ≠ later.name

namespace Faithful

variable {present : String → Bool} {lifetime clock : Nat} {probes : List Probe}
  {cache cache' : PartitionCache} {name : String}

theorem empty (present : String → Bool) (lifetime : Nat) :
    Faithful present lifetime 0 [] (.empty lifetime) where
  lifetime_eq := rfl
  clock_eq := rfl
  last name := PartitionCache.known?_empty name lifetime
  truth name found h := by
    rw [PartitionCache.known?_empty] at h
    cases h
  held _ _ h := by cases h
  once _ := .nil

theorem elapse (h : Faithful present lifetime clock probes cache) (millis : Nat) :
    Faithful present lifetime (clock + millis) probes (cache.elapse millis) where
  lifetime_eq := h.lifetime_eq
  clock_eq := by rw [PartitionCache.elapse, h.clock_eq]
  last name := by rw [PartitionCache.known?_elapse, h.last]
  truth name found hfound := by
    rw [PartitionCache.known?_elapse] at hfound
    exact h.truth name found hfound
  held hpos probe hprobe hok := by
    rw [PartitionCache.known?_elapse]
    exact h.held hpos probe hprobe hok
  once := h.once

/-- A look-up that tells something takes nothing away. -/
theorem get (h : Faithful present lifetime clock probes cache) {found : Bool}
    (hget : (cache.get name).1 = some found) :
    Faithful present lifetime clock probes (cache.get name).2 := by
  have hsame : ∀ name', (cache.get name).2.known? name' = cache.known? name' := by
    intro name'
    rw [PartitionCache.known?_get]
    split
    · rename_i heq
      rw [hget, heq, PartitionCache.known?_of_get hget]
    · rfl
  constructor
  · rw [PartitionCache.lifetime_get, h.lifetime_eq]
  · rw [PartitionCache.clock_get, h.clock_eq]
  · intro name'
    rw [hsame, h.last]
  · intro name' found' hknown
    rw [hsame] at hknown
    exact h.truth name' found' hknown
  · intro hlifetime probe hprobe hok
    rw [hsame]
    exact h.held hlifetime probe hprobe hok
  · exact h.once

/-- Where entries stay fresh, a partition about which nothing is told was never found out about. -/
theorem name_ne_of_get (h : Faithful present lifetime clock probes cache)
    (hclock : clock < lifetime) (hget : (cache.get name).1 = none) {probe : Probe}
    (hprobe : probe ∈ probes) (hok : probe.answer.isOk = true) : probe.name ≠ name := by
  intro heq
  have hheld := h.held (by omega) probe hprobe hok
  have hfresh : cache.clock < cache.lifetime := by
    rw [h.clock_eq, h.lifetime_eq]
    exact hclock
  rw [heq, ← PartitionCache.get_of_clock_lt name hfresh, hget] at hheld
  cases hheld

/-- A question whose answer was not held is added, and what it was answered is held from now on. -/
theorem ask (h : Faithful present lifetime clock probes cache)
    (hlasting : lifetime = 0 ∨ clock < lifetime) (hget : (cache.get name).1 = none)
    {answer : Except BackendFault Bool} (htrue : ∀ found, answer = .ok found → found = present name)
    (hlifetime : cache'.lifetime = lifetime) (hclock : cache'.clock = clock)
    (hknown : ∀ name', cache'.known? name' =
      if name' = name then answer.toOption else cache.known? name') :
    Faithful present lifetime clock (probes ++ [⟨name, answer⟩]) cache' := by
  have hne : lifetime ≠ 0 → ∀ probe ∈ probes, probe.answer.isOk = true → probe.name ≠ name := by
    intro hlifetime probe hprobe hok
    exact h.name_ne_of_get (by omega) hget hprobe hok
  constructor
  · exact hlifetime
  · exact hclock
  · intro name'
    rw [hknown, lastAnswer?_concat, h.last]
  · intro name' found hfound
    rw [hknown] at hfound
    split at hfound
    · rename_i heq
      subst heq
      cases answer with
      | error fault => cases hfound
      | ok found' =>
        cases hfound
        exact htrue found rfl
    · exact h.truth name' found hfound
  · intro hpos probe hprobe hok
    rw [hknown]
    rcases List.mem_append.1 hprobe with hearlier | hnew
    · rw [if_neg (hne hpos probe hearlier hok)]
      exact h.held hpos probe hearlier hok
    · rw [List.mem_singleton.1 hnew] at hok ⊢
      rw [if_pos rfl]
      cases answer with
      | error fault => cases hok
      | ok found => rfl
  · intro hpos
    refine List.pairwise_append.2 ⟨h.once hpos, List.pairwise_singleton _ _, ?_⟩
    intro earlier hearlier later hlater hok
    rw [List.mem_singleton.1 hlater]
    exact hne hpos earlier hearlier hok

end Faithful

namespace Looked

variable {present : String → Bool} {lifetime clock : Nat} {probes new : List Probe}
  {cache cache' : PartitionCache} {name : String} {isWanted : Bool}

/-- The invariant is kept by one look. -/
theorem faithful (look : Looked present name cache isWanted cache' new)
    (h : Faithful present lifetime clock probes cache)
    (hlasting : lifetime = 0 ∨ clock < lifetime) :
    Faithful present lifetime clock (probes ++ new) cache' := by
  cases look with
  | pattern hstar =>
    rw [List.append_nil]
    exact h
  | known hstar hget =>
    rw [List.append_nil]
    exact h.get hget
  | found hstar hget =>
    refine h.ask hlasting hget ?_ ?_ ?_ ?_
    · intro found hfound
      cases hfound
      rfl
    · rw [PartitionCache.lifetime_insert, PartitionCache.lifetime_get, h.lifetime_eq]
    · rw [PartitionCache.clock_insert, PartitionCache.clock_get, h.clock_eq]
    · intro name'
      rw [PartitionCache.known?_insert, PartitionCache.known?_get, hget]
      split
      · rfl
      · rfl
  | failed fault hstar hget =>
    refine h.ask hlasting hget ?_ ?_ ?_ ?_
    · intro found hfound
      cases hfound
    · rw [PartitionCache.lifetime_get, h.lifetime_eq]
    · rw [PartitionCache.clock_get, h.clock_eq]
    · intro name'
      rw [PartitionCache.known?_get, hget]
      rfl

/-- What is sought is wanted. -/
theorem isWanted_of_isSought (look : Looked present name cache isWanted cache' new)
    (h : Faithful present lifetime clock probes cache) (hsought : isSought present name = true) :
    isWanted = true := by
  cases look with
  | pattern hstar => rfl
  | known hstar hget =>
    rw [isSought, hstar, Bool.false_or] at hsought
    rw [h.truth name isWanted (PartitionCache.known?_of_get hget), hsought]
  | found hstar hget =>
    rw [isSought, hstar, Bool.false_or] at hsought
    exact hsought
  | failed fault hstar hget => rfl

/-- What is wanted is sought, unless nothing could be found out. -/
theorem isSought_or_failed (look : Looked present name cache isWanted cache' new)
    (h : Faithful present lifetime clock probes cache) (hwanted : isWanted = true) :
    isSought present name = true ∨ ∃ fault, ⟨name, .error fault⟩ ∈ new := by
  cases look with
  | pattern hstar => exact .inl (by rw [isSought, hstar, Bool.true_or])
  | known hstar hget =>
    have hpresent := h.truth name isWanted (PartitionCache.known?_of_get hget)
    exact .inl (by rw [isSought, ← hpresent, hwanted, Bool.or_true])
  | found hstar hget => exact .inl (by rw [isSought, hwanted, Bool.or_true])
  | failed fault hstar hget => exact .inr ⟨fault, List.mem_singleton_self _⟩

end Looked

namespace LookedAll

variable {present : String → Bool} {lifetime clock : Nat} {probes new : List Probe}
  {cache cache' : PartitionCache} {names kept : List String}

theorem faithful (looks : LookedAll present names cache kept cache' new)
    (h : Faithful present lifetime clock probes cache)
    (hlasting : lifetime = 0 ∨ clock < lifetime) :
    Faithful present lifetime clock (probes ++ new) cache' := by
  induction looks generalizing probes with
  | nil cache =>
    rw [List.append_nil]
    exact h
  | cons first later ih =>
    rw [← List.append_assoc]
    exact ih (first.faithful h hlasting)

theorem sublist (looks : LookedAll present names cache kept cache' new) :
    kept.Sublist names := by
  induction looks with
  | nil cache => exact .slnil
  | @cons name names rest isWanted _ _ _ _ _ first later ih =>
    cases isWanted with
    | false => exact ih.cons name
    | true => exact ih.cons_cons name

/-- No name that is sought is lost. -/
theorem filter_sublist (looks : LookedAll present names cache kept cache' new)
    (h : Faithful present lifetime clock probes cache)
    (hlasting : lifetime = 0 ∨ clock < lifetime) :
    (names.filter (isSought present)).Sublist kept := by
  induction looks generalizing probes with
  | nil cache => exact .slnil
  | @cons name names rest isWanted _ _ _ _ _ first later ih =>
    have hrest := ih (first.faithful h hlasting)
    rcases hsought : isSought present name with _ | _
    · rw [List.filter_cons_of_neg (by rw [hsought]; exact Bool.false_ne_true)]
      cases isWanted with
      | false => exact hrest
      | true => exact hrest.cons name
    · rw [List.filter_cons_of_pos hsought, first.isWanted_of_isSought h hsought, if_pos rfl]
      exact hrest.cons_cons name

/-- No other name is kept, unless nothing could be found out about it. -/
theorem isSought_or_failed (looks : LookedAll present names cache kept cache' new)
    (h : Faithful present lifetime clock probes cache)
    (hlasting : lifetime = 0 ∨ clock < lifetime) :
    ∀ name ∈ kept, isSought present name = true ∨ ∃ fault, ⟨name, .error fault⟩ ∈ new := by
  induction looks generalizing probes with
  | nil cache =>
    intro name hname
    cases hname
  | @cons name names rest isWanted _ _ _ new₁ new₂ first later ih =>
    have hrest : ∀ name' ∈ rest,
        isSought present name' = true ∨ ∃ fault, ⟨name', .error fault⟩ ∈ new₁ ++ new₂ := by
      intro name' hname
      refine (ih (first.faithful h hlasting) name' hname).imp_right ?_
      rintro ⟨fault, hfault⟩
      exact ⟨fault, List.mem_append_right _ hfault⟩
    cases isWanted with
    | false => exact hrest
    | true =>
      intro name' hname
      rcases List.mem_cons.1 hname with rfl | hname
      · refine (first.isSought_or_failed h rfl).imp_right ?_
        rintro ⟨fault, hfault⟩
        exact ⟨fault, List.mem_append_left _ hfault⟩
      · exact hrest name' hname

end LookedAll

end Logbook
