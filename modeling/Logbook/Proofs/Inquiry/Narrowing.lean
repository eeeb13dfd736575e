import Mathlib
import Logbook.Backend.Memory
import Logbook.Proofs.Inquiry.Looking

/-!
# Searches narrowed by what the cache knows

A session on a backend that is honest about its partitions, with a cache that is empty at first and
whose entries either never or at once cease to be fresh. Each step submits at most one search, which
differs from the one that it comes down to in its partitions only (`Narrowed`), and leaves a cache
that holds what the backend last answered (`Turn.Sound`). So no search is made without a partition
that exists, or of none at all (`narrowing_loses_no_partition`).
-/

set_option autoImplicit false

namespace Logbook

/-! ## Steps -/

/-- The search of those partitions that are kept, or of all partitions where none is. -/
def Search.keeping (search : Search) (scheme : PartitionScheme) (kept : List String) : Search :=
  { search with partitions := if kept.isEmpty then [scheme.everyPartition] else kept }

theorem Search.keeping_ne_nil (search : Search) (scheme : PartitionScheme) (kept : List String) :
    (search.keeping scheme kept).partitions ≠ [] := by
  cases kept with
  | nil => exact List.cons_ne_nil _ _
  | cons name rest => exact List.cons_ne_nil _ _

/-- A search in which some of the partitions of another are left out: none that is sought, and, but
for failures, all others. Where none would be left, it is a search of all partitions. -/
structure Narrowed (scheme : PartitionScheme) (present : String → Bool) (probes : List Probe)
    (search narrowed : Search) : Prop where
  kept : ∃ kept : List String, kept.Sublist search.partitions ∧
    (search.partitions.filter (isSought present)).Sublist kept ∧
    (∀ name ∈ kept, isSought present name = true ∨ ∃ fault, ⟨name, .error fault⟩ ∈ probes) ∧
    narrowed = search.keeping scheme kept
  ne_nil : narrowed.partitions ≠ []

/-- What a step asks of the backend, and what is known after it. -/
inductive Stepped (scheme : PartitionScheme) (present : String → Bool) (step : SessionStep)
    (cache : PartitionCache) : List Search → List Probe → PartitionCache → Prop where
  | idle (hsearch : step.search? scheme = none) :
      Stepped scheme present step cache [] [] (cache.elapse step.millis)
  | searched {search : Search} {kept : List String} {cache' : PartitionCache} {probes : List Probe}
      (hsearch : step.search? scheme = some search) (hmillis : step.millis = 0)
      (looks : LookedAll present search.partitions cache kept cache' probes) :
      Stepped scheme present step cache [search.keeping scheme kept] probes cache'

namespace Archive

variable {σ : Type} {archive : Archive (StateM σ)} {present : String → Bool} {holds : σ → Prop}

theorem lookedAll_of_submit (honest : archive.backend.Honest present holds) (operation : String)
    (search : Search) (cache : PartitionCache) (state : σ) (hstate : holds state) :
    ∃ outcome kept cache' probes state',
      archive.recorded.submit operation search (some cache) (.start state) =
        ((outcome, some cache'), ⟨state', [search.keeping archive.scheme kept], probes⟩) ∧
      LookedAll present search.partitions cache kept cache' probes ∧ holds state' := by
  obtain ⟨kept, cache', probes, state', hwanted, looks, hstate'⟩ :=
    lookedAll_of_wanted honest search.partitions cache (.start state) hstate
  have hstate'' : holds (archive.backend.search (search.keeping archive.scheme kept) state').2 :=
    honest.search hstate'
  rcases hreply : archive.backend.search (search.keeping archive.scheme kept) state' with
    ⟨reply, state''⟩
  rw [hreply] at hstate''
  refine ⟨reply.mapError (.unanswered operation), kept, cache', probes, state'', ?_, looks,
    hstate''⟩
  exact submit_eq archive.recorded (narrow_some archive.recorded hwanted)
    (Backend.recorded_search hreply)

theorem stepped_of_run (honest : archive.backend.Honest present holds) (step : SessionStep)
    (cache : PartitionCache) (state : σ) (hstate : holds state) :
    ∃ cache' record, step.run archive.recorded (some cache) (.start state) =
        (((), some cache'), record) ∧
      Stepped archive.scheme present step cache record.searches record.probes cache' ∧
      holds record.state := by
  cases step with
  | elapse millis => exact ⟨_, _, rfl, .idle rfl, hstate⟩
  | inquire now inquiry =>
    rcases hsearch : inquiry.search archive.scheme now with halt | search
    · refine ⟨cache, .start state, ?_, .idle ?_, hstate⟩
      · exact SessionStep.run_inquire (inquire_of_halt archive.recorded hsearch)
      · rw [SessionStep.search?, hsearch, Except.toOption]
    · obtain ⟨outcome, kept, cache', probes, state', hsubmit, looks, hstate'⟩ :=
        lookedAll_of_submit honest inquiry.operation search cache state hstate
      refine ⟨cache', ⟨state', _, _⟩, ?_, .searched ?_ rfl looks, hstate'⟩
      · exact SessionStep.run_inquire (inquire_of_search archive.recorded hsearch hsubmit)
      · rw [SessionStep.search?, hsearch, Except.toOption]
  | submit operation search =>
    obtain ⟨outcome, kept, cache', probes, state', hsubmit, looks, hstate'⟩ :=
      lookedAll_of_submit honest operation search cache state hstate
    exact ⟨cache', ⟨state', _, _⟩, SessionStep.run_submit hsubmit, .searched rfl rfl looks,
      hstate'⟩

end Archive

namespace Stepped

variable {scheme : PartitionScheme} {present : String → Bool} {step : SessionStep}
  {lifetime clock : Nat} {probes new : List Probe} {searches : List Search}
  {cache cache' : PartitionCache}

theorem faithful (stepped : Stepped scheme present step cache searches new cache')
    (h : Faithful present lifetime clock probes cache)
    (hlasting : lifetime = 0 ∨ clock < lifetime) :
    Faithful present lifetime (clock + step.millis) (probes ++ new) cache' := by
  cases stepped with
  | idle hsearch =>
    rw [List.append_nil]
    exact h.elapse step.millis
  | searched hsearch hmillis looks =>
    rw [hmillis]
    exact looks.faithful h hlasting

theorem narrowed (stepped : Stepped scheme present step cache searches new cache')
    (h : Faithful present lifetime clock probes cache)
    (hlasting : lifetime = 0 ∨ clock < lifetime) :
    List.Forall₂ (Narrowed scheme present new) (step.search? scheme).toList searches := by
  cases stepped with
  | idle hsearch =>
    rw [hsearch]
    exact .nil
  | @searched search kept _ _ hsearch hmillis looks =>
    rw [hsearch]
    refine .cons ⟨⟨kept, looks.sublist, looks.filter_sublist h hlasting,
      looks.isSought_or_failed h hlasting, rfl⟩, ?_⟩ .nil
    exact Search.keeping_ne_nil search scheme kept

end Stepped

/-! ## Sessions -/

namespace Turn

/-- The questions after partitions in some turns. -/
def probesOf (turns : List Turn) : List Probe := turns.flatMap Turn.probes

theorem probesOf_cons (turn : Turn) (turns : List Turn) :
    probesOf (turn :: turns) = turn.probes ++ probesOf turns := rfl

theorem mem_probesOf {turn : Turn} {turns : List Turn} (hturn : turn ∈ turns) {probe : Probe}
    (hprobe : probe ∈ turn.probes) : probe ∈ probesOf turns :=
  List.mem_flatMap.2 ⟨turn, hturn, hprobe⟩

/-- What a turn leaves in the cache is what was last answered, and is true; what it submits is the
search that its step comes down to, narrowed. -/
structure Sound (scheme : PartitionScheme) (present : String → Bool) (asked : List Probe)
    (turn : Turn) : Prop where
  cache : ∃ cache, turn.cache = some cache ∧
    (∀ name, cache.known? name = lastAnswer? name asked) ∧
    ∀ name found, cache.known? name = some found → found = present name
  searches : List.Forall₂ (Narrowed scheme present turn.probes) (turn.step.search? scheme).toList
    turn.searches

end Turn

/-- The search of just what is sought, where a step comes down to one. -/
def SessionStep.sought (scheme : PartitionScheme) (present : String → Bool) (step : SessionStep) :
    List Search :=
  (step.search? scheme).toList.map fun search =>
    search.keeping scheme (search.partitions.filter (isSought present))

/-- Where no question fails, what is kept is what is sought. -/
theorem Narrowed.eq_keeping {scheme : PartitionScheme} {present : String → Bool}
    {probes : List Probe} {search narrowed : Search}
    (h : Narrowed scheme present probes search narrowed)
    (hok : ∀ probe ∈ probes, probe.answer.isOk = true) :
    narrowed = search.keeping scheme (search.partitions.filter (isSought present)) := by
  obtain ⟨kept, hsub, hsought, hkept, heq⟩ := h.kept
  have hall : ∀ name ∈ kept, isSought present name = true := by
    intro name hname
    rcases hkept name hname with hname | ⟨fault, hfault⟩
    · exact hname
    · cases hok _ hfault
  have hfilter : kept.filter (isSought present) = kept := List.filter_eq_self.2 hall
  have hle : kept.Sublist (search.partitions.filter (isSought present)) := by
    rw [← hfilter]
    exact hsub.filter _
  rw [heq, hle.antisymm hsought]

theorem Turn.Sound.searches_eq {scheme : PartitionScheme} {present : String → Bool}
    {asked : List Probe} {turn : Turn} (h : turn.Sound scheme present asked)
    (hok : ∀ probe ∈ turn.probes, probe.answer.isOk = true) :
    turn.searches = turn.step.sought scheme present := by
  have hsearches : List.Forall₂ (fun search narrowed =>
      search.keeping scheme (search.partitions.filter (isSought present)) = narrowed)
      (turn.step.search? scheme).toList turn.searches := by
    refine h.searches.imp ?_
    intro search narrowed hnarrowed
    exact (hnarrowed.eq_keeping hok).symm
  rw [← List.forall₂_map_left_iff, List.forall₂_eq_eq_eq] at hsearches
  exact hsearches.symm

namespace Archive

variable {σ : Type} {archive : Archive (StateM σ)} {present : String → Bool} {holds : σ → Prop}
  {lifetime : Nat}

theorem turns_cons (honest : archive.backend.Honest present holds) (step : SessionStep)
    (steps : List SessionStep) (cache : PartitionCache) (state : σ) (hstate : holds state) :
    ∃ cache' : PartitionCache, ∃ record : Recorded σ,
      archive.turns (step :: steps) (some cache) state =
        ⟨step, record.searches, record.probes, some cache'⟩ ::
          archive.turns steps (some cache') record.state ∧
      Stepped archive.scheme present step cache record.searches record.probes cache' ∧
      holds record.state := by
  obtain ⟨cache', record, hrun, stepped, hstate'⟩ := stepped_of_run honest step cache state hstate
  refine ⟨cache', record, ?_, stepped, hstate'⟩
  rw [turns, hrun]

theorem map_step_turns (steps : List SessionStep) (cache : Option PartitionCache) (state : σ) :
    (archive.turns steps cache state).map Turn.step = steps := by
  induction steps generalizing cache state with
  | nil => rfl
  | cons step steps ih => exact congrArg (List.cons step) (ih _ _)

/-- Every turn is sound: the invariant holds when it begins, with all that was asked until then. -/
theorem sound_of_turns (honest : archive.backend.Honest present holds) {steps : List SessionStep}
    {clock : Nat} {asked : List Probe} {cache : PartitionCache} {state : σ} (hstate : holds state)
    (h : Faithful present lifetime clock asked cache)
    (hlasting : lifetime = 0 ∨ clock + (steps.map SessionStep.millis).sum < lifetime)
    {done rest : List Turn} {turn : Turn}
    (hturns : archive.turns steps (some cache) state = done ++ turn :: rest) :
    turn.Sound archive.scheme present (asked ++ Turn.probesOf (done ++ [turn])) := by
  induction steps generalizing clock asked cache state done with
  | nil =>
    rw [turns] at hturns
    cases done with
    | nil => cases hturns
    | cons _ _ => cases hturns
  | cons step steps ih =>
    obtain ⟨cache', record, hcons, stepped, hstate'⟩ :=
      turns_cons honest step steps cache state hstate
    rw [List.map_cons, List.sum_cons] at hlasting
    have hnow : lifetime = 0 ∨ clock < lifetime := by omega
    have h' := stepped.faithful h hnow
    rw [hcons] at hturns
    cases done with
    | nil =>
      rw [List.nil_append, List.cons.injEq] at hturns
      obtain ⟨rfl, -⟩ := hturns
      rw [List.nil_append, Turn.probesOf_cons, Turn.probesOf, List.flatMap_nil, List.append_nil]
      exact ⟨⟨cache', rfl, h'.last, h'.truth⟩, stepped.narrowed h hnow⟩
    | cons first done =>
      rw [List.cons_append, List.cons.injEq] at hturns
      obtain ⟨rfl, hrest⟩ := hturns
      rw [List.cons_append, Turn.probesOf_cons, ← List.append_assoc]
      exact ih hstate' h' (by omega) hrest

/-- Where entries stay fresh, no question is repeated once it was answered. -/
theorem once_of_turns (honest : archive.backend.Honest present holds) {steps : List SessionStep}
    {clock : Nat} {asked : List Probe} {cache : PartitionCache} {state : σ} (hstate : holds state)
    (h : Faithful present lifetime clock asked cache)
    (hlasting : clock + (steps.map SessionStep.millis).sum < lifetime) :
    (asked ++ Turn.probesOf (archive.turns steps (some cache) state)).Pairwise
      fun earlier later => earlier.answer.isOk = true → earlier.name ≠ later.name := by
  induction steps generalizing clock asked cache state with
  | nil =>
    rw [turns, Turn.probesOf, List.flatMap_nil, List.append_nil]
    exact h.once (by omega)
  | cons step steps ih =>
    obtain ⟨cache', record, hcons, stepped, hstate'⟩ :=
      turns_cons honest step steps cache state hstate
    rw [List.map_cons, List.sum_cons] at hlasting
    rw [hcons, Turn.probesOf_cons, ← List.append_assoc]
    exact ih hstate' (stepped.faithful h (by omega)) (by omega)

/-- Where no question fails, what a session submits does not depend on how long entries last. -/
theorem searches_of_turns (honest : archive.backend.Honest present holds)
    {steps : List SessionStep} {state : σ} (hstate : holds state)
    (hlasting : lifetime = 0 ∨ (steps.map SessionStep.millis).sum < lifetime)
    (hok : ∀ probe ∈ Turn.probesOf (archive.turns steps (some (.empty lifetime)) state),
      probe.answer.isOk = true) :
    (archive.turns steps (some (.empty lifetime)) state).map Turn.searches =
      steps.map (SessionStep.sought archive.scheme present) := by
  have hturn : ∀ turn ∈ archive.turns steps (some (.empty lifetime)) state,
      turn.searches = turn.step.sought archive.scheme present := by
    intro turn hturn
    obtain ⟨done, rest, hsplit⟩ := List.append_of_mem hturn
    have hsound := sound_of_turns honest hstate (.empty present lifetime)
      (by rwa [Nat.zero_add]) hsplit
    exact hsound.searches_eq fun probe hprobe => hok probe (Turn.mem_probesOf hturn hprobe)
  calc (archive.turns steps (some (.empty lifetime)) state).map Turn.searches
    _ = (archive.turns steps (some (.empty lifetime)) state).map
          fun turn => turn.step.sought archive.scheme present := List.map_congr_left hturn
    _ = ((archive.turns steps (some (.empty lifetime)) state).map Turn.step).map
          (SessionStep.sought archive.scheme present) := by
      rw [List.map_map]
      rfl
    _ = steps.map (SessionStep.sought archive.scheme present) := by rw [map_step_turns]

end Archive

/-- **No search is made without a partition that exists.** Whatever the steps of a session are, the
cache holds the last answer to each question and nothing untrue; a search is narrowed to what is
sought and what could not be found out about, and never to nothing. While entries last no question
is repeated once it was answered; and unless one fails, it makes no difference to the searches
whether entries last or not. -/
theorem narrowing_loses_no_partition {σ : Type} (archive : Archive (StateM σ))
    (present : String → Bool) (holds : σ → Prop) (honest : archive.backend.Honest present holds)
    (steps : List SessionStep) (lifetime : Nat)
    (hlasting : lifetime = 0 ∨ (steps.map SessionStep.millis).sum < lifetime) (state : σ)
    (hstate : holds state) :
    (archive.turns steps (some (.empty lifetime)) state).map Turn.step = steps ∧
    (∀ done turn rest,
      archive.turns steps (some (.empty lifetime)) state = done ++ turn :: rest →
      turn.Sound archive.scheme present (Turn.probesOf (done ++ [turn]))) ∧
    (lifetime ≠ 0 →
      (Turn.probesOf (archive.turns steps (some (.empty lifetime)) state)).Pairwise
        fun earlier later => earlier.answer.isOk = true → earlier.name ≠ later.name) ∧
    ((∀ probe ∈ Turn.probesOf (archive.turns steps (some (.empty lifetime)) state),
        probe.answer.isOk = true) →
      (∀ probe ∈ Turn.probesOf (archive.turns steps (some (.empty 0)) state),
        probe.answer.isOk = true) →
      (archive.turns steps (some (.empty lifetime)) state).map Turn.searches =
        (archive.turns steps (some (.empty 0)) state).map Turn.searches) := by
  refine ⟨Archive.map_step_turns steps _ state, ?_, ?_, ?_⟩
  · intro done turn rest hturns
    exact Archive.sound_of_turns honest hstate (.empty present lifetime)
      (by rwa [Nat.zero_add]) hturns
  · intro hpos
    exact Archive.once_of_turns honest hstate (.empty present lifetime) (by omega)
  · intro hok hok'
    rw [Archive.searches_of_turns honest hstate hlasting hok,
      Archive.searches_of_turns honest hstate (.inl rfl) hok']

/-- A backend in memory is honest about the partitions that it holds. -/
theorem Memory.honest (names : List String) :
    backend.Honest names.contains fun memory => memory.partitions = names where
  truth := by
    rintro name memory found rfl hfound
    cases hfound
    rfl
  hasPartition := by
    rintro name memory rfl
    rfl
  search := by
    rintro search memory rfl
    rfl

/-- Two searches of two days, of which one has a partition, within the lifetime of the cache. -/
theorem narrowing_loses_no_partition_in_memory :
    let archive : Archive (StateM Memory) := ⟨Memory.backend, ⟨"logs", ⟨0, by decide, by decide⟩⟩⟩
    let present := ["logs-2024.01.02"].contains
    let search : Search :=
      ⟨.request, ["logs-2024.01.01", "logs-2024.01.02"], [], none, 0, 10, none, []⟩
    let turns := archive.turns [.submit "logs" search, .elapse 30000, .submit "logs" search]
      (some (.empty 60000)) (.ofPartitions ["logs-2024.01.02"] ⟨none, false, 0, [], none⟩)
    (∀ done turn rest, turns = done ++ turn :: rest →
      turn.Sound archive.scheme present (Turn.probesOf (done ++ [turn]))) ∧
    (Turn.probesOf turns).Pairwise
      fun earlier later => earlier.answer.isOk = true → earlier.name ≠ later.name := by
  intro archive present search turns
  obtain ⟨-, hsound, honce, -⟩ := narrowing_loses_no_partition archive present
    (fun memory => memory.partitions = ["logs-2024.01.02"]) (Memory.honest _)
    [.submit "logs" search, .elapse 30000, .submit "logs" search] 60000 (.inr (by decide))
    (.ofPartitions ["logs-2024.01.02"] ⟨none, false, 0, [], none⟩) rfl
  exact ⟨hsound, honce (by decide)⟩

end Logbook
