import Logbook.Inquiry.Session

/-!
# Sessions on a backend with a state

Where a backend is a function of its state, so are the steps of a session. Each rule below says what
one step returns and leaves behind, given what the steps that it is made of do: a partition is
looked up (`isWanted_of_pattern`, `isWanted_of_known`, `isWanted_of_found`,
`isWanted_of_fault`), then the next (`wanted_cons`), a search is narrowed and submitted
(`narrow_some`, `submit_eq`), and an inquiry has no search or submits it (`inquire_of_halt`,
`inquire_of_search`).
-/

set_option autoImplicit false

namespace Logbook

namespace Archive

variable {σ : Type} (archive : Archive (StateM σ))

/-! ## Partitions -/

section Partitions

variable {name : String} {cache : PartitionCache} {state state' : σ}

theorem isWanted_of_pattern (h : name.contains '*' = true) :
    archive.isWanted name cache state = ((true, cache), state) := by
  unfold isWanted
  rw [if_pos h]
  rfl

theorem isWanted_eq (h : name.contains '*' = false) :
    archive.isWanted name cache state =
      match (cache.get name).1 with
      | some found => ((found, (cache.get name).2), state)
      | none =>
        match (archive.backend.hasPartition name state).1 with
        | .ok found =>
          ((found, (cache.get name).2.insert name found),
            (archive.backend.hasPartition name state).2)
        | .error _ =>
          ((true, (cache.get name).2), (archive.backend.hasPartition name state).2) := by
  unfold isWanted
  rw [h, if_neg Bool.false_ne_true]
  -- the look-up is made, so that what follows is a match on what it told
  change (match (cache.get name).1 with
    | some found => (pure found : StateT PartitionCache (StateM σ) Bool)
    | none => _) (cache.get name).2 state = _
  cases (cache.get name).1 with
  | some found => rfl
  | none =>
    change (match (archive.backend.hasPartition name state).1 with
      | .ok found => _
      | .error _ => _ : StateT PartitionCache (StateM σ) Bool) (cache.get name).2
        (archive.backend.hasPartition name state).2 = _
    cases (archive.backend.hasPartition name state).1 with
    | ok found => rfl
    | error fault => rfl

theorem isWanted_of_known (h : name.contains '*' = false) {found : Bool}
    (hget : (cache.get name).1 = some found) :
    archive.isWanted name cache state = ((found, (cache.get name).2), state) := by
  rw [isWanted_eq archive h, hget]

theorem isWanted_of_found (h : name.contains '*' = false) (hget : (cache.get name).1 = none)
    {found : Bool} (hprobe : archive.backend.hasPartition name state = (.ok found, state')) :
    archive.isWanted name cache state =
      ((found, (cache.get name).2.insert name found), state') := by
  rw [isWanted_eq archive h, hget, hprobe]

theorem isWanted_of_fault (h : name.contains '*' = false) (hget : (cache.get name).1 = none)
    {fault : BackendFault}
    (hprobe : archive.backend.hasPartition name state = (.error fault, state')) :
    archive.isWanted name cache state = ((true, (cache.get name).2), state') := by
  rw [isWanted_eq archive h, hget, hprobe]

theorem wanted_nil : archive.wanted [] cache state = (([], cache), state) := rfl

theorem wanted_cons {names rest : List String} {isWanted : Bool} {cache₁ cache₂ : PartitionCache}
    {state₁ state₂ : σ} (hfirst : archive.isWanted name cache state = ((isWanted, cache₁), state₁))
    (hrest : archive.wanted names cache₁ state₁ = ((rest, cache₂), state₂)) :
    archive.wanted (name :: names) cache state =
      ((if isWanted then name :: rest else rest, cache₂), state₂) := by
  change (let ((isWanted, cache₁), state₁) := archive.isWanted name cache state
    let ((rest, cache₂), state₂) := archive.wanted names cache₁ state₁
    ((if isWanted then name :: rest else rest, cache₂), state₂)) = _
  rw [hfirst]
  dsimp only
  rw [hrest]

end Partitions

/-! ## Searches -/

section Searches

variable {operation : String} {search narrowed : Search} {cache cache' : Option PartitionCache}
  {state state' : σ}

/-- Where there is no cache a search is made as it is. -/
theorem narrow_none : archive.narrow search none state = ((search, none), state) := rfl

theorem narrow_some {names : List String} {cache cache' : PartitionCache}
    (h : archive.wanted search.partitions cache state = ((names, cache'), state')) :
    archive.narrow search (some cache) state =
      (({ search with
          partitions := if names.isEmpty then [archive.scheme.everyPartition] else names },
        some cache'), state') := by
  change (let ((names, cache'), state') := archive.wanted search.partitions cache state
    (({ search with
        partitions := if names.isEmpty then [archive.scheme.everyPartition] else names },
      some cache'), state')) = _
  rw [h]

theorem submit_eq {reply : Except BackendFault Response} {state'' : σ}
    (hnarrow : archive.narrow search cache state = ((narrowed, cache'), state'))
    (hreply : archive.backend.search narrowed state' = (reply, state'')) :
    archive.submit operation search cache state =
      ((reply.mapError (.unanswered operation), cache'), state'') := by
  have hlift : (liftM (archive.backend.search narrowed) : Session (StateM σ) _) cache' state' =
      ((reply, cache'), state'') := by
    change (((archive.backend.search narrowed state').1, cache'),
      (archive.backend.search narrowed state').2) = _
    rw [hreply]
  unfold submit
  simp only [bind, StateT.bind, hnarrow, hlift]
  cases reply with
  | ok response => rfl
  | error fault => rfl

end Searches

/-! ## Inquiries -/

section Inquiries

variable {now : Int64} {inquiry : Inquiry} {cache cache' : Option PartitionCache}
  {state state' : σ}

/-- Where there is no search nothing else is done. -/
theorem inquire_of_halt {halt : Halt QueryFault}
    (h : inquiry.search archive.scheme now = .error halt) :
    archive.inquire now inquiry cache state = ((.error (halt.map .refused), cache), state) := by
  unfold inquire
  rw [h]
  rfl

theorem inquire_of_search {search : Search} {outcome : Except Failure Response}
    (h : inquiry.search archive.scheme now = .ok search)
    (hsubmit :
      archive.submit inquiry.operation search cache state = ((outcome, cache'), state')) :
    archive.inquire now inquiry cache state =
      ((outcome.mapError .fault >>= inquiry.finding, cache'), state') := by
  unfold inquire
  rw [h]
  simp only [bind, StateT.bind, hsubmit]
  cases outcome with
  | ok response => rfl
  | error failure => rfl

end Inquiries

end Archive

end Logbook
