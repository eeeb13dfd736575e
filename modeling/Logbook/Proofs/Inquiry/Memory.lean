import Logbook.Backend.Memory
import Logbook.Proofs.Inquiry.Finding
import Logbook.Proofs.Inquiry.Run
import Logbook.Proofs.Inquiry.Search

/-!
# Inquiries of a backend in memory

An inquiry of a backend in memory settles in one of three ways (`Memory.Settles`): it is refused, or
a day that it asks about has no date (`Inquiry.LeavesCalendar`), and nothing has happened; or one
search is made, which takes one reply, and the result is told by that reply (`Inquiry.Concludes`). A
session is a list of visits; it makes one search for each inquiry that comes down to one, in their
order, and takes as many replies (`one_search_per_inquiry`). An inquiry at the end of the calendar
makes none though nothing is wrong with it (`no_search_at_end_of_calendar`).
-/

set_option autoImplicit false

namespace Logbook

/-- An archive that is kept in memory. -/
def Archive.inMemory (scheme : PartitionScheme) : Archive (StateM Memory) :=
  ⟨Memory.backend, scheme⟩

/-- The reply to the next search, which is the fallback where there are no replies left. -/
def Memory.reply (memory : Memory) : CannedReply :=
  memory.replies.headD (.success memory.fallback)

/-! ## Results -/

/-- What the result of an inquiry is whose search is answered with a reply. A refusal is reported
under the name of the operation; one document that is wanted and is not there, as missing; a hit
that makes no sense, for the first such hit that is read; what is too much to be added up, to
nobody; and anything else is answered. -/
structure Inquiry.Concludes (inquiry : Inquiry) (reply : CannedReply)
    (result : Except (Halt Failure) Finding) : Prop where
  refused : ∀ fault, result ≠ .error (.fault (.refused fault))
  unanswered : ∀ operation fault, result = .error (.fault (.unanswered operation fault)) ↔
    operation = inquiry.operation ∧
      ∃ code body, reply = .refusal code body ∧ fault = .status code body
  missing : ∀ failure, failure.isMissing = true → (result = .error (.fault failure) ↔
    inquiry.missing? = some failure ∧ ∃ response, reply = .success response ∧ response.hits = [])
  unreadable : ∀ fault, result = .error (.fault (.unreadable fault)) ↔
    ∃ response, reply = .success response ∧
      (inquiry.hitsRead response).findSome? inquiry.faultOf? = some fault
  overflow : ∀ overflow, result = .error (.overflow overflow) ↔
    (∃ response, reply = .success response ∧ inquiry.Exceeds response) ∧ overflow = .sum
  found : ∀ finding, result = .ok finding ↔
    ∃ response, reply = .success response ∧ inquiry.Answers response finding

namespace Inquiry

theorem concludes_refusal (inquiry : Inquiry) (code : Nat) (body : String) :
    inquiry.Concludes (.refusal code body)
      (.error (.fault (.unanswered inquiry.operation (.status code body)))) where
  refused := nofun
  unanswered operation fault := by
    constructor
    · intro h
      cases h
      exact ⟨rfl, code, body, rfl, rfl⟩
    · rintro ⟨rfl, code', body', hreply, rfl⟩
      cases hreply
      rfl
  missing failure hmissing := by
    constructor
    · intro h
      cases h
      cases hmissing
    · rintro ⟨-, response, hreply, -⟩
      cases hreply
  unreadable fault := by
    constructor
    · nofun
    · rintro ⟨response, hreply, -⟩
      cases hreply
  overflow overflow := by
    constructor
    · nofun
    · rintro ⟨⟨response, hreply, -⟩, -⟩
      cases hreply
  found finding := by
    constructor
    · nofun
    · rintro ⟨response, hreply, -⟩
      cases hreply

/-- What is wrong with a response is that something is missing or makes no sense. -/
theorem finding_ne_fault {inquiry : Inquiry} {response : Response} {failure : Failure}
    (hmissing : failure.isMissing = false) (hread : ∀ fault, failure ≠ .unreadable fault) :
    inquiry.finding response ≠ .error (.fault failure) := by
  intro h
  rcases finding_eq_fault_iff.1 h with ⟨hnone, -⟩ | ⟨fault, hfault, -⟩
  · rw [isMissing_of_missing? hnone] at hmissing
    cases hmissing
  · exact hread fault hfault

theorem concludes_success (inquiry : Inquiry) (response : Response) :
    inquiry.Concludes (.success response) (inquiry.finding response) where
  refused fault := finding_ne_fault rfl nofun
  unanswered operation fault := by
    constructor
    · intro h
      exact absurd h (finding_ne_fault rfl nofun)
    · rintro ⟨-, code, body, hreply, -⟩
      cases hreply
  missing failure hmissing := by
    constructor
    · intro h
      rcases finding_eq_fault_iff.1 h with ⟨hfailure, hhits⟩ | ⟨fault, rfl, -⟩
      · exact ⟨hfailure, response, rfl, hhits⟩
      · cases hmissing
    · rintro ⟨hfailure, response', hreply, hhits⟩
      cases hreply
      exact finding_eq_fault_iff.2 (.inl ⟨hfailure, hhits⟩)
  unreadable fault := by
    constructor
    · intro h
      rcases finding_eq_fault_iff.1 h with ⟨hmissing, -⟩ | ⟨fault', heq, hfirst⟩
      · cases isMissing_of_missing? hmissing
      · cases heq
        exact ⟨response, rfl, hfirst⟩
    · rintro ⟨response', hreply, hfirst⟩
      cases hreply
      exact finding_eq_fault_iff.2 (.inr ⟨fault, rfl, hfirst⟩)
  overflow overflow := by
    rw [finding_eq_overflow_iff]
    constructor
    · rintro ⟨hexceeds, hsum⟩
      exact ⟨⟨response, rfl, hexceeds⟩, hsum⟩
    · rintro ⟨⟨response', hreply, hexceeds⟩, hsum⟩
      cases hreply
      exact ⟨hexceeds, hsum⟩
  found finding := by
    constructor
    · intro h
      exact ⟨response, rfl, finding_eq_ok_iff.1 h⟩
    · rintro ⟨response', hreply, hanswers⟩
      cases hreply
      exact finding_eq_ok_iff.2 hanswers

theorem concludes (inquiry : Inquiry) (reply : CannedReply) :
    inquiry.Concludes reply
      ((reply.result.mapError (.unanswered inquiry.operation)).mapError .fault >>=
        inquiry.finding) := by
  cases reply with
  | success response => exact inquiry.concludes_success response
  | refusal code body => exact inquiry.concludes_refusal code body

end Inquiry

/-! ## One inquiry -/

namespace Memory

/-- How an inquiry settles: it is refused or a day has no date, and everything is as before; or one
search is made and one reply taken. Only the partitions of the search may not be those that the
inquiry comes down to, and only where there is a cache; what is asked about partitions is noted
apart. -/
inductive Settles (scheme : PartitionScheme) (now : Int64) (inquiry : Inquiry)
    (cache : Option PartitionCache) (memory : Memory) :
    Except (Halt Failure) Finding → Option PartitionCache → Memory → Prop where
  | refused {fault : QueryFault} (hsearch : inquiry.search scheme now = .error (.fault fault)) :
      Settles scheme now inquiry cache memory (.error (.fault (.refused fault))) cache memory
  | undated (hleaves : inquiry.LeavesCalendar scheme.offset now) :
      Settles scheme now inquiry cache memory (.error (.overflow .date)) cache memory
  | asked {search : Search} {partitions checks : List String} {cache' : Option PartitionCache}
      {result : Except (Halt Failure) Finding} (hsearch : inquiry.search scheme now = .ok search)
      (hcache : cache'.isSome = cache.isSome)
      (hplain : cache = none → partitions = search.partitions ∧ checks = [])
      (hresult : inquiry.Concludes memory.reply result) :
      Settles scheme now inquiry cache memory result cache'
        { memory with
          replies := memory.replies.tail
          searches := memory.searches ++ [{ search with partitions }]
          checks := memory.checks ++ checks }

/-- One search is noted and one reply is taken; the fallback stays. -/
theorem search_eq (search : Search) (memory : Memory) :
    backend.search search memory =
      (memory.reply.result,
        { memory with
          replies := memory.replies.tail
          searches := memory.searches ++ [search] }) := by
  obtain ⟨replies, fallback, partitions, searches, checks⟩ := memory
  cases replies with
  | nil => rfl
  | cons reply rest => rfl

end Memory

namespace Archive

variable (scheme : PartitionScheme)

/-- A look at a partition does no more to the memory than to be noted. -/
theorem isWanted_inMemory (name : String) (cache : PartitionCache) (memory : Memory) :
    ∃ isWanted cache' checks, (inMemory scheme).isWanted name cache memory =
      ((isWanted, cache'), { memory with checks := memory.checks ++ checks }) := by
  rcases hstar : name.contains '*' with _ | _
  · rcases hget : (cache.get name).1 with _ | found
    · exact ⟨_, _, [name], isWanted_of_found (inMemory scheme) hstar hget rfl⟩
    · refine ⟨found, (cache.get name).2, [], ?_⟩
      rw [isWanted_of_known (inMemory scheme) hstar hget, List.append_nil]
  · refine ⟨true, cache, [], ?_⟩
    rw [isWanted_of_pattern (inMemory scheme) hstar, List.append_nil]

theorem wanted_inMemory (names : List String) (cache : PartitionCache) (memory : Memory) :
    ∃ kept cache' checks, (inMemory scheme).wanted names cache memory =
      ((kept, cache'), { memory with checks := memory.checks ++ checks }) := by
  induction names generalizing cache memory with
  | nil =>
    refine ⟨[], cache, [], ?_⟩
    rw [wanted_nil, List.append_nil]
  | cons name names ih =>
    obtain ⟨isWanted, cache₁, checks₁, hfirst⟩ := isWanted_inMemory scheme name cache memory
    obtain ⟨rest, cache₂, checks₂, hrest⟩ :=
      ih cache₁ { memory with checks := memory.checks ++ checks₁ }
    refine ⟨if isWanted then name :: rest else rest, cache₂, checks₁ ++ checks₂, ?_⟩
    rw [wanted_cons (inMemory scheme) hfirst hrest, List.append_assoc]

theorem narrow_inMemory (search : Search) (cache : Option PartitionCache) (memory : Memory) :
    ∃ partitions checks cache', (inMemory scheme).narrow search cache memory =
        (({ search with partitions }, cache'),
          { memory with checks := memory.checks ++ checks }) ∧
      cache'.isSome = cache.isSome ∧
      (cache = none → partitions = search.partitions ∧ checks = []) := by
  cases cache with
  | none =>
    refine ⟨search.partitions, [], none, ?_, rfl, fun _ => ⟨rfl, rfl⟩⟩
    rw [narrow_none, List.append_nil]
  | some cache =>
    obtain ⟨kept, cache', checks, hwanted⟩ := wanted_inMemory scheme search.partitions cache memory
    exact ⟨_, checks, some cache', narrow_some (inMemory scheme) hwanted, rfl, nofun⟩

/-- Every inquiry settles. -/
theorem inquire_settles (now : Int64) (inquiry : Inquiry) (cache : Option PartitionCache)
    (memory : Memory) :
    ∃ result cache' memory',
      (inMemory scheme).inquire now inquiry cache memory = ((result, cache'), memory') ∧
      Memory.Settles scheme now inquiry cache memory result cache' memory' := by
  rcases hsearch : inquiry.search scheme now with halt | search
  · refine ⟨_, _, _, inquire_of_halt (inMemory scheme) hsearch, ?_⟩
    cases halt with
    | fault fault => exact .refused hsearch
    | overflow overflow =>
      obtain ⟨hleaves, rfl⟩ := Inquiry.search_eq_overflow_iff.1 hsearch
      exact .undated hleaves
  · obtain ⟨partitions, checks, cache', hnarrow, hcache, hplain⟩ :=
      narrow_inMemory scheme search cache memory
    exact ⟨_, _, _, inquire_of_search (inMemory scheme) hsearch
      (submit_eq (inMemory scheme) hnarrow (Memory.search_eq _ _)),
      .asked hsearch hcache hplain (inquiry.concludes memory.reply)⟩

end Archive

/-! ## Sessions -/

/-- An inquiry in a session: how long after the one before it, at which instant, and what about. -/
structure Visit where
  pause : Nat
  now : Int64
  inquiry : Inquiry

/-- The cache, if there is one, when an inquiry is made. -/
def Visit.cacheThen (visit : Visit) (cache : Option PartitionCache) : Option PartitionCache :=
  cache.map fun cache => cache.elapse visit.pause

/-- The searches that the inquiries of a session come down to, of those that do. -/
def Visit.searchesOf (scheme : PartitionScheme) (visits : List Visit) : List Search :=
  visits.filterMap fun visit => (visit.inquiry.search scheme visit.now).toOption

theorem Visit.searchesOf_cons_of_error {scheme : PartitionScheme} {visit : Visit}
    {visits : List Visit} {halt : Halt QueryFault}
    (h : visit.inquiry.search scheme visit.now = .error halt) :
    searchesOf scheme (visit :: visits) = searchesOf scheme visits := by
  rw [searchesOf, List.filterMap_cons_none (by rw [h, Except.toOption])]
  rfl

theorem Visit.searchesOf_cons_of_ok {scheme : PartitionScheme} {visit : Visit}
    {visits : List Visit} {search : Search}
    (h : visit.inquiry.search scheme visit.now = .ok search) :
    searchesOf scheme (visit :: visits) = search :: searchesOf scheme visits := by
  rw [searchesOf, List.filterMap_cons_some (by rw [h, Except.toOption])]
  rfl

/-- The results of one inquiry after the other. An overflow ends no more than the inquiry in which
it comes about: the backend and the cache are still there for the next. -/
def Archive.session {m : Type → Type} [Monad m] (archive : Archive m) :
    List Visit → Session m (List (Except (Halt Failure) Finding))
  | [] => return []
  | visit :: visits => do
    modify visit.cacheThen
    let result ← archive.inquire visit.now visit.inquiry
    let results ← archive.session visits
    return result :: results

/-- The results of a session, of which those that come of a search take one reply each. -/
inductive ConcludesAll (scheme : PartitionScheme) (fallback : Response) :
    List Visit → List CannedReply → List (Except (Halt Failure) Finding) → Prop where
  | nil (replies : List CannedReply) : ConcludesAll scheme fallback [] replies []
  | refused {visit : Visit} {visits : List Visit} {replies : List CannedReply}
      {results : List (Except (Halt Failure) Finding)} {fault : QueryFault}
      (hsearch : visit.inquiry.search scheme visit.now = .error (.fault fault))
      (later : ConcludesAll scheme fallback visits replies results) :
      ConcludesAll scheme fallback (visit :: visits) replies
        (.error (.fault (.refused fault)) :: results)
  | undated {visit : Visit} {visits : List Visit} {replies : List CannedReply}
      {results : List (Except (Halt Failure) Finding)}
      (hleaves : visit.inquiry.LeavesCalendar scheme.offset visit.now)
      (later : ConcludesAll scheme fallback visits replies results) :
      ConcludesAll scheme fallback (visit :: visits) replies (.error (.overflow .date) :: results)
  | asked {visit : Visit} {visits : List Visit} {replies : List CannedReply}
      {result : Except (Halt Failure) Finding} {results : List (Except (Halt Failure) Finding)}
      {search : Search}
      (hsearch : visit.inquiry.search scheme visit.now = .ok search)
      (hresult : visit.inquiry.Concludes (replies.headD (.success fallback)) result)
      (later : ConcludesAll scheme fallback visits replies.tail results) :
      ConcludesAll scheme fallback (visit :: visits) replies (result :: results)

namespace Archive

theorem session_cons {σ : Type} {archive : Archive (StateM σ)} {visit : Visit} {visits : List Visit}
    {cache cache₁ cache₂ : Option PartitionCache} {state state₁ state₂ : σ}
    {result : Except (Halt Failure) Finding} {results : List (Except (Halt Failure) Finding)}
    (hfirst : archive.inquire visit.now visit.inquiry (visit.cacheThen cache) state =
      ((result, cache₁), state₁))
    (hrest : archive.session visits cache₁ state₁ = ((results, cache₂), state₂)) :
    archive.session (visit :: visits) cache state = ((result :: results, cache₂), state₂) := by
  change (let ((result, cache₁), state₁) :=
      archive.inquire visit.now visit.inquiry (visit.cacheThen cache) state
    let ((results, cache₂), state₂) := archive.session visits cache₁ state₁
    ((result :: results, cache₂), state₂)) = _
  rw [hfirst]
  dsimp only
  rw [hrest]

/-- A session makes the searches of its inquiries, and takes as many replies. -/
theorem session_inMemory (scheme : PartitionScheme) (visits : List Visit)
    (cache : Option PartitionCache) (memory : Memory) :
    ∃ results cache' memory' searches,
      (inMemory scheme).session visits cache memory = ((results, cache'), memory') ∧
      ConcludesAll scheme memory.fallback visits memory.replies results ∧
      memory'.searches = memory.searches ++ searches ∧
      List.Forall₂ (fun search narrowed =>
        ∃ partitions, narrowed = { search with partitions := partitions })
        (Visit.searchesOf scheme visits) searches ∧
      memory'.replies = memory.replies.drop (Visit.searchesOf scheme visits).length ∧
      memory'.fallback = memory.fallback := by
  induction visits generalizing cache memory with
  | nil =>
    refine ⟨[], cache, memory, [], rfl, .nil _, ?_, .nil, rfl, rfl⟩
    rw [List.append_nil]
  | cons visit visits ih =>
    obtain ⟨result, cache₁, memory₁, hfirst, settles⟩ :=
      inquire_settles scheme visit.now visit.inquiry (visit.cacheThen cache) memory
    obtain ⟨results, cache₂, memory₂, searches, hrest, hresults, hsearches, hnarrowed, hreplies,
      hfallback⟩ := ih cache₁ memory₁
    have hrun := session_cons hfirst hrest
    cases settles with
    | refused hsearch =>
      rw [Visit.searchesOf_cons_of_error hsearch]
      exact ⟨_, cache₂, memory₂, searches, hrun, .refused hsearch hresults, hsearches, hnarrowed,
        hreplies, hfallback⟩
    | undated hleaves =>
      rw [Visit.searchesOf_cons_of_error (Inquiry.search_eq_overflow_iff.2 ⟨hleaves, rfl⟩)]
      exact ⟨_, cache₂, memory₂, searches, hrun, .undated hleaves hresults, hsearches, hnarrowed,
        hreplies, hfallback⟩
    | @asked search partitions checks _ _ hsearch hcache hplain hresult =>
      rw [Visit.searchesOf_cons_of_ok hsearch]
      refine ⟨_, cache₂, memory₂, { search with partitions } :: searches, hrun,
        .asked hsearch hresult hresults, ?_, .cons ⟨partitions, rfl⟩ hnarrowed, ?_, hfallback⟩
      · rw [hsearches, List.append_assoc, List.singleton_append]
      · rw [hreplies, List.length_cons, List.drop_tail]

end Archive

/-- **One search for each inquiry that is not refused, and none for one that is.** From every state
of the memory and of the cache, if there is one, an inquiry settles, and a session makes the
searches of its inquiries in their order and takes one reply for each. An inquiry that is not
refused has no search just where a day that it asks about has no date. -/
theorem one_search_per_inquiry (scheme : PartitionScheme) :
    (∀ now inquiry cache memory, ∃ result cache' memory',
      (Archive.inMemory scheme).inquire now inquiry cache memory = ((result, cache'), memory') ∧
      Memory.Settles scheme now inquiry cache memory result cache' memory') ∧
    (∀ visits cache memory, ∃ results cache' memory' searches,
      (Archive.inMemory scheme).session visits cache memory = ((results, cache'), memory') ∧
      ConcludesAll scheme memory.fallback visits memory.replies results ∧
      memory'.searches = memory.searches ++ searches ∧
      List.Forall₂ (fun search narrowed =>
        ∃ partitions, narrowed = { search with partitions := partitions })
        (Visit.searchesOf scheme visits) searches ∧
      memory'.replies = memory.replies.drop (Visit.searchesOf scheme visits).length ∧
      memory'.fallback = memory.fallback) ∧
    ∀ now (inquiry : Inquiry), inquiry.LeavesCalendar scheme.offset now ↔
      ∃ overflow, inquiry.search scheme now = .error (.overflow overflow) := by
  refine ⟨Archive.inquire_settles scheme, Archive.session_inMemory scheme, fun now inquiry => ?_⟩
  simp only [Inquiry.search_eq_overflow_iff, exists_and_left, exists_eq, and_true]

/-- A question about the last two days of the calendar. Where local time is ahead of universal time
they end on a day outside it. -/
def Inquiry.ofLastDays : Inquiry :=
  .query .requests ⟨⟨some ⟨8210266704000000, 8210266876799999⟩, none, none⟩, .count⟩

/-- Nothing is wrong with a question about the last days of the calendar, but it makes no search. -/
theorem no_search_at_end_of_calendar :
    let scheme : PartitionScheme := ⟨"gravitee", ⟨60, by decide, by decide⟩⟩
    let memory := Memory.ofPartitions [] (.ofTotal 0)
    (8210266704000000 : Int64) ≤ 8210266876799999 ∧
      (Archive.inMemory scheme).inquire 0 .ofLastDays none memory =
        ((.error (.overflow .date), none), memory) := by
  intro scheme memory
  have hsearch : Inquiry.ofLastDays.search scheme 0 = .error (.overflow .date) :=
    Inquiry.search_eq_overflow_iff.2 ⟨⟨_, rfl, by decide, .inr (by decide)⟩, rfl⟩
  exact ⟨by decide, Archive.inquire_of_halt (Archive.inMemory scheme) hsearch⟩

end Logbook
