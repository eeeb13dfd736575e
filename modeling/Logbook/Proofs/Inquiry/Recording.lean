import Logbook.Proofs.Inquiry.Run

/-!
# What a backend is asked in a session

A backend with a record (`Backend.recorded`) answers as before and writes down the searches and the
questions after partitions that it is given. A session is a list of steps, and what its backend is
asked is told turn by turn (`Archive.turns`).
-/

set_option autoImplicit false

namespace Logbook

/-- A question after a partition, with its answer. -/
structure Probe where
  name : String
  answer : Except BackendFault Bool

/-- A state of a backend with what the backend was asked so far, oldest first. -/
structure Recorded (σ : Type) where
  state : σ
  searches : List Search
  probes : List Probe

namespace Recorded

/-- Nothing was asked yet. -/
def start {σ : Type} (state : σ) : Recorded σ := ⟨state, [], []⟩

end Recorded

namespace Backend

/-- A backend that writes down what it is asked. -/
def recorded {σ : Type} (backend : Backend (StateM σ)) : Backend (StateM (Recorded σ)) where
  name := backend.name
  search search := fun record =>
    let (reply, state) := backend.search search record.state
    (reply, { record with state, searches := record.searches ++ [search] })
  hasPartition name := fun record =>
    let (answer, state) := backend.hasPartition name record.state
    (answer, { record with state, probes := record.probes ++ [⟨name, answer⟩] })
  clusterHealth := fun record =>
    let (health, state) := backend.clusterHealth record.state
    (health, { record with state })

section Recorded

variable {σ : Type} {backend : Backend (StateM σ)} {record : Recorded σ} {state' : σ}

theorem recorded_search {search : Search} {reply : Except BackendFault Response}
    (h : backend.search search record.state = (reply, state')) :
    backend.recorded.search search record =
      (reply, { record with state := state', searches := record.searches ++ [search] }) := by
  simp only [recorded, h]

theorem recorded_hasPartition {name : String} {answer : Except BackendFault Bool}
    (h : backend.hasPartition name record.state = (answer, state')) :
    backend.recorded.hasPartition name record =
      (answer, { record with state := state', probes := record.probes ++ [⟨name, answer⟩] }) := by
  simp only [recorded, h]

end Recorded

end Backend

/-- What may happen next in a session. -/
inductive SessionStep where
  /-- Time goes by. -/
  | elapse (millis : Nat)
  /-- An inquiry is made at an instant. -/
  | inquire (now : Int64) (inquiry : Inquiry)
  /-- A search is submitted under the name of an operation. -/
  | submit (operation : String) (search : Search)

namespace SessionStep

/-- What a step does to the cache and to the backend. -/
def run {m : Type → Type} [Monad m] (archive : Archive m) : SessionStep → Session m Unit
  | elapse millis => modify (Option.map fun cache => cache.elapse millis)
  | inquire now inquiry => do
    let _ ← archive.inquire now inquiry
    return ()
  | submit operation search => do
    let _ ← archive.submit operation search
    return ()

theorem run_inquire {σ : Type} {archive : Archive (StateM σ)} {now : Int64} {inquiry : Inquiry}
    {cache cache' : Option PartitionCache} {state state' : σ}
    {outcome : Except (Halt Failure) Finding}
    (h : archive.inquire now inquiry cache state = ((outcome, cache'), state')) :
    (inquire now inquiry).run archive cache state = (((), cache'), state') := by
  change (((), (archive.inquire now inquiry cache state).1.2),
    (archive.inquire now inquiry cache state).2) = _
  rw [h]

theorem run_submit {σ : Type} {archive : Archive (StateM σ)} {operation : String} {search : Search}
    {cache cache' : Option PartitionCache} {state state' : σ} {outcome : Except Failure Response}
    (h : archive.submit operation search cache state = ((outcome, cache'), state')) :
    (submit operation search).run archive cache state = (((), cache'), state') := by
  change (((), (archive.submit operation search cache state).1.2),
    (archive.submit operation search cache state).2) = _
  rw [h]

/-- How much time goes by in a step. -/
def millis : SessionStep → Nat
  | elapse millis => millis
  | inquire .. | submit .. => 0

/-- The search that a step comes down to, before it is narrowed. -/
def search? (scheme : PartitionScheme) : SessionStep → Option Search
  | elapse _ => none
  | inquire now inquiry => (inquiry.search scheme now).toOption
  | submit _ search => some search

end SessionStep

/-- A step of a session with what the backend was asked in it, and the cache after it. -/
structure Turn where
  step : SessionStep
  searches : List Search
  probes : List Probe
  cache : Option PartitionCache

namespace Archive

/-- An archive whose backend writes down what it is asked. -/
def recorded {σ : Type} (archive : Archive (StateM σ)) : Archive (StateM (Recorded σ)) where
  backend := archive.backend.recorded
  scheme := archive.scheme

/-- A session, turn by turn. -/
def turns {σ : Type} (archive : Archive (StateM σ)) :
    List SessionStep → Option PartitionCache → σ → List Turn
  | [], _, _ => []
  | step :: steps, cache, state =>
    let ((_, cache), record) := step.run archive.recorded cache (.start state)
    ⟨step, record.searches, record.probes, cache⟩ :: archive.turns steps cache record.state

end Archive

end Logbook
