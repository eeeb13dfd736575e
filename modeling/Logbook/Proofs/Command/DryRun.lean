import Logbook.Command.Run
import Logbook.Proofs.Fallible
import Logbook.Proofs.Inquiry.Search

/-!
# What is shown is what is sent

To show a command and to carry it out are two ways through the program, with a case for each task in
both. They have the inquiry of the task in common (`Task.Asks`): what is shown is its search
(`Task.Asks.preview_eq`), and what is carried out is the inquiry (`Task.Asks.carryOut_eq`).

So a command at an instant comes down to one search, or to none (`Command.ComesTo`). Without a
cache, to carry it out is to hand that search to the backend, once, and to draw conclusions from the
reply (`carryOut_of_searched`); a command without a search never reaches the backend
(`carryOut_of_halted`). A backend that is watched tells what it was asked (`Surroundings.watch`), so
that this can be compared with what is shown of the command: `dry_run_shows_search`. At the end of
the calendar there is nothing to compare (`nothing_shown_at_end_of_calendar`).
-/

set_option autoImplicit false

namespace Logbook

/-! ## Watching -/

/-- What a backend is asked. -/
inductive BackendQuestion where
  | search (search : Search)
  | hasPartition (name : String)
  | clusterHealth

/-- A backend that writes down what it is asked. -/
def Backend.watched {m : Type → Type} [Monad m] (backend : Backend m) :
    Backend (StateT (List BackendQuestion) m) where
  name := backend.name
  search search := do
    modify (· ++ [.search search])
    backend.search search
  hasPartition name := do
    modify (· ++ [.hasPartition name])
    backend.hasPartition name
  clusterHealth := do
    modify (· ++ [.clusterHealth])
    backend.clusterHealth

/-- Carries out a command with a configuration: its outcome, and what the backend was asked. -/
def Surroundings.watch {m : Type → Type} [Monad m] (surroundings : Surroundings m)
    (config : Config) (command : Command) :
    m (Except (Halt CommandFault) Json × List BackendQuestion) := do
  match config.cluster?, config.partitions.scheme? with
  | .error fault, _ => return (.error (.fault (.config fault)), [])
  | .ok _, .error fault => return (.error (.fault (.config fault)), [])
  | .ok cluster, .ok scheme =>
    let backend := cluster.backend (surroundings.network config.nodes.timeout)
    let session := (command.carryOut ⟨backend.watched, scheme⟩ surroundings.now).run
      config.cache.newCache
    let ((outcome, questions), _) ← (session.run []).run 0
    return (outcome.1, questions)

/-- A search as it is shown. -/
theorem Search.preview_eq (search : Search) : search.preview =
    .record [("method", .string "POST"),
      ("path", .string ("/" ++ search.partitionList ++ "/" ++ search.kind.name ++
        "/_search?ignore_unavailable=true")),
      ("body", search.toBody)] := by
  have hpath : "/" ++ search.path ++ "?" ++ pathQuery = "/" ++ search.partitionList ++ "/" ++
      search.kind.name ++ "/_search?ignore_unavailable=true" := by
    simp only [path, pathQuery, String.append_assoc]
    rfl
  rw [preview, hpath]
  rfl

/-! ## One task -/

namespace Task

/-- The inquiry that a task makes. Among the questions about requests there is none about health: it
would be shown as a search of requests, and made as one of health checks. -/
inductive Asks : Task → Inquiry → Prop where
  | analytics (query : Query) (h : Subject.requests.ofQuestion query.question = .requests) :
      Asks (analytics query) (.query .requests query)
  | logs (filter : Filter) (page size : UInt32) :
      Asks (logs filter page size) (.query .requests ⟨filter, .logs page size⟩)
  | requestLog (id : String) : Asks (requestLog id) (.requestLog id)
  | health (query : Query) : Asks (health query) (.query .health query)
  | healthCheck (id : String) : Asks (healthCheck id) (.healthCheck id)
  | monitoring (gateway : String) : Asks (monitoring gateway) (.monitoring gateway)

namespace Asks

variable {task : Task} {inquiry : Inquiry}

/-- What is shown of a task is the search of its inquiry, or why there is none. -/
theorem preview_eq (h : task.Asks inquiry) (scheme : PartitionScheme) (now : Int64) :
    task.preview scheme now = (inquiry.search scheme now).map Search.preview := by
  cases h with
  | analytics query h =>
    rw [preview, Inquiry.search, h]
    exact Fallible.bind_ok_eq_map
  | logs filter page size => exact Fallible.bind_ok_eq_map
  | requestLog id => rfl
  | health query =>
    have hsubject : Subject.health.ofQuestion query.question = .health := by
      cases query.question <;> rfl
    rw [preview, Inquiry.search, hsubject]
    exact Fallible.bind_ok_eq_map
  | healthCheck id => rfl
  | monitoring gateway => exact Fallible.bind_ok_eq_map

/-- To carry out a task is to make its inquiry. -/
theorem carryOut_eq (h : task.Asks inquiry) {m : Type → Type} [Monad m] (archive : Archive m)
    (now : Int64) : task.carryOut archive now = archive.answer now inquiry := by
  cases h <;> rfl

end Asks

end Task

namespace Command

/-! ## One command -/

/-- A task that waits for a filter is an inquiry if it is one with every filter. -/
theorem exists_asks_of_filter {window : Except QueryFault Filter} {ofFilter : Filter → Task}
    {task : Task} (hasks : ∀ filter, ∃ inquiry, (ofFilter filter).Asks inquiry)
    (h : (do return ofFilter (← window)) = Except.ok task) : ∃ inquiry, task.Asks inquiry := by
  obtain ⟨filter, -, htask⟩ := Fallible.bind_eq_ok_iff.1 h
  cases htask
  exact hasks filter

/-- The task of every command but `ping` is an inquiry. -/
theorem exists_asks {command : Command} {now : Int64} {task : Task} (hping : command ≠ .ping)
    (h : command.task now = .ok task) : ∃ inquiry, task.Asks inquiry := by
  cases command with
  | ping => exact absurd rfl hping
  | count => exact exists_asks_of_filter (fun _ => ⟨_, .analytics _ rfl⟩) h
  | groups => exact exists_asks_of_filter (fun _ => ⟨_, .analytics _ rfl⟩) h
  | histogram => exact exists_asks_of_filter (fun _ => ⟨_, .analytics _ rfl⟩) h
  | logs => exact exists_asks_of_filter (fun _ => ⟨_, .logs _ _ _⟩) h
  | availability => exact exists_asks_of_filter (fun _ => ⟨_, .health _⟩) h
  | responseTime => exact exists_asks_of_filter (fun _ => ⟨_, .health _⟩) h
  | healthLogs => exact exists_asks_of_filter (fun _ => ⟨_, .health _⟩) h
  | requestLog id =>
    cases h
    exact ⟨_, .requestLog id⟩
  | healthCheck id =>
    cases h
    exact ⟨_, .healthCheck id⟩
  | monitoring gateway =>
    cases h
    exact ⟨_, .monitoring gateway⟩

/-- A day that a command asks about at an instant has no date. -/
def LeavesCalendar (offset : Offset) (now : Int64) (command : Command) : Prop :=
  ∃ task inquiry, command.task now = .ok task ∧ task.Asks inquiry ∧
    inquiry.LeavesCalendar offset now

/-- What a command at an instant comes down to: an inquiry with its search, or why there is none. -/
inductive ComesTo (scheme : PartitionScheme) (now : Int64) (command : Command) :
    Except (Halt QueryFault) (Inquiry × Search) → Prop where
  | unclear {fault : QueryFault} (htask : command.task now = .error fault) :
      ComesTo scheme now command (.error (.fault fault))
  | halted {task : Task} {inquiry : Inquiry} {halt : Halt QueryFault}
      (htask : command.task now = .ok task) (hasks : task.Asks inquiry)
      (hsearch : inquiry.search scheme now = .error halt) :
      ComesTo scheme now command (.error halt)
  | searched {task : Task} {inquiry : Inquiry} {search : Search}
      (htask : command.task now = .ok task) (hasks : task.Asks inquiry)
      (hsearch : inquiry.search scheme now = .ok search) :
      ComesTo scheme now command (.ok (inquiry, search))

/-- Every command but `ping` comes down to one or the other. -/
theorem exists_comesTo (scheme : PartitionScheme) (now : Int64) {command : Command}
    (h : command ≠ .ping) : ∃ result, ComesTo scheme now command result := by
  rcases htask : command.task now with fault | task
  · exact ⟨_, .unclear htask⟩
  · obtain ⟨inquiry, hasks⟩ := exists_asks h htask
    rcases hsearch : inquiry.search scheme now with halt | search
    · exact ⟨_, .halted htask hasks hsearch⟩
    · exact ⟨_, .searched htask hasks hsearch⟩

/-- What is concluded from the reply to the search of an inquiry. -/
def conclude (inquiry : Inquiry) :
    Except BackendFault Response → Except (Halt CommandFault) Json
  | .error fault => .error (.fault (.inquiry (.unanswered inquiry.operation fault)))
  | .ok response =>
    match inquiry.finding response with
    | .ok finding => .ok finding.toJson
    | .error halt => .error (halt.map .inquiry)

section
variable {scheme : PartitionScheme} {now : Int64} {command : Command} {inquiry : Inquiry}
  {search : Search} {halt : Halt QueryFault}

theorem preview_of_searched (h : ComesTo scheme now command (.ok (inquiry, search))) :
    command.preview scheme now = .ok search.preview := by
  cases h with
  | searched htask hasks hsearch =>
    simp only [preview, htask, hasks.preview_eq, hsearch]
    rfl

theorem preview_of_halted (h : ComesTo scheme now command (.error halt)) :
    command.preview scheme now = .error (halt.map refusal) := by
  cases h with
  | unclear htask =>
    simp only [preview, htask]
    rfl
  | halted htask hasks hsearch =>
    simp only [preview, htask, hasks.preview_eq, hsearch]
    rfl

/-- A command that is not refused is shown unless a day that it asks about has no date. -/
theorem preview_eq_overflow_iff (hping : command ≠ .ping) {overflow : Overflow} :
    command.preview scheme now = .error (.overflow overflow) ↔
      command.LeavesCalendar scheme.offset now ∧ overflow = .date := by
  constructor
  · intro hpreview
    obtain ⟨result, hresult⟩ := exists_comesTo scheme now hping
    rcases result with halt | ⟨inquiry, search⟩
    · rw [preview_of_halted hresult] at hpreview
      cases halt with
      | fault fault => cases hpreview
      | overflow =>
        cases hpreview
        cases hresult with
        | halted htask hasks hsearch =>
          obtain ⟨hleaves, hdate⟩ := Inquiry.search_eq_overflow_iff.1 hsearch
          exact ⟨⟨_, _, htask, hasks, hleaves⟩, hdate⟩
    · rw [preview_of_searched hresult] at hpreview
      cases hpreview
  · rintro ⟨⟨task, inquiry, htask, hasks, hleaves⟩, hdate⟩
    exact preview_of_halted
      (.halted htask hasks (Inquiry.search_eq_overflow_iff.2 ⟨hleaves, hdate⟩))

variable {m : Type → Type} [Monad m] [LawfulMonad m] {archive : Archive m}

/-- Without a cache a search is handed on as it is, and nothing else is asked. -/
theorem submit_uncached (operation : String) (search : Search) :
    (archive.submit operation search).run none =
      (fun reply => (reply.mapError (.unanswered operation), none)) <$>
        archive.backend.search search := by
  have hnarrow : (archive.narrow search).run none = pure (search, none) := rfl
  rw [Archive.submit, StateT.run_bind, hnarrow, pure_bind, StateT.run_bind, map_eq_pure_bind,
    StateT.run_monadLift, bind_assoc]
  refine bind_congr fun reply => ?_
  rw [pure_bind]
  cases reply <;> rfl

/-- A command without a search never reaches the backend. -/
theorem carryOut_of_halted (h : ComesTo archive.scheme now command (.error halt)) :
    (command.carryOut archive now).run none = pure (.error (halt.map refusal), none) := by
  cases h with
  | unclear htask =>
    rw [carryOut, htask]
    rfl
  | halted htask hasks hsearch =>
    have htold : (halt.map Failure.refused).map CommandFault.inquiry = halt.map refusal := by
      cases halt <;> rfl
    simp [carryOut, htask, hasks.carryOut_eq, Archive.answer, Archive.inquire, hsearch, htold]

theorem carryOut_of_searched (h : ComesTo archive.scheme now command (.ok (inquiry, search))) :
    (command.carryOut archive now).run none =
      (fun reply => (conclude inquiry reply, none)) <$> archive.backend.search search := by
  cases h with
  | searched htask hasks hsearch =>
    simp only [carryOut, htask, hasks.carryOut_eq, Archive.answer, Archive.inquire, hsearch,
      StateT.run_bind, submit_uncached, map_eq_pure_bind, bind_assoc, pure_bind]
    refine bind_congr fun reply => ?_
    rcases reply with fault | response
    · simp [conclude, Except.mapError, Halt.map]
    · cases hfinding : inquiry.finding response <;> simp [conclude, hfinding, Except.mapError]

end

end Command

/-! ## One configuration -/

/-- A configuration that passes its check has nodes and a way to name partitions. -/
theorem Config.exists_of_check {config : Config} (h : config.check = .ok ()) :
    ∃ cluster scheme, config.cluster? = .ok cluster ∧ config.partitions.scheme? = .ok scheme := by
  obtain ⟨urls, hurls, hrest⟩ := Fallible.bind_eq_ok_iff.1 h
  obtain ⟨scheme, hscheme, -⟩ := Fallible.bind_eq_ok_iff.1 hrest
  cases urls with
  | nil =>
    unfold Endpoint.urls at hurls
    split at hurls
    · cases hurls
    · rename_i hne
      have hnil := List.forall₂_nil_right_iff.1 (Fallible.mapM_eq_ok_iff.1 hurls)
      exact absurd (List.isEmpty_iff.2 hnil) hne
  | cons first others =>
    refine ⟨_, scheme, Fallible.bind_eq_ok_iff.2 ⟨_, hurls, rfl⟩, hscheme⟩

section
variable {m : Type → Type} [Monad m] [LawfulMonad m]

theorem Backend.run_watched_search (backend : Backend m) (search : Search)
    (questions : List BackendQuestion) :
    (backend.watched.search search).run questions =
      (fun reply => (reply, questions ++ [.search search])) <$> backend.search search := by
  simp [watched]

namespace Surroundings

variable {surroundings : Surroundings m} {config : Config} {command : Command} {cluster : Cluster}
  {scheme : PartitionScheme}

theorem carryOut_of_halted (hcluster : config.cluster? = .ok cluster)
    (hscheme : config.partitions.scheme? = .ok scheme) (hcache : config.cache.newCache = none)
    {halt : Halt QueryFault} (h : command.ComesTo scheme surroundings.now (.error halt)) :
    surroundings.carryOut config command = pure (.error (halt.map Command.refusal)) ∧
    surroundings.watch config command = pure (.error (halt.map Command.refusal), []) := by
  constructor
  · simp only [carryOut, hcluster, hscheme, hcache]
    rw [Command.carryOut_of_halted h]
    simp
  · simp only [watch, hcluster, hscheme, hcache]
    rw [Command.carryOut_of_halted h]
    simp

theorem carryOut_of_searched (hcluster : config.cluster? = .ok cluster)
    (hscheme : config.partitions.scheme? = .ok scheme) (hcache : config.cache.newCache = none)
    {inquiry : Inquiry} {search : Search}
    (h : command.ComesTo scheme surroundings.now (.ok (inquiry, search))) :
    surroundings.watch config command =
      (fun outcome => (outcome, [.search search])) <$> surroundings.carryOut config command := by
  simp only [carryOut, watch, hcluster, hscheme, hcache]
  rw [Command.carryOut_of_searched h, Command.carryOut_of_searched h]
  simp [Backend.run_watched_search]

end Surroundings

end

/-- **What is shown of a command is the search that it makes.** Without a cache, a command is
carried out by handing the backend one search, which is the one that is shown, and nothing else; or
it is refused before the backend is asked anything, and refused in the same way when it is shown.
Only where a day that it asks about has no date it is neither: then both end in the same overflow,
and again the backend is not asked anything. -/
theorem dry_run_shows_search {m : Type → Type} [Monad m] [LawfulMonad m]
    (surroundings : Surroundings m) (config : Config) (command : Command)
    (hcheck : config.check = .ok ()) (hcache : config.cache.enabled = false)
    (hping : command ≠ .ping) :
    ∃ (scheme : PartitionScheme) (questions : List BackendQuestion),
      config.partitions.scheme? = .ok scheme ∧
      surroundings.watch config command =
        (fun outcome => (outcome, questions)) <$> surroundings.carryOut config command ∧
      (∀ shown, surroundings.preview config command = .ok shown ↔
        ∃ search : Search, questions = [.search search] ∧
          shown = .record [("method", .string "POST"),
            ("path", .string ("/" ++ search.partitionList ++ "/" ++ search.kind.name ++
              "/_search?ignore_unavailable=true")),
            ("body", search.toBody)]) ∧
      (∀ halt, surroundings.preview config command = .error halt →
        questions = [] ∧ surroundings.carryOut config command = pure (.error halt)) ∧
      (∀ fault, surroundings.preview config command = .error (.fault fault) →
        ∃ cause, fault = .inquiry (.refused cause)) ∧
      ∀ overflow, surroundings.preview config command = .error (.overflow overflow) ↔
        command.LeavesCalendar scheme.offset surroundings.now ∧ overflow = .date := by
  obtain ⟨cluster, scheme, hcluster, hscheme⟩ := Config.exists_of_check hcheck
  have hnone : config.cache.newCache = none := by
    rw [CacheConfig.newCache, hcache, if_neg Bool.false_ne_true]
  have hpreview : surroundings.preview config command =
      command.preview scheme surroundings.now := by
    simp only [Surroundings.preview, hscheme]
  rw [hpreview]
  have hoverflow (overflow : Overflow) :
      command.preview scheme surroundings.now = .error (.overflow overflow) ↔
        command.LeavesCalendar scheme.offset surroundings.now ∧ overflow = .date :=
    Command.preview_eq_overflow_iff hping
  obtain ⟨result, hresult⟩ := Command.exists_comesTo scheme surroundings.now hping
  rcases result with halt | ⟨inquiry, search⟩
  · obtain ⟨hcarry, hwatch⟩ := Surroundings.carryOut_of_halted hcluster hscheme hnone hresult
    rw [Command.preview_of_halted hresult] at hoverflow ⊢
    refine ⟨scheme, [], hscheme, by rw [hwatch, hcarry, map_pure], fun shown => ⟨nofun, nofun⟩,
      fun other hother => ?_, fun fault hfault => ?_, hoverflow⟩
    · cases hother
      exact ⟨rfl, hcarry⟩
    · cases halt with
      | fault cause =>
        cases hfault
        exact ⟨cause, rfl⟩
      | overflow overflow => cases hfault
  · have hwatch := Surroundings.carryOut_of_searched hcluster hscheme hnone hresult
    rw [Command.preview_of_searched hresult] at hoverflow ⊢
    refine ⟨scheme, [.search search], hscheme, hwatch, fun shown => ?_, nofun, nofun, hoverflow⟩
    constructor
    · intro hshown
      cases hshown
      exact ⟨search, rfl, search.preview_eq⟩
    · rintro ⟨other, hquestions, hshown⟩
      cases hquestions
      rw [hshown, ← search.preview_eq]

/-- The availability of the last month is asked for, of a node that gives no reply. -/
theorem dry_run_shows_search_of_availability :
    let surroundings : Surroundings Id := ⟨none, 1704067200000, fun _ => .absent, fun _ _ => none⟩
    let config : Config :=
      ⟨⟨["http://[::1]"], .http, none, none, 30⟩, .default, .default, .default⟩
    let command : Command := .availability .all .endpoint
    ∃ search : Search, surroundings.preview config command = .ok search.preview ∧
      surroundings.watch config command =
        (surroundings.carryOut config command, [.search search]) := by
  intro surroundings config command
  have hcheck : config.check = .ok () := by decide +kernel
  have hscheme : config.partitions.scheme? = .ok ⟨"gravitee", .utc⟩ := by
    decide +kernel
  obtain ⟨search, hsearch⟩ : ∃ search, Inquiry.search ⟨"gravitee", .utc⟩ 1704067200000
      (.query .health ⟨⟨none, none, none⟩, .availability .endpoint⟩) = .ok search := ⟨_, rfl⟩
  have hpreview : command.preview ⟨"gravitee", .utc⟩ 1704067200000 = .ok search.preview :=
    Command.preview_of_searched (.searched rfl (.health _) hsearch)
  have hshown : surroundings.preview config command = .ok search.preview := by
    simp only [Surroundings.preview, hscheme]
    exact hpreview
  obtain ⟨_, questions, -, hwatch, hiff, -⟩ :=
    dry_run_shows_search surroundings config command hcheck rfl nofun
  obtain ⟨sent, rfl, hsame⟩ := (hiff _).1 hshown
  exact ⟨sent, hshown.trans (congrArg _ (hsame.trans sent.preview_eq.symm)), hwatch⟩

/-- Requests of the last two days of the calendar are counted, where local time is ahead of
universal time. Nothing is shown and nothing is sent, and nothing is wrong with the command. -/
theorem nothing_shown_at_end_of_calendar :
    let surroundings : Surroundings Id := ⟨none, 0, fun _ => .absent, fun _ _ => none⟩
    let config : Config :=
      ⟨⟨["http://[::1]"], .http, none, none, 30⟩, ⟨"gravitee", "+01:00"⟩, .default, .default⟩
    let command : Command :=
      .count ⟨some 8210266704000000, some 8210266876799999, none, none, none⟩
    surroundings.preview config command = .error (.overflow .date) ∧
      surroundings.watch config command = (.error (.overflow .date), []) := by
  intro surroundings config command
  have hcheck : config.check = .ok () := by decide +kernel
  have hscheme : config.partitions.scheme? = .ok ⟨"gravitee", ⟨60, by decide, by decide⟩⟩ := by
    decide +kernel
  obtain ⟨cluster, _, hcluster, -⟩ := Config.exists_of_check hcheck
  have htask : command.task surroundings.now =
    .ok (.analytics ⟨⟨some ⟨8210266704000000, 8210266876799999⟩, none, none⟩, .count⟩) := by
    decide +kernel
  have hcomes : command.ComesTo ⟨"gravitee", ⟨60, by decide, by decide⟩⟩ surroundings.now
      (.error (.overflow .date)) :=
    .halted htask (.analytics _ rfl)
      (Inquiry.search_eq_overflow_iff.2 ⟨⟨_, rfl, by decide, .inr (by decide)⟩, rfl⟩)
  have hwatch : surroundings.watch config command = pure (.error (.overflow .date), []) :=
    (Surroundings.carryOut_of_halted hcluster hscheme rfl hcomes).2
  refine ⟨?_, hwatch⟩
  simp only [Surroundings.preview, hscheme]
  exact Command.preview_of_halted hcomes

end Logbook
