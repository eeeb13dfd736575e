import Logbook.Inquiry.Basic
import Logbook.Proofs.Report.Groups
import Logbook.Proofs.Report.HealthWindows
import Logbook.Proofs.Report.Histogram

/-!
# What a response says about an inquiry

A finding is made from a response in one way for each thing that a user may want to know
(`Inquiry.Answers`). There are two ways in which a response has none to offer: it has no hit where
one document was wanted, or one of the hits that are read makes no sense, and then it is the first
such hit that is reported. A third way is told to nobody: what was counted cannot be added up
(`Inquiry.Exceeds`). Main statements: `Inquiry.finding_eq_ok_iff`, `Inquiry.finding_eq_fault_iff`
and `Inquiry.finding_eq_overflow_iff`.
-/

set_option autoImplicit false

namespace Logbook

/-- The failure says that there is no document of the kind that was wanted. -/
def Failure.isMissing : Failure → Bool
  | noRequestLog _ | noHealthCheck _ | noMonitoring _ => true
  | refused _ | unanswered _ _ | unreadable _ => false

namespace Inquiry

/-- How an inquiry after one document fails where there is none. -/
def missing? : Inquiry → Option Failure
  | query _ _ => none
  | requestLog id => some (.noRequestLog id)
  | healthCheck id => some (.noHealthCheck id)
  | monitoring gateway => some (.noMonitoring gateway)

theorem isMissing_of_missing? {inquiry : Inquiry} {failure : Failure}
    (h : inquiry.missing? = some failure) : failure.isMissing = true := by
  cases inquiry with
  | query subject content => cases h
  | requestLog id =>
    cases h
    rfl
  | healthCheck id =>
    cases h
    rfl
  | monitoring gateway =>
    cases h
    rfl

/-- The hits that an inquiry may read: the first, where one document is wanted. -/
def hitsRead (inquiry : Inquiry) (response : Response) : List Hit :=
  match inquiry with
  | query _ _ => response.hits
  | requestLog _ | healthCheck _ | monitoring _ => response.hits.take 1

/-- What an inquiry finds wrong with a hit. A query that asks for no documents reads none. -/
def faultOf? (inquiry : Inquiry) (hit : Hit) : Option DocumentFault :=
  match inquiry with
  | query .requests ⟨_, .logs _ _⟩ => Fallible.fault? (RequestLog.ofDocument hit.source)
  | query .health ⟨_, .logs _ _⟩ => Fallible.fault? (HealthSummary.ofHit hit)
  | query _ _ => none
  | requestLog _ => Fallible.fault? (FullRequestLog.ofDocument hit.source)
  | healthCheck _ => Fallible.fault? (FullHealthCheck.ofHit hit)
  | monitoring _ => Fallible.fault? (Monitoring.ofDocument hit.source)

/-- A finding is what a response says about an inquiry. -/
inductive Answers (response : Response) : Inquiry → Finding → Prop where
  | count (subject : Subject) (filter : Filter) :
      Answers response (query subject ⟨filter, .count⟩) (.report (.count response.total))
  | groups (subject : Subject) (filter : Filter) (field : String) (ranges : List NumberRange)
      (order : Option GroupOrder) {report : GroupsReport}
      (hreport : GroupsReport.ofResponse response = .ok report) :
      Answers response (query subject ⟨filter, .groups field ranges order⟩)
        (.report (.groups report))
  | histogram (subject : Subject) (filter : Filter) (interval : Interval)
      (series : List SeriesSpec) {report : HistogramReport}
      (hreport : HistogramReport.ofResponse response series subject.countMode = .ok report) :
      Answers response (query subject ⟨filter, .histogram interval series⟩)
        (.report (.histogram report))
  | availability (subject : Subject) (filter : Filter) (group : HealthGroup)
      {endpoints : List (EndpointValues Binary64)}
      (hendpoints : availabilities response = .ok endpoints) :
      Answers response (query subject ⟨filter, .availability group⟩)
        (.report (.availability endpoints))
  | responseTime (subject : Subject) (filter : Filter) (group : HealthGroup) :
      Answers response (query subject ⟨filter, .responseTime group⟩)
        (.report (.responseTime (averageTimes response)))
  | requestLogs (filter : Filter) (page size : UInt32) {logs : List RequestLog}
      (hlogs : List.Forall₂ (fun hit log => RequestLog.ofDocument hit.source = .ok log)
        response.hits logs) :
      Answers response (query .requests ⟨filter, .logs page size⟩)
        (.report (.requestLogs response.total logs))
  | healthLogs (filter : Filter) (page size : UInt32) {logs : List HealthSummary}
      (hlogs : List.Forall₂ (fun hit log => HealthSummary.ofHit hit = .ok log)
        response.hits logs) :
      Answers response (query .health ⟨filter, .logs page size⟩)
        (.report (.healthLogs response.total logs))
  | requestLog (id : String) {hit : Hit} {rest : List Hit} {log : FullRequestLog}
      (hhits : response.hits = hit :: rest)
      (hlog : FullRequestLog.ofDocument hit.source = .ok log) :
      Answers response (requestLog id) (.requestLog log)
  | healthCheck (id : String) {hit : Hit} {rest : List Hit} {check : FullHealthCheck}
      (hhits : response.hits = hit :: rest) (hcheck : FullHealthCheck.ofHit hit = .ok check) :
      Answers response (healthCheck id) (.healthCheck check)
  | monitoring (gateway : String) {hit : Hit} {rest : List Hit} {state : Monitoring}
      (hhits : response.hits = hit :: rest)
      (hstate : Monitoring.ofDocument hit.source = .ok state) :
      Answers response (monitoring gateway) (.monitoring state)

/-- What a response counts is too much to be added up, and an inquiry wants it added up: the results
of a window of time, or the groups of a date in a histogram of shares. -/
inductive Exceeds (response : Response) : Inquiry → Prop where
  | availability (subject : Subject) (filter : Filter) (group : HealthGroup)
      {endpoints windows : List Group} {endpoint window : Group}
      (hendpoints : response.MembersAre "terms" endpoints) (hendpoint : endpoint ∈ endpoints)
      (hwindows : endpoint.MembersAre "ranges" windows) (hwindow : window ∈ windows)
      (hbeyond : window.IsBeyondWord) :
      Exceeds response (query subject ⟨filter, .availability group⟩)
  | histogram (filter : Filter) (interval : Interval) (series : List SeriesSpec)
      (hbeyond : ¬response.TotalsFit .availability) :
      Exceeds response (query .health ⟨filter, .histogram interval series⟩)

/-! ## One document -/

section FirstHit

variable {α : Type} {response : Response} {missing : Failure}
  {read : Hit → Except DocumentFault α} {wrap : α → Finding}

theorem firstHit_eq_ok_iff {finding : Finding} :
    (firstHit response missing read).map wrap = .ok finding ↔
      ∃ hit rest document, response.hits = hit :: rest ∧ read hit = .ok document ∧
        finding = wrap document := by
  unfold firstHit
  rcases response.hits with _ | ⟨hit, rest⟩
  · constructor
    · intro h
      cases h
    · rintro ⟨hit, rest, document, h, -⟩
      cases h
  · dsimp only
    constructor
    · intro h
      rcases hread : read hit with fault | document
      · rw [hread] at h
        cases h
      · rw [hread] at h
        cases h
        exact ⟨hit, rest, document, rfl, hread, rfl⟩
    · rintro ⟨hit', rest', document, hhits, hread, rfl⟩
      cases hhits
      rw [hread]
      rfl

theorem firstHit_eq_error_iff {failure : Failure} :
    (firstHit response missing read).map wrap = .error failure ↔
      (missing = failure ∧ response.hits = []) ∨
      ∃ fault, failure = .unreadable fault ∧
        (response.hits.take 1).findSome? (fun hit => Fallible.fault? (read hit)) = some fault := by
  unfold firstHit
  rcases response.hits with _ | ⟨hit, rest⟩
  · constructor
    · intro h
      cases h
      exact .inl ⟨rfl, rfl⟩
    · rintro (⟨rfl, -⟩ | ⟨fault, -, h⟩)
      · rfl
      · cases h
  · rw [List.take_succ_cons, List.take_zero, List.findSome?_singleton]
    dsimp only
    constructor
    · intro h
      rcases hread : read hit with fault | document
      · rw [hread] at h
        cases h
        exact .inr ⟨fault, rfl, rfl⟩
      · rw [hread] at h
        cases h
    · rintro (⟨-, h⟩ | ⟨fault, rfl, h⟩)
      · cases h
      · rw [Fallible.fault?_eq_some_iff.1 h]
        rfl

end FirstHit

/-! ## Findings -/

section Findings

variable {response : Response}

theorem report_eq_ok_iff {subject : Subject} {content : Query} {report : Report} :
    (subject.ofQuestion content.question).report content.question response = .ok report ↔
      Answers response (query subject content) (.report report) := by
  obtain ⟨filter, question⟩ := content
  constructor
  · intro h
    cases question with
    | count =>
      cases h
      exact .count subject filter
    | groups field ranges order =>
      obtain ⟨report, hreport, rfl⟩ := Fallible.map_eq_ok_iff.1 (Fallible.mapError_eq_ok_iff.1 h)
      exact .groups subject filter field ranges order hreport
    | histogram interval series =>
      obtain ⟨report, hreport, rfl⟩ := Fallible.map_eq_ok_iff.1 (Fallible.mapError_eq_ok_iff.1 h)
      exact .histogram subject filter interval series hreport
    | availability group =>
      obtain ⟨report, hreport, rfl⟩ := Fallible.map_eq_ok_iff.1 (Fallible.mapError_eq_ok_iff.1 h)
      exact .availability subject filter group hreport
    | responseTime group =>
      cases h
      exact .responseTime subject filter group
    | logs page size =>
      cases subject with
      | requests =>
        obtain ⟨logs, hlogs, h⟩ := Fallible.bind_eq_ok_iff.1 (Fallible.mapError_eq_ok_iff.1 h)
        cases h
        exact .requestLogs filter page size (Fallible.mapM_eq_ok_iff.1 hlogs)
      | health =>
        obtain ⟨logs, hlogs, h⟩ := Fallible.bind_eq_ok_iff.1 (Fallible.mapError_eq_ok_iff.1 h)
        cases h
        exact .healthLogs filter page size (Fallible.mapM_eq_ok_iff.1 hlogs)
  · intro h
    cases h with
    | count => rfl
    | groups _ _ _ _ _ hreport =>
      exact Fallible.mapError_eq_ok_iff.2 (Fallible.map_eq_ok_iff.2 ⟨_, hreport, rfl⟩)
    | histogram _ _ _ _ hreport =>
      exact Fallible.mapError_eq_ok_iff.2 (Fallible.map_eq_ok_iff.2 ⟨_, hreport, rfl⟩)
    | availability _ _ _ hendpoints =>
      exact Fallible.mapError_eq_ok_iff.2 (Fallible.map_eq_ok_iff.2 ⟨_, hendpoints, rfl⟩)
    | responseTime => rfl
    | requestLogs _ _ _ hlogs =>
      exact Fallible.mapError_eq_ok_iff.2
        (Fallible.bind_eq_ok_iff.2 ⟨_, Fallible.mapM_eq_ok_iff.2 hlogs, rfl⟩)
    | healthLogs _ _ _ hlogs =>
      exact Fallible.mapError_eq_ok_iff.2
        (Fallible.bind_eq_ok_iff.2 ⟨_, Fallible.mapM_eq_ok_iff.2 hlogs, rfl⟩)

/-- A query that asks for no documents finds fault with none. -/
theorem faultOf?_eq_none {subject : Subject} {filter : Filter} {question : Question}
    (h : ∀ page size, question ≠ .logs page size) (hit : Hit) :
    (query subject ⟨filter, question⟩).faultOf? hit = none := by
  cases question with
  | logs page size => exact absurd rfl (h page size)
  | count => cases subject <;> rfl
  | groups => cases subject <;> rfl
  | histogram => cases subject <;> rfl
  | availability => cases subject <;> rfl
  | responseTime => cases subject <;> rfl

theorem report_eq_fault_iff {subject : Subject} {content : Query} {fault : DocumentFault} :
    (subject.ofQuestion content.question).report content.question response =
        .error (.fault fault) ↔
      response.hits.findSome? (query subject content).faultOf? = some fault := by
  obtain ⟨filter, question⟩ := content
  by_cases hlogs : ∃ page size, question = .logs page size
  · obtain ⟨page, size, rfl⟩ := hlogs
    cases subject with
    | requests =>
      exact Halt.mapError_fault_eq_fault_iff.trans
        (Fallible.bind_ok_eq_error_iff.trans Fallible.mapM_eq_error_iff)
    | health =>
      exact Halt.mapError_fault_eq_fault_iff.trans
        (Fallible.bind_ok_eq_error_iff.trans Fallible.mapM_eq_error_iff)
  · have hno : ∀ page size, question ≠ .logs page size :=
      fun page size heq => hlogs ⟨page, size, heq⟩
    have hnone : response.hits.findSome? (query subject ⟨filter, question⟩).faultOf? = none :=
      List.findSome?_eq_none_iff.2 fun hit _ => faultOf?_eq_none hno hit
    rw [hnone]
    refine ⟨fun h => ?_, nofun⟩
    cases question with
    | logs page size => exact absurd rfl (hno page size)
    | count => cases h
    | groups => exact absurd h Halt.mapError_overflow_ne_fault
    | histogram => exact absurd h Halt.mapError_overflow_ne_fault
    | availability => exact absurd h Halt.mapError_overflow_ne_fault
    | responseTime => cases h

/-- Counts are only added up into shares of successes. -/
theorem report_eq_overflow_iff {subject : Subject} {content : Query} {overflow : Overflow} :
    (subject.ofQuestion content.question).report content.question response =
        .error (.overflow overflow) ↔
      Exceeds response (query subject content) ∧ overflow = .sum := by
  obtain ⟨filter, question⟩ := content
  cases question with
  | count => exact ⟨nofun, fun ⟨h, _⟩ => nomatch h⟩
  | responseTime group => exact ⟨nofun, fun ⟨h, _⟩ => nomatch h⟩
  | logs page size =>
    refine ⟨fun h => ?_, fun ⟨h, _⟩ => nomatch h⟩
    cases subject with
    | requests => exact absurd h Halt.mapError_fault_ne_overflow
    | health => exact absurd h Halt.mapError_fault_ne_overflow
  | groups field ranges order =>
    refine ⟨fun h => ?_, fun ⟨h, _⟩ => nomatch h⟩
    obtain ⟨report, hreport⟩ := GroupsReport.exists_ofResponse response
    have hnone := Fallible.map_eq_error_iff.1 (Halt.mapError_overflow_eq_overflow_iff.1 h)
    rw [hreport] at hnone
    cases hnone
  | histogram interval series =>
    have hreport : subject.report (.histogram interval series) response =
        .error (.overflow overflow) ↔
          ¬response.TotalsFit subject.countMode ∧ overflow = .sum :=
      (Halt.mapError_overflow_eq_overflow_iff.trans Fallible.map_eq_error_iff).trans
        HistogramReport.ofResponse_eq_error_iff
    refine hreport.trans (and_congr_left fun _ => ?_)
    cases subject with
    | requests => exact ⟨fun h => absurd nofun h, nofun⟩
    | health =>
      refine ⟨.histogram filter interval series, fun h => ?_⟩
      cases h with
      | histogram _ _ _ hbeyond => exact hbeyond
  | availability group =>
    obtain ⟨endpoints, hendpoints⟩ := response.exists_membersAre "terms"
    have hreport : (Subject.health.report (.availability group) response =
        .error (.overflow overflow) ↔ _) :=
      (Halt.mapError_overflow_eq_overflow_iff.trans Fallible.map_eq_error_iff).trans
        (availabilities_eq_error_iff hendpoints)
    refine hreport.trans (and_congr_left fun _ => ?_)
    constructor
    · rintro ⟨endpoint, hendpoint, window, hwindow, hbeyond⟩
      exact .availability subject filter group hendpoints hendpoint
        (endpoint.membersAre_members "ranges") hwindow hbeyond
    · intro h
      cases h with
      | availability _ _ _ hendpoints' hendpoint hwindows hwindow hbeyond =>
        rw [hendpoints'.eq hendpoints] at hendpoint
        rw [Group.membersAre_iff] at hwindows
        exact ⟨_, hendpoint, _, hwindows ▸ hwindow, hbeyond⟩

variable {inquiry : Inquiry}

/-- A response has a finding to offer just where it answers the inquiry. -/
theorem finding_eq_ok_iff {finding : Finding} :
    inquiry.finding response = .ok finding ↔ Answers response inquiry finding := by
  cases inquiry with
  | query subject content =>
    rw [Inquiry.finding]
    constructor
    · intro h
      split at h
      · rename_i report hreport
        cases h
        exact report_eq_ok_iff.1 hreport
      · cases h
    · intro h
      obtain ⟨report, rfl⟩ : ∃ report, finding = .report report := by
        cases h <;> exact ⟨_, rfl⟩
      rw [report_eq_ok_iff.2 h]
  | requestLog id =>
    refine (Fallible.mapError_eq_ok_iff.trans firstHit_eq_ok_iff).trans ⟨?_, ?_⟩
    · rintro ⟨hit, rest, log, hhits, hlog, rfl⟩
      exact .requestLog id hhits hlog
    · intro h
      cases h with
      | requestLog _ hhits hlog => exact ⟨_, _, _, hhits, hlog, rfl⟩
  | healthCheck id =>
    refine (Fallible.mapError_eq_ok_iff.trans firstHit_eq_ok_iff).trans ⟨?_, ?_⟩
    · rintro ⟨hit, rest, check, hhits, hcheck, rfl⟩
      exact .healthCheck id hhits hcheck
    · intro h
      cases h with
      | healthCheck _ hhits hcheck => exact ⟨_, _, _, hhits, hcheck, rfl⟩
  | monitoring gateway =>
    refine (Fallible.mapError_eq_ok_iff.trans firstHit_eq_ok_iff).trans ⟨?_, ?_⟩
    · rintro ⟨hit, rest, state, hhits, hstate, rfl⟩
      exact .monitoring gateway hhits hstate
    · intro h
      cases h with
      | monitoring _ hhits hstate => exact ⟨_, _, _, hhits, hstate, rfl⟩

/-- A response has none to offer where one document was wanted and there is no hit, or where a hit
that is read makes no sense. -/
theorem finding_eq_fault_iff {failure : Failure} :
    inquiry.finding response = .error (.fault failure) ↔
      (inquiry.missing? = some failure ∧ response.hits = []) ∨
      ∃ fault, failure = .unreadable fault ∧
        (inquiry.hitsRead response).findSome? inquiry.faultOf? = some fault := by
  cases inquiry with
  | query subject content =>
    rw [Inquiry.finding]
    constructor
    · intro h
      split at h
      · cases h
      · rename_i halt hreport
        cases halt with
        | fault fault =>
          cases h
          exact .inr ⟨fault, rfl, report_eq_fault_iff.1 hreport⟩
        | overflow overflow => cases h
    · rintro (⟨h, -⟩ | ⟨fault, rfl, h⟩)
      · cases h
      · rw [report_eq_fault_iff.2 h]
        rfl
  | requestLog id =>
    rw [missing?, Option.some.injEq]
    exact Halt.mapError_fault_eq_fault_iff.trans firstHit_eq_error_iff
  | healthCheck id =>
    rw [missing?, Option.some.injEq]
    exact Halt.mapError_fault_eq_fault_iff.trans firstHit_eq_error_iff
  | monitoring gateway =>
    rw [missing?, Option.some.injEq]
    exact Halt.mapError_fault_eq_fault_iff.trans firstHit_eq_error_iff

/-- There is an overflow where the inquiry wants something added up that is too much. -/
theorem finding_eq_overflow_iff {overflow : Overflow} :
    inquiry.finding response = .error (.overflow overflow) ↔
      Exceeds response inquiry ∧ overflow = .sum := by
  cases inquiry with
  | query subject content =>
    rw [Inquiry.finding]
    constructor
    · intro h
      split at h
      · cases h
      · rename_i halt hreport
        cases halt with
        | fault fault => cases h
        | overflow overflow =>
          cases h
          exact report_eq_overflow_iff.1 hreport
    · intro h
      rw [report_eq_overflow_iff.2 h]
      rfl
  | requestLog id =>
    exact ⟨fun h => absurd h Halt.mapError_fault_ne_overflow, fun ⟨h, _⟩ => nomatch h⟩
  | healthCheck id =>
    exact ⟨fun h => absurd h Halt.mapError_fault_ne_overflow, fun ⟨h, _⟩ => nomatch h⟩
  | monitoring gateway =>
    exact ⟨fun h => absurd h Halt.mapError_fault_ne_overflow, fun ⟨h, _⟩ => nomatch h⟩

end Findings

end Inquiry

end Logbook
