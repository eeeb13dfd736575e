import Logbook.Backend.Basic
import Logbook.Document.Monitoring
import Logbook.Report.Basic
import Logbook.Search.OfQuery

/-!
# Inquiries

An inquiry is one thing that a user wants to know: the answer to a query, or one document. It comes
down to one search, and its finding is made from the response to that search.
-/

set_option autoImplicit false

namespace Logbook

/-- What a query is about. -/
inductive Subject where
  | requests
  | health
deriving DecidableEq, Repr

/-- One thing that a user wants to know. -/
inductive Inquiry where
  /-- The answer to a query. -/
  | query (subject : Subject) (content : Query)
  /-- The recorded exchange with an identifier. -/
  | requestLog (id : String)
  /-- The health check with an identifier. -/
  | healthCheck (id : String)
  /-- How a gateway is. -/
  | monitoring (gateway : String)
deriving DecidableEq, Repr

/-- What came of an inquiry. -/
inductive Finding where
  | report (content : Report)
  | requestLog (log : FullRequestLog)
  | healthCheck (check : FullHealthCheck)
  | monitoring (state : Monitoring)

namespace Finding

/-- A finding as JSON. -/
def toJson : Finding → Json
  | report content => content.toJson
  | requestLog log => log.toJson
  | healthCheck check => check.toJson
  | monitoring state => state.toJson

end Finding

/-- Why an inquiry has no finding. -/
inductive Failure where
  /-- The query makes no sense. -/
  | refused (fault : QueryFault)
  /-- The backend did not answer. -/
  | unanswered (operation : String) (fault : BackendFault)
  | noRequestLog (id : String)
  | noHealthCheck (id : String)
  | noMonitoring (gateway : String)
  /-- A document in the response makes no sense. -/
  | unreadable (fault : DocumentFault)
deriving Repr

namespace Failure

/-- The wording of a failure. -/
def message : Failure → String
  | refused fault => "Invalid query: " ++ fault.message
  | unanswered operation fault =>
    "Analytics query failed (" ++ operation ++ "): " ++ fault.message
  | noRequestLog id => "Not found: Request [" ++ id ++ "] does not exist"
  | noHealthCheck id => "Not found: Health-check [" ++ id ++ "] does not exist"
  | noMonitoring gateway => "Not found: No monitoring data for gateway [" ++ gateway ++ "]"
  | unreadable fault => fault.message

end Failure

/-! ## Subjects -/

namespace Subject

/-- The subject of a question: some questions are about health whatever else was said. -/
def ofQuestion (subject : Subject) : Question → Subject
  | .availability _ | .responseTime _ => health
  | _ => subject

/-- The documents that are about a subject. -/
def kind : Subject → DocumentKind
  | requests => .request
  | health => .health

/-- How a histogram counts. -/
def countMode : Subject → CountMode
  | requests => .counts
  | health => .availability

/-- A query with what it leaves open about time. -/
def complete (subject : Subject) (now : Int64) (query : Query) : Query :=
  match subject with
  | requests => query
  | health => query.withDefaultWindow now

/-- The report that answers a question. -/
def report (subject : Subject) (question : Question) (response : Response) :
    Except (Halt DocumentFault) Report :=
  match question with
  | .count => .ok (.count response.total)
  | .groups .. => ((GroupsReport.ofResponse response).map .groups).mapError .overflow
  | .histogram _ series =>
    ((HistogramReport.ofResponse response series subject.countMode).map .histogram).mapError
      .overflow
  | .availability _ => ((availabilities response).map .availability).mapError .overflow
  | .responseTime _ => .ok (.responseTime (averageTimes response))
  | .logs .. =>
    match subject with
    | requests => (Report.requestLogsOf response).mapError .fault
    | health => (Report.healthLogsOf response).mapError .fault

/-- The name under which a question is asked. -/
def operation : Subject → Question → String
  | health, .availability _ => "availability"
  | health, .responseTime _ => "average_response_time"
  | health, question => "health_" ++ question.name
  | requests, question => question.name

end Subject

/-! ## Inquiries -/

namespace Inquiry

/-- The name under which an inquiry is made. -/
def operation : Inquiry → String
  | query subject content => (subject.ofQuestion content.question).operation content.question
  | requestLog _ => "find_log"
  | healthCheck _ => "find_health_check"
  | monitoring _ => "monitoring"

/-- The search that an inquiry made at an instant comes down to. -/
def search (scheme : PartitionScheme) (now : Int64) : Inquiry → Except (Halt QueryFault) Search
  | query subject content =>
    let subject := subject.ofQuestion content.question
    Search.ofQuery scheme subject.kind (subject.complete now content)
  | requestLog id => .ok (.byId scheme .request id)
  | healthCheck id => .ok (.byId scheme .health id)
  | monitoring gateway => (Search.latestMonitoring scheme gateway now).mapError .overflow

/-- A document in a response: the first hit, read by `read`. -/
def firstHit {α : Type} (response : Response) (missing : Failure)
    (read : Hit → Except DocumentFault α) : Except Failure α :=
  match response.hits with
  | [] => .error missing
  | hit :: _ => (read hit).mapError .unreadable

/-- What a response says about an inquiry. -/
def finding (inquiry : Inquiry) (response : Response) : Except (Halt Failure) Finding :=
  match inquiry with
  | query subject content =>
    match (subject.ofQuestion content.question).report content.question response with
    | .ok report => .ok (.report report)
    | .error halt => .error (halt.map .unreadable)
  | requestLog id =>
    ((firstHit response (.noRequestLog id) fun hit => FullRequestLog.ofDocument hit.source).map
      .requestLog).mapError .fault
  | healthCheck id =>
    ((firstHit response (.noHealthCheck id) FullHealthCheck.ofHit).map .healthCheck).mapError
      .fault
  | monitoring gateway =>
    ((firstHit response (.noMonitoring gateway) fun hit => Monitoring.ofDocument hit.source).map
      .monitoring).mapError .fault

end Inquiry

end Logbook
