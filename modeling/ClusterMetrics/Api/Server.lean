import ClusterMetrics.Api.Answer
import ClusterMetrics.Api.StoreRequest
import ClusterMetrics.Config.Server

/-! # The server

The server answers one request at a time from its configuration, its store, its clock and what it has
counted since its start. A fault of the request is answered with 404, a fault behind the server with
500, and only the latter and the answers from the store leave a record in the audit log.

* **`Request`**: what a client sends; **`Request.ofTarget`** takes a target apart.
* **`Server`**: the state of a server. **`Server.answer`**: its answer and what it logs. -/

namespace ClusterMetrics

open ClusterMetrics.Text

/-- A **request**. -/
structure Request where
  method : String
  /-- The path, percent-decoded. -/
  path : String
  /-- The query string as it was sent. -/
  queryString : String
  /-- The address that it came from. -/
  client : String
  deriving DecidableEq, Repr

namespace Request

/-- The request of a target: the path ends at the first question mark. -/
def ofTarget (method target client : String) : Request :=
  let cs := target.toList
  ⟨method, String.ofList (percentDecode (cs.takeWhile (· != '?'))),
    String.ofList (cs.dropWhile (· != '?')).tail, client⟩

/-- Whether a character ends the path of an address. -/
def endsPath (c : Char) : Bool := c == '?' || c == '#'

/-- Whether a character is dropped from an address. -/
def isDropped (c : Char) : Bool := c == '\t' || c == '\n' || c == '\r'

/-- The path as the audit log has it: read once more as part of an address. -/
def loggedPath (request : Request) : String :=
  String.ofList ((request.path.toList.filter fun c => !isDropped c).takeWhile fun c => !endsPath c)

end Request

/-- The **state of a server**. -/
structure Server where
  config : ServerConfig
  backend : Backend
  /-- The time, in seconds since 1970-01-01 UTC. -/
  clock : Float
  /-- The seconds that the store takes for a query. -/
  elapsed : Float
  stats : ServerStats
  incidents : IncidentRegistry

/-- The name of a route in the audit log. -/
def DataRoute.auditName : DataRoute → String
  | clusters => "clusters"
  | agents => "agents"
  | nodes => "nodes"
  | metricNames => "metric_names"
  | clusterAgents => "cluster_agents"
  | clusterNodes => "cluster_nodes"
  | snapshot (.entities .node) => "snapshot_nodes"
  | snapshot (.entities .process) => "snapshot_processes"
  | snapshot (.entities .container) => "snapshot_containers"
  | snapshot .pods => "snapshot_pods"
  | series (.entities .node) => "series_nodes"
  | series (.entities .process) => "series_processes"
  | series (.entities .container) => "series_containers"
  | series .pods => "series_pods"
  | series .clusterSummary => "series_cluster_summary"
  | summary .clusters => "summary_clusters"
  | summary .nodes => "summary_nodes"

/-- Whether the answer tells the number of records. -/
def DataRoute.tellsCount : DataRoute → Bool
  | series _ => true
  | _ => false

/-- Whether every number of an incident can be written as JSON. -/
def Incident.isWritable (incident : Incident) : Bool := Decimal.isFinite incident.value

/-- How a **failure is told** to the client, and to the log if it was not the client's fault. -/
def Failure.outcome : Failure → Answer × Option AuditEvent
  | .parameter fault => (⟨404, .bad fault.message⟩, none)
  | .store message => (⟨500, .bad "failed to get data"⟩, some (.failed message))
  | .timeout => (⟨500, .bad "query timed out"⟩, some (.failed "timeout"))
  | f => (⟨500, .bad "internal server error"⟩, some (.failed f.className))

namespace Server

/-- The whole second of the clock, the fraction dropped. -/
def second (server : Server) : Int :=
  match Decimal.finite? server.clock with
  | some b => b.truncate
  | none => 0

/-- The answer to the question whether the store can be reached. -/
def health (server : Server) : Answer :=
  match server.backend.respond with
  | .ok _ => ⟨200, .healthy⟩
  | .error _ => ⟨500, .bad "DB connection failed"⟩

/-- The incidents, newest first, all of which have to be writable. -/
def incidentBody (server : Server) : Except Failure Body := do
  let items ← server.incidents.newestFirst
  if items.all Incident.isWritable then return .incidents items else throw .unprintableNumber

/-- The data of a route, and the event that it was fetched. -/
def dataBody (server : Server) (route : DataRoute) (ids : PathIds) (queryString : String) :
    Except Failure (Body × Option AuditEvent) := do
  let fetched ← route.fetch server.backend server.second ids queryString
  let shaped := fetched.shaped
  let count := if route.tellsCount then some shaped.count else none
  return (.data shaped.layout count server.elapsed,
    some (.executed route.auditName fetched.rows shaped.skipped server.elapsed))

/-- The outcome of a body that may have failed. -/
def outcome : Except Failure (Body × Option AuditEvent) → Answer × Option AuditEvent
  | .ok (body, event) => (⟨200, body⟩, event)
  | .error f => f.outcome

/-- The answer of a **route** and the event that is logged. -/
def answerRoute (server : Server) (ids : PathIds) (queryString : String) :
    Route → Answer × Option AuditEvent
  | .health => (server.health, none)
  | .status => outcome ((server.stats.snapshot server.clock).map fun r => (.status r, none))
  | .incidents => outcome (server.incidentBody.map fun b => (b, none))
  | .data route => outcome (server.dataBody route ids queryString)

/-- The record of an event. -/
def record (server : Server) (request : Request) (event : AuditEvent) : AuditRecord :=
  ⟨server.second, event, request.client, request.method, request.loggedPath⟩

/-- The **answer to a request**, and the records written to the audit log. Only `GET` is allowed. -/
def answer (server : Server) (request : Request) : Answer × List AuditRecord :=
  match findRoute server.config.basePath request.path with
  | none => (⟨404, .detail "Not Found"⟩, [])
  | some (route, ids) =>
    if request.method = "GET" then
      let (answer, event) := server.answerRoute ids request.queryString route
      (answer, event.toList.map (server.record request))
    else (⟨405, .detail "Method Not Allowed"⟩, [])

end Server

end ClusterMetrics
