import DeviceWatch.Http.Api

/-!
From requests to endpoints.

A path is matched part by part as it is written, fixed parts before variable ones, and its last part is
never empty.  The variable parts are decoded only then.
-/

namespace DeviceWatch.Http

inductive Route where
  | health
  | config
  | queueStatus
  | metrics
  | connectors
  | connector (id : String)
  | connectorPoll (id : String)
  | executions
  | execution (id : String)
  | executionCancel (id : String)
  | executionStream (id : String)
  | jobs
  | jobToggle (name : String)
  | jobRun (name : String)
  | alerts
  | alertAggregate
  | alert (id : String)
  | alertAction (id action : String)
  deriving DecidableEq

namespace Route

def ofSegments? (segments : List String) : Option Route :=
  if segments.getLast? = some "" then none
  else match segments with
    | ["health"] => some .health
    | ["config"] => some .config
    | ["queue", "status"] => some .queueStatus
    | ["scheduler", "metrics"] => some .metrics
    | ["connectors"] => some .connectors
    | ["connectors", id] => some (.connector id)
    | ["connectors", id, "poll"] => some (.connectorPoll id)
    | ["executions"] => some .executions
    | ["executions", id] => some (.execution id)
    | ["executions", id, "cancel"] => some (.executionCancel id)
    | ["executions", id, "stream"] => some (.executionStream id)
    | ["jobs"] => some .jobs
    | ["jobs", name, "toggle"] => some (.jobToggle name)
    | ["jobs", name, "run"] => some (.jobRun name)
    | ["alerts"] => some .alerts
    | ["alerts", "aggregate"] => some .alertAggregate
    | ["alerts", id] => some (.alert id)
    | ["alerts", id, action] => some (.alertAction id action)
    | _ => none

def methods : Route → List Method
  | .connector _ => [.get, .head, .put, .delete]
  | .connectorPoll _ | .executionCancel _ | .jobToggle _ | .jobRun _ | .alertAction _ _ => [.post]
  | _ => [.get, .head]

/-- The text of a variable part; the name of the part is the error when its bytes are malformed. -/
def decodePart (name raw : String) : Except String String :=
  match decodeSegment? raw with
  | some s => .ok s
  | none => .error name

/-- The route with its variable parts decoded, or the name of the first that is malformed. -/
def decode : Route → Except String Route
  | .connector id => (decodePart "id" id).map .connector
  | .connectorPoll id => (decodePart "id" id).map .connectorPoll
  | .execution id => (decodePart "id" id).map .execution
  | .executionCancel id => (decodePart "id" id).map .executionCancel
  | .executionStream id => (decodePart "id" id).map .executionStream
  | .jobToggle name => (decodePart "name" name).map .jobToggle
  | .jobRun name => (decodePart "name" name).map .jobRun
  | .alert id => (decodePart "id" id).map .alert
  | .alertAction id action => do
    let id ← decodePart "id" id
    let action ← decodePart "action" action
    return .alertAction id action
  | r => .ok r

end Route

open Api in
def endpoint (s : Service) (now : Instant) (req : Request) : Route → Reply
  | .health => health s now
  | .config => configSummary s
  | .queueStatus => queueStatus s
  | .metrics => metrics s
  | .connectors => listConnectors s req.uri.parameters
  | .connector id =>
    match req.method with
    | .put => putConnector s id req now
    | .delete => deleteConnector s id
    | _ => getConnector s id
  | .connectorPoll id => pollConnector s id now
  | .executions => listExecutions s req.uri.parameters
  | .execution id => getExecution s id
  | .executionCancel id => cancelExecution s id now
  | .executionStream id => streamExecution s id
  | .jobs => listJobs s now
  | .jobToggle name => toggleJob s name now
  | .jobRun name => runJob s name now
  | .alerts => listAlerts s req.uri.parameters
  | .alertAggregate => aggregateAlerts s req.uri.parameters
  | .alert id => getAlert s id
  | .alertAction id action => actOnAlert s id action req.body now

def Route.answer (s : Service) (now : Instant) (req : Request) (r : Route) : Reply :=
  if !r.methods.contains req.method then ((Response.empty 405).allowing r.methods, s)
  else match r.decode with
    | .error name => (.refusal 400 ("Invalid URL: Invalid UTF-8 in \x60" ++ name ++ "\x60"), s)
    | .ok r => endpoint s now req r

def route (s : Service) (now : Instant) (req : Request) : Reply :=
  match Route.ofSegments? req.uri.segments with
  | none => (.empty 404, s)
  | some r =>
    let (response, s) := r.answer s now req
    (if req.method = .head then response.measured.headOnly else response.measured, s)

def isHeaderValue (s : String) : Bool :=
  s.toList.all fun c => c = '\t' || (0x20 ≤ c.toNat && c.toNat ≠ 0x7F)

/-- The origin that responses allow: the configured one, or any if that is no header value. -/
def allowedOrigin (c : ServerConfig) : String := if isHeaderValue c.corsOrigin then c.corsOrigin else "*"

def corsHeaders (c : ServerConfig) : List (String × String) := [
  ("access-control-allow-origin", allowedOrigin c),
  ("vary", "origin, access-control-request-method, access-control-request-headers")]

/-- What a preflight request is told: any method and any header are allowed, and which methods the
path has if it is one of the service. -/
def preflight (c : ServerConfig) (route : Option Route) : Response :=
  let response : Response := {
    status := 200
    body := .empty
    headers := corsHeaders c ++
      [("access-control-allow-methods", "*"), ("access-control-allow-headers", "*")] }
  match route with
  | some r => (response.allowing r.methods).measured
  | none => response

/-- Handles one request.  A preflight request is answered whatever its path. -/
def handle (s : Service) (now : Instant) (req : Request) : Reply :=
  if req.method = .options then
    (preflight s.config.server (Route.ofSegments? req.uri.segments), s)
  else
    let (response, s') := route s now req
    ({ response with headers := corsHeaders s.config.server ++ response.headers }, s')

end DeviceWatch.Http
