import DeviceWatch.Alert.Query
import DeviceWatch.CommandLine
import DeviceWatch.Http.ActionBody
import DeviceWatch.Http.Message
import DeviceWatch.Http.Query
import DeviceWatch.Service

/-!
The resources of the service.

Each endpoint takes the service and gives a response with the service after it.  An endpoint that
fails gives the service it was given, except for the count of submissions that a full queue refused.
-/

namespace DeviceWatch.Http

abbrev Reply := Response × Service

namespace Api

def present (s : Service) (j : Json) : Reply := (.json 200 j, s)

def fail (s : Service) (e : ServiceError) : Reply := (.error e, s)

def presentOutcome (s : Service) : Outcome Json → Reply
  | .ok j => present s j
  | .error e => fail s e

def change {α : Type} (s : Service) (status : Nat) (view : Service → α → Json) :
    Outcome (α × Service) → Reply
  | .ok (a, s) => (.json status (view s a), s)
  | .error e => fail s e

def withQuery {α : Type} (s : Service) (reader : Query.Reader α) (query : Query) (reply : α → Reply) :
    Reply :=
  match reader.read query with
  | .ok a => reply a
  | .error e => (.refusal 400 ("Failed to deserialize query string: " ++ e.message), s)

def health (s : Service) (now : Instant) : Reply :=
  present s (.object [
    ("status", .str (if s.stopping then "stopping" else "ok")),
    ("version", .str CommandLine.versionText),
    ("uptime_secs", .int (s.startedAt.secsUntil now)),
    ("dispatcher", .str "idle"),
    ("connectors", .ofNat s.registry.all.length),
    ("alerts", .ofNat s.alerts.size)])

def configSummary (s : Service) : Reply := present s s.config.summary

def queueStatus (s : Service) : Reply := present s s.dispatcher.queueStatus.toJson

def metrics (s : Service) : Reply := present s (s.pool.metrics.toJson s.pool.utilization)

def connectorView (s : Service) (c : Connector) : Json :=
  .object (c.fields ++ [("in_flight", .bool (s.registry.isInFlight c.id))])

def listConnectors (s : Service) (query : Query) : Reply :=
  withQuery s (.optional "enabled" Query.readFlag) query fun enabled =>
    present s (.arr ((s.registry.list enabled).map (connectorView s)))

def getConnector (s : Service) (id : String) : Reply :=
  presentOutcome s ((s.registry.get id).map (connectorView s))

/-- What a request puts: a whole definition, or whether the connector is enabled. -/
inductive ConnectorUpdate where
  | definition (input : ConnectorInput)
  | enabled (value : Bool)

/-- Reads an update; a body with a `config` is a definition. -/
def ConnectorUpdate.read (body : Json) : Outcome ConnectorUpdate :=
  match body.get? "config" with
  | some _ =>
    match ConnectorInput.read body with
    | .ok input => .ok (.definition input)
    | .error e => .error (.validation ("invalid connector: " ++ e.message))
  | none =>
    match (body.get? "enabled").bind Json.asBool? with
    | some value => .ok (.enabled value)
    | none => .error (.validation
        "expected a connector definition with \x60config\x60 or an \x60enabled\x60 flag")

def updateConnector (s : Service) (id : String) (now : Instant) (update : ConnectorUpdate) : Reply :=
  let store (status : Nat) (written : Outcome (Connector × Registry)) : Reply :=
    change s status connectorView (written.map fun (c, r) => (c, s.setRegistry r))
  match update with
  | .definition input =>
    let existed := (s.registry.get id).toOption.isSome
    store (if existed then 200 else 201) (s.registry.upsert id input now)
  | .enabled value => store 200 (s.registry.setEnabled id value now)

def putConnector (s : Service) (id : String) (req : Request) (now : Instant) : Reply :=
  if !req.hasJsonType then (.refusal 415 "Expected request with \x60Content-Type: application/json\x60", s)
  else match Json.parse req.body with
    | .error _ => (.refusal 400 "Failed to parse the request body as JSON", s)
    | .ok body =>
      match ConnectorUpdate.read body with
      | .error e => fail s e
      | .ok update => updateConnector s id now update

def deleteConnector (s : Service) (id : String) : Reply :=
  match s.registry.remove id with
  | .ok (_, r) => (.empty 204, s.setRegistry r)
  | .error e => fail s e

def submitted (s : Service) (result : Outcome Job × Dispatcher) : Reply :=
  let s := { s with dispatcher := result.2 }
  match result.1 with
  | .ok j => (.json 202 j.toJson, s)
  | .error e => fail s e

def pollConnector (s : Service) (id : String) (now : Instant) : Reply :=
  submitted s (s.dispatcher.pollNow id now)

def parseTaskId (raw : String) : Outcome Uuid :=
  match Uuid.parse? raw with
  | some id => .ok id
  | none => .error (.validation ("invalid task id '" ++ raw ++ "'"))

open Query Query.Reader in
def jobFilter : Query.Reader JobFilter :=
  JobFilter.mk <$> optional "state" (readName (JobState.all.map (·.name)) JobState.ofName?)
    <*> optional "kind" (readName (JobKind.all.map (·.name)) JobKind.ofName?)
    <*> optional "connector_id" readText
    <*> optional "limit" readNumber

def listExecutions (s : Service) (query : Query) : Reply :=
  withQuery s jobFilter query fun filter =>
    present s (.object [
      ("items", .arr ((s.tracker.recent filter).map Job.toJson)),
      ("counts", s.tracker.counts.toJson)])

def getExecution (s : Service) (raw : String) : Reply :=
  presentOutcome s do
    let id ← parseTaskId raw
    return (← s.tracker.observe id).toJson

def cancelExecution (s : Service) (raw : String) (now : Instant) : Reply :=
  match parseTaskId raw with
  | .error e => fail s e
  | .ok id =>
    let (outcome, pool) := s.pool.cancel id now
    presentOutcome (s.setPool pool) (outcome.map Job.toJson)

def streamExecution (s : Service) (raw : String) : Reply :=
  match (do UpdateStream.subscribe s.tracker (← parseTaskId raw) : Outcome UpdateStream) with
  | .ok stream => (.events stream, s)
  | .error e => fail s e

def listJobs (s : Service) (now : Instant) : Reply :=
  present s (.arr ((s.schedule.list now).map ScheduledJob.toJson))

def toggleJob (s : Service) (name : String) (now : Instant) : Reply :=
  change s 200 (fun _ => ScheduledJob.toJson)
    ((s.schedule.toggle name now).map fun (j, t) => (j, s.setSchedule t))

def runJob (s : Service) (name : String) (now : Instant) : Reply :=
  submitted s (s.dispatcher.runJobNow name now)

def parseAlertId (raw : String) : Outcome Uuid :=
  match Uuid.parse? raw with
  | some id => .ok id
  | none => .error (.validation ("invalid alert id '" ++ raw ++ "'"))

structure AlertParameters where
  status : Option String
  severity : Option String
  category : Option String
  device : Option String
  text : Option String
  connectorId : Option String
  page : Option Nat
  pageSize : Option Nat

open Query Query.Reader in
def AlertParameters.reader : Query.Reader AlertParameters :=
  AlertParameters.mk <$> optional "status" readText
    <*> optional "severity" readText
    <*> optional "category" readText
    <*> optional "device" readText
    <*> optional "q" readText
    <*> optional "connector_id" readText
    <*> optional "page" readNumber
    <*> optional "page_size" readNumber

/-- The items of a list with commas; blanks around them and empty items do not count. -/
def listItems (raw : Option String) : List String :=
  ((Text.splitOnChar ',' (raw.getD "")).map Text.trim).filter (· ≠ "")

def nonBlank (value : Option String) : Option String := value.filter (!Text.isBlankText ·)

def AlertParameters.toQuery (p : AlertParameters) : Outcome AlertQuery := do
  let statuses ← (listItems p.status).mapM AlertStatus.parse
  let severities ← (listItems p.severity).mapM Severity.parse
  return {
    statuses := statuses
    severities := severities
    category := nonBlank p.category
    device := nonBlank p.device
    text := nonBlank p.text
    connectorId := nonBlank p.connectorId
    page := p.page.getD 1
    pageSize := p.pageSize.getD 0 }

def withAlertQuery (s : Service) (query : Query) (view : AlertQuery → Json) : Reply :=
  withQuery s AlertParameters.reader query fun p => presentOutcome s (p.toQuery.map view)

def listAlerts (s : Service) (query : Query) : Reply :=
  withAlertQuery s query fun q =>
    .object ((s.alerts.query q).fields ++ [("aggregate", (s.alerts.aggregate q).toJson)])

def aggregateAlerts (s : Service) (query : Query) : Reply :=
  withAlertQuery s query fun q => (s.alerts.aggregate q).toJson

def getAlert (s : Service) (raw : String) : Reply :=
  presentOutcome s do
    let id ← parseAlertId raw
    return (← s.alerts.get id).toJson

/-- Applies the action that the path names; its parameter is in the body. -/
def actOnAlert (s : Service) (raw action body : String) (now : Instant) : Reply :=
  change s 200 (fun _ => Alert.toJson) do
    let id ← parseAlertId raw
    let until' ← (ActionBody.read body).mapError fun e =>
      ServiceError.validation ("invalid action body: " ++ e.message)
    let action ← AlertAction.parse action until'
    let (a, alerts) ← s.alerts.apply id action now
    return (a, { s with alerts := alerts })

end Api

end DeviceWatch.Http
