import DeviceWatch.Alert.Correlation
import DeviceWatch.Connector.Seed
import DeviceWatch.Dispatcher
import DeviceWatch.Maintenance

/-!
The service as a whole: what requests, ticks and executions work on.
-/

namespace DeviceWatch

structure Service where
  config : Config
  dispatcher : Dispatcher
  alerts : AlertStore
  drivers : DriverTable
  startedAt : Instant
  /-- Whether findings can be stored. -/
  storeAvailable : Bool := true
  stopping : Bool := false

inductive StartupError where
  | invalidConfig (e : ServiceError)
  | seedUnreadable
  | seedMalformed

namespace Service

def pool (s : Service) : Pool := s.dispatcher.pool

def registry (s : Service) : Registry := s.dispatcher.registry

def tracker (s : Service) : Tracker := s.dispatcher.tracker

def schedule (s : Service) : Schedule := s.dispatcher.schedule

def setPool (s : Service) (p : Pool) : Service :=
  { s with dispatcher := { s.dispatcher with pool := p } }

def setRegistry (s : Service) (r : Registry) : Service :=
  { s with dispatcher := s.dispatcher.setRegistry r }

def setTracker (s : Service) (t : Tracker) : Service :=
  { s with dispatcher := s.dispatcher.setTracker t }

def setSchedule (s : Service) (t : Schedule) : Service :=
  { s with dispatcher := { s.dispatcher with schedule := t } }

def seeded (c : Config) (seed : Option String) (now : Instant) : Except StartupError Registry :=
  let r := Registry.empty c.dispatch
  if seed.isNone && c.connectorsFile.isNone then .ok r
  else match r.applySeedFile now seed with
    | (.ok _, r) => .ok r
    | (.error .unreadable, _) => .error .seedUnreadable
    | (.error .malformed, _) => .error .seedMalformed

def start (c : Config) (seed : Option String) (drivers : DriverTable) (now : Instant) :
    Except StartupError Service := do
  c.validate.mapError .invalidConfig
  let registry ← seeded c seed now
  let schedule ← (Maintenance.addBuiltinJobs default now).mapError .invalidConfig
  return {
    config := c
    dispatcher := ⟨.new c.workers (.empty c.executionHistoryLimit) registry, schedule, {}⟩
    alerts := .empty
    drivers := drivers.register Maintenance.driverKind .maintenance
    startedAt := now }

def ingest (s : Service) (connectorId : String) (fs : List Finding) (now : Instant) :
    Outcome IngestCounts × Service :=
  let (outcome, state) :=
    Correlation.ingest s.config.alerts connectorId now fs ⟨s.alerts, s.dispatcher.ids⟩
  (outcome, { s with
    alerts := state.store
    dispatcher := { s.dispatcher with ids := state.ids } })

/-- Hands the findings of a poll on, and tells what went wrong with them. -/
def deliver (s : Service) (connectorId : String) (fs : List Finding) (now : Instant) :
    Option String × Service :=
  let failure (e : ServiceError) : Option String := some ("ingest failed: " ++ e.message)
  if fs.isEmpty then (none, s)
  else if !s.storeAvailable then (failure (.internal "alert store unavailable"), s)
  else match s.ingest connectorId fs now with
    | (.ok _, s) => (none, s)
    | (.error e, s) => (failure e, s)

/-- Ends an execution: its record is closed, and if it was the first to close it, the findings of a
poll are handed on and the health of the connector is updated. -/
def conclude (s : Service) (e : Execution) (ending : Ending) (now : Instant) : Service :=
  let (first, pool) := s.pool.record e ending now
  let s := s.setPool pool
  let s := match first, e.task.connectorId with
    | true, some id =>
      let (problem, s) := s.deliver id ending.findings now
      s.setPool (s.pool.release (some id) (ending.pollOutcome e.task problem) now)
    | _, _ => s
  s.setPool (s.pool.vacate e)

/-- Stops the service: nothing is accepted or started any more, and every execution is told to end. -/
def stop (s : Service) (now : Instant) : Service :=
  { s.setPool (s.pool.stop now) with stopping := true }

end Service

end DeviceWatch
