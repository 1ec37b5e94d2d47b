import DeviceWatch.Pool.Basic
import DeviceWatch.Schedule

/-!
The dispatcher: it submits polls of connectors and runs of scheduled jobs.

A tick claims each enabled connector that is due and submits a poll for it, then submits each scheduled
job that is due.  A connector whose last poll is still in flight is skipped.  When the queue is full
the claim is undone, and the connector is due again at the next tick.
-/

namespace DeviceWatch

structure Dispatcher where
  pool : Pool
  schedule : Schedule
  ids : IdSupply

structure TickReport where
  dispatched : List String := []
  skippedInFlight : List String := []
  deferredBackpressure : List String := []
  jobsDispatched : List String := []
  jobsSkippedActive : List String := []
  deriving DecidableEq

namespace TickReport

def isEmpty (r : TickReport) : Bool := r == {}

def toJson (r : TickReport) : Json :=
  let names (ns : List String) : Json := .arr (ns.map Json.str)
  .object [
    ("dispatched", names r.dispatched),
    ("skipped_in_flight", names r.skippedInFlight),
    ("deferred_backpressure", names r.deferredBackpressure),
    ("jobs_dispatched", names r.jobsDispatched),
    ("jobs_skipped_active", names r.jobsSkippedActive)]

end TickReport

namespace Dispatcher

def registry (d : Dispatcher) : Registry := d.pool.registry

def tracker (d : Dispatcher) : Tracker := d.pool.tracker

def setRegistry (d : Dispatcher) (r : Registry) : Dispatcher :=
  { d with pool := { d.pool with registry := r } }

def setTracker (d : Dispatcher) (t : Tracker) : Dispatcher :=
  { d with pool := { d.pool with tracker := t } }

def submit (d : Dispatcher) (kind : JobKind) (payload : Payload) (now : Instant) :
    Outcome Job × Dispatcher :=
  let (id, ids) := d.ids.draw
  let (outcome, pool) := d.pool.submit ⟨id, kind, payload⟩ now
  (outcome, { d with pool := pool, ids := ids })

/-- Submits the poll of a connector that has just been claimed; the claim is undone if the pool refuses
the poll. -/
def submitPoll (d : Dispatcher) (kind : JobKind) (ticket : PollTicket) (snapshot : Connector)
    (now : Instant) : Outcome Job × Dispatcher :=
  match d.submit kind (.poll snapshot) now with
  | (.ok j, d) => (.ok j, d)
  | (.error e, d) => (.error e, d.setRegistry (d.registry.abortPollStart ticket))

def pollNow (d : Dispatcher) (id : String) (now : Instant) : Outcome Job × Dispatcher :=
  match d.registry.markPollStart id now with
  | .error e => (.error e, d)
  | .ok (ticket, snapshot, r) => (d.setRegistry r).submitPoll .manual ticket snapshot now

def tickConnector (at' now : Instant) (state : TickReport × Dispatcher) (c : Connector) :
    TickReport × Dispatcher :=
  let (report, d) := state
  if !c.isDue at' then (report, d)
  else match d.registry.markPollStart c.id at' with
    | .error (.conflict _) =>
      ({ report with skippedInFlight := report.skippedInFlight ++ [c.id] }, d)
    | .error _ => (report, d)
    | .ok (ticket, snapshot, r) =>
      match (d.setRegistry r).submitPoll .poll ticket snapshot now with
      | (.ok _, d) => ({ report with dispatched := report.dispatched ++ [c.id] }, d)
      | (.error (.backpressure _ _), d) =>
        ({ report with deferredBackpressure := report.deferredBackpressure ++ [c.id] }, d)
      | (.error _, d) => (report, d)

def recordTrigger (d : Dispatcher) (name : String) (at' : Instant) : Dispatcher :=
  { d with schedule := d.schedule.recordTrigger name at' }

/-- Runs a job that is due at `at'`, unless its last run is still active. -/
def tickJob (at' now : Instant) (state : TickReport × Dispatcher) (spec : JobSpec) :
    TickReport × Dispatcher :=
  let (report, d) := state
  if d.tracker.isActive spec.name then
    ({ report with jobsSkippedActive := report.jobsSkippedActive ++ [spec.name] },
      d.recordTrigger spec.name at')
  else match d.submit .scheduled (.job spec) now with
    | (.ok _, d) =>
      ({ report with jobsDispatched := report.jobsDispatched ++ [spec.name] },
        d.recordTrigger spec.name at')
    | (.error _, d) => (report, d)

def alreadyRunning (name : String) : ServiceError :=
  .conflict ("job '" ++ name ++ "' is already running")

def runJobNow (d : Dispatcher) (name : String) (now : Instant) : Outcome Job × Dispatcher :=
  match d.schedule.spec name with
  | .error e => (.error e, d)
  | .ok spec =>
    if d.tracker.isActive name then (.error (alreadyRunning name), d)
    else d.submit .manual (.job spec) now

/-- One pass over everything that is due at `at'`; new tasks are stamped `now`. -/
def tick (d : Dispatcher) (at' now : Instant) : TickReport × Dispatcher :=
  let (report, d) := (d.registry.list (some true)).foldl (tickConnector at' now) ({}, d)
  (d.schedule.due at').foldl (tickJob at' now) (report, d)

def scheduledCount (d : Dispatcher) : Nat :=
  (d.registry.list (some true)).length + d.schedule.enabledCount

def queueStatus (d : Dispatcher) : QueueStatus := d.pool.status d.scheduledCount

end Dispatcher

end DeviceWatch
