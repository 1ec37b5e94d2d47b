import DeviceWatch.Connector.Registry
import DeviceWatch.Driver.Basic
import DeviceWatch.Job.Tracker
import DeviceWatch.Metrics
import DeviceWatch.RateLimit

/-!
The worker pool.

Tasks wait in a bounded queue.  Each worker runs a bounded number of tasks at the same time, and
every start spends a token of the rate limit.  How many tasks are reserved and how many are active
is read off the queue and the list of executions.  A queued task is cancelled on the spot, and the
worker that takes it later passes over it; a running one is only signalled.
-/

namespace DeviceWatch

inductive Course where
  /-- Nobody does this kind of work. -/
  | missing
  | maintenance
  | external (driver : String) (behaviour : Behaviour)

inductive Ending where
  | completed (output : DriverOutput)
  | failed (message : String)
  | timedOut (secs : Nat)
  | cancelled

namespace Ending

def ofResult : DriverResult → Ending
  | .ok output => .completed output
  | .error .cancelled => .cancelled
  | .error e => .failed e.message

def state : Ending → JobState
  | completed _ => .succeeded
  | failed _ | timedOut _ => .failed
  | cancelled => .cancelled

def error (t : Task) : Ending → Option String
  | failed message => some message
  | timedOut secs =>
    let what := if t.connectorId.isSome then "poll" else "job"
    some (what ++ " timed out after " ++ toString secs ++ "s")
  | _ => none

/-- The result on the record: of a poll the number of findings. -/
def result : Ending → Option Json
  | completed (.findings fs) => some (.object [("findings", .ofNat fs.length)])
  | completed (.value j) => some j
  | _ => none

def findings : Ending → List Finding
  | completed (.findings fs) => fs
  | _ => []

/-- What the ending says about the health of the connector.  Findings that could not be ingested
count as a failure. -/
def pollOutcome (e : Ending) (t : Task) (ingestError : Option String) : PollOutcome :=
  match e.state, ingestError with
  | .succeeded, none => .success
  | .succeeded, some message => .failed message
  | .cancelled, _ => .cancelled
  | _, _ => .failed ((e.error t).getD "poll failed")

end Ending

structure Execution where
  task : Task
  worker : Nat
  startedAt : Instant
  course : Course
  cancelledAt : Option Instant := none

structure Pool where
  config : WorkerConfig
  tracker : Tracker
  registry : Registry
  limiter : RateLimiter
  metrics : Metrics := {}
  /-- The accepted tasks that no worker has taken, in order. -/
  queue : List Task := []
  /-- The tasks that are running, in order of their start. -/
  running : List Execution := []
  stopped : Bool := false

structure WorkerStatus where
  name : String
  running : Nat
  capacity : Nat

structure QueueStatus where
  active : Nat
  reserved : Nat
  scheduled : Nat
  capacity : Nat
  queueBound : Nat
  rateLimit : Option Nat
  workers : List WorkerStatus

namespace Pool

def new (config : WorkerConfig) (tracker : Tracker) (registry : Registry) : Pool :=
  { config := config, tracker := tracker, registry := registry, limiter := .new config.rateLimit }

def active (p : Pool) : Nat := p.running.length

def reserved (p : Pool) : Nat := p.queue.length

def load (p : Pool) (worker : Nat) : Nat := (p.running.filter (·.worker == worker)).length

def workerName (worker : Nat) : String := "worker-" ++ toString worker

def status (p : Pool) (scheduled : Nat) : QueueStatus where
  active := p.active
  reserved := p.reserved
  scheduled := scheduled
  capacity := p.config.capacity
  queueBound := p.config.queueBound
  rateLimit := if 0 < p.config.rateLimit then some p.config.rateLimit else none
  workers := (List.range p.config.workerCount).map fun w =>
    ⟨workerName w, p.load w, p.config.workerConcurrency⟩

def utilization (p : Pool) : Float := Float.ofNat p.active / Float.ofNat (max p.config.capacity 1)

def stoppedError : ServiceError := .internal "worker pool is shut down"

def submit (p : Pool) (t : Task) (now : Instant) : Outcome Job × Pool :=
  if p.stopped then (.error stoppedError, p)
  else if p.config.queueBound ≤ p.reserved then
    (.error (.backpressure p.reserved p.config.queueBound),
      { p with metrics := p.metrics.recordBackpressure })
  else
    let (j, tracker) := p.tracker.enqueue t now
    (.ok j, { p with tracker := tracker, queue := p.queue ++ [t] })

def release (p : Pool) (connectorId : Option String) (outcome : PollOutcome) (now : Instant) : Pool :=
  match connectorId with
  | some id => { p with registry := (p.registry.markPollResult id outcome now).2 }
  | none => p

def recordExecution (p : Pool) (j : Job) (duration : Span) (now : Instant) : Pool :=
  { p with metrics := p.metrics.recordExecution j.jobName j.state duration now }

/-- Tells an execution that it should end; only the first signal counts. -/
def signal (p : Pool) (cancelled : Task → Bool) (now : Instant) : Pool :=
  { p with running := p.running.map fun e =>
      if cancelled e.task && e.cancelledAt.isNone then { e with cancelledAt := some now } else e }

/-- Cancels a queued task, or signals a running one; gives the record as it is then. -/
def cancel (p : Pool) (id : Uuid) (now : Instant) : Outcome Job × Pool :=
  match p.tracker.observe id with
  | .error e => (.error e, p)
  | .ok j =>
    if j.state.isTerminal then (.error (Tracker.alreadyTerminal id j.state), p)
    else
      let p := p.signal (·.id == id) now
      match p.tracker.cancelQueued id now with
      | .error e => (.error e, p)
      | .ok (some j, tracker) =>
        let p := { p with tracker := tracker }
        (.ok j, (p.release j.connectorId .cancelled now).recordExecution j ⟨0⟩ now)
      | .ok (none, _) => (p.tracker.observe id, p)

/-- Stops the workers and signals every execution.  What is queued stays queued. -/
def stop (p : Pool) (now : Instant) : Pool := { p.signal (fun _ => true) now with stopped := true }

def freeWorker? (p : Pool) : Option Nat :=
  (List.range p.config.workerCount).find? fun w => p.load w < p.config.workerConcurrency

inductive Turn where
  /-- No task waits, or no worker is free. -/
  | idle
  /-- The next start has to wait for the rate limit. -/
  | wait (time : Span)
  /-- The next task had ended while it was queued. -/
  | passed (p : Pool)
  | started (e : Execution) (p : Pool)

/-- Takes the next task from the queue if a worker is free and the rate limit allows.  The token is
spent even if the task turns out to have ended. -/
def turn (p : Pool) (course : Task → Course) (now : Instant) : Turn :=
  match p.queue, p.freeWorker? with
  | t :: queue, some w =>
    if p.stopped then .idle
    else match p.limiter.attempt now with
      | (.wait time, _) => .wait time
      | (.granted, limiter) =>
        let p := { p with limiter := limiter, queue := queue }
        match p.tracker.start t.id (workerName w) now with
        | .ok (_, tracker) =>
          let e : Execution := { task := t, worker := w, startedAt := now, course := course t }
          .started e { p with tracker := tracker, running := p.running ++ [e] }
        | .error _ => .passed p
  | _, _ => .idle

/-- Writes down how an execution ended, and tells whether it was the first to end the task.  If it was
not, its outcome is dropped and only the claim is released. -/
def record (p : Pool) (e : Execution) (ending : Ending) (now : Instant) : Bool × Pool :=
  match p.tracker.finish e.task.id ending.state (ending.error e.task) ending.result now with
  | .ok (j, tracker) =>
    let duration : Span := ⟨(now.nanos - e.startedAt.nanos).toNat⟩
    (true, { p with tracker := tracker }.recordExecution j duration now)
  | .error _ => (false, p.release e.task.connectorId .cancelled now)

def vacate (p : Pool) (e : Execution) : Pool :=
  { p with running := p.running.filter fun other => other.task.id ≠ e.task.id }

end Pool

namespace QueueStatus

def workerJson (w : WorkerStatus) : Json := .object [
  ("name", .str w.name),
  ("running", .ofNat w.running),
  ("capacity", .ofNat w.capacity)]

def toJson (s : QueueStatus) : Json := .object [
  ("active", .ofNat s.active),
  ("reserved", .ofNat s.reserved),
  ("scheduled", .ofNat s.scheduled),
  ("capacity", .ofNat s.capacity),
  ("queue_bound", .ofNat s.queueBound),
  ("rate_limit", .ofOption .ofNat s.rateLimit),
  ("workers", .arr (s.workers.map workerJson))]

end QueueStatus

end DeviceWatch
