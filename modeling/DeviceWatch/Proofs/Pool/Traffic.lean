import DeviceWatch.Service

/-!
# Poll traffic

Ticks, requests, cancels, workers and ending executions share one pool.  What holds a lock of the
registry or of the tracker is one event, and so is the acceptance of a task; events come in any
order, and one that does not fit the state changes nothing.  A task counts as queued from its
acceptance until a worker has started it: whatever is on its way into the queue, or was taken out
of it and waits for the rate limit, is in the queue here, and a worker may start any of it.
-/

namespace DeviceWatch

/-- A connector that was claimed for a poll which the pool has not accepted yet. -/
structure Claim where
  ticket : PollTicket
  snapshot : Connector
  kind : JobKind
  /-- The pool has refused the poll, and the claim is to be undone. -/
  refused : Bool := false

/-- What is still to be done for a task whose record has been closed. -/
inductive Closing where
  /-- A cancel has closed the record of a task that was queued. -/
  | cancelled (j : Job)
  /-- An execution has closed its record, and its findings are handed on. -/
  | concluded (e : Execution) (ending : Ending)
  /-- An execution has found its record closed. -/
  | dropped (e : Execution)
  /-- The place with the worker is to be freed. -/
  | leaving (e : Execution)

/-- The connector whose claim is still to be released. -/
def Closing.owes : Closing → Option String
  | cancelled j => j.connectorId
  | concluded e _ | dropped e => e.task.connectorId
  | leaving _ => none

structure PollTraffic where
  pool : Pool
  claims : List Claim := []
  closings : List Closing := []
  /-- The tasks whose executions have ended. -/
  past : List Uuid := []
  /-- The tasks that were accepted. -/
  accepted : List Uuid := []

inductive PollEvent where
  | upsert (id : String) (input : ConnectorInput) (now : Instant)
  | setEnabled (id : String) (enabled : Bool) (now : Instant)
  | remove (id : String)
  | claim (id : String) (kind : JobKind) (now : Instant)
  | submit (claim : Nat) (task : Uuid) (now : Instant)
  /-- The places of the queue are reserved for tasks on their way. -/
  | refuse (claim : Nat)
  | abort (claim : Nat)
  | submitJob (kind : JobKind) (spec : JobSpec) (task : Uuid) (now : Instant)
  | signal (task : Uuid) (now : Instant)
  | cancelQueued (task : Uuid) (now : Instant)
  /-- Tokens of the rate limit are spent or come back. -/
  | limit (limiter : RateLimiter)
  | start (place : Nat) (worker : Nat) (course : Course) (now : Instant)
  | report (task : Uuid) (r : ProgressReport) (now : Instant)
  | finish (place : Nat) (ending : Ending) (now : Instant)
  /-- The next thing is done for a closing; `problem` is what went wrong with the findings. -/
  | proceed (closing : Nat) (problem : Option String) (now : Instant)
  | prune (keep : Nat)

namespace PollTraffic

def setPool (s : PollTraffic) (p : Pool) : PollTraffic := { s with pool := p }

def setRegistry (s : PollTraffic) (r : Registry) : PollTraffic :=
  s.setPool { s.pool with registry := r }

def setTracker (s : PollTraffic) (t : Tracker) : PollTraffic :=
  s.setPool { s.pool with tracker := t }

def configure (s : PollTraffic) : Outcome (Connector × Registry) → PollTraffic
  | .ok (_, r) => s.setRegistry r
  | .error _ => s

def claim (s : PollTraffic) (id : String) (kind : JobKind) (now : Instant) : PollTraffic :=
  match s.pool.registry.markPollStart id now with
  | .ok (ticket, snapshot, r) =>
    { s.setRegistry r with claims := s.claims ++ [⟨ticket, snapshot, kind, false⟩] }
  | .error _ => s

def refuse (s : PollTraffic) (i : Nat) (c : Claim) : PollTraffic :=
  { s with claims := s.claims.set i { c with refused := true } }

def submit (s : PollTraffic) (i : Nat) (c : Claim) (task : Uuid) (now : Instant) : PollTraffic :=
  if c.refused || s.accepted.contains task then s
  else match s.pool.submit ⟨task, c.kind, .poll c.snapshot⟩ now with
    | (.ok _, p) =>
      { s with pool := p, claims := s.claims.eraseIdx i, accepted := task :: s.accepted }
    | (.error _, p) => (s.setPool p).refuse i c

def abort (s : PollTraffic) (i : Nat) (c : Claim) : PollTraffic :=
  if c.refused then
    { s.setRegistry (s.pool.registry.abortPollStart c.ticket) with claims := s.claims.eraseIdx i }
  else s

def submitJob (s : PollTraffic) (kind : JobKind) (spec : JobSpec) (task : Uuid) (now : Instant) :
    PollTraffic :=
  if s.accepted.contains task then s
  else match s.pool.submit ⟨task, kind, .job spec⟩ now with
    | (.ok _, p) => { s with pool := p, accepted := task :: s.accepted }
    | (.error _, p) => s.setPool p

def cancelQueued (s : PollTraffic) (task : Uuid) (now : Instant) : PollTraffic :=
  match s.pool.tracker.cancelQueued task now with
  | .ok (some j, tracker) => { s.setTracker tracker with closings := s.closings ++ [.cancelled j] }
  | _ => s

/-- A worker with a free place starts a task, or passes it over if it has ended. -/
def start (s : PollTraffic) (i : Nat) (t : Task) (worker : Nat) (course : Course) (now : Instant) :
    PollTraffic :=
  if worker < s.pool.config.workerCount ∧ s.pool.load worker < s.pool.config.workerConcurrency then
    let p := { s.pool with queue := s.pool.queue.eraseIdx i }
    match s.pool.tracker.start t.id (Pool.workerName worker) now with
    | .ok (_, tracker) =>
      let e : Execution := { task := t, worker := worker, startedAt := now, course := course }
      s.setPool { p with tracker := tracker, running := p.running ++ [e] }
    | .error _ => s.setPool p
  else s

/-- An execution closes its record, unless it has done so or somebody else has. -/
def finish (s : PollTraffic) (e : Execution) (ending : Ending) (now : Instant) : PollTraffic :=
  if s.past.contains e.task.id then s
  else match s.pool.tracker.finish e.task.id ending.state (ending.error e.task) ending.result now with
    | .ok (j, tracker) =>
      let duration : Span := ⟨(now.nanos - e.startedAt.nanos).toNat⟩
      { s.setPool ({ s.pool with tracker := tracker }.recordExecution j duration now) with
        closings := s.closings ++ [.concluded e ending]
        past := e.task.id :: s.past }
    | .error _ =>
      { s with closings := s.closings ++ [.dropped e], past := e.task.id :: s.past }

def proceed (s : PollTraffic) (i : Nat) (problem : Option String) (now : Instant) :
    Closing → PollTraffic
  | .cancelled j =>
    { s.setPool ((s.pool.release j.connectorId .cancelled now).recordExecution j ⟨0⟩ now) with
      closings := s.closings.eraseIdx i }
  | .concluded e ending =>
    { s.setPool (s.pool.release e.task.connectorId (ending.pollOutcome e.task problem) now) with
      closings := s.closings.set i (.leaving e) }
  | .dropped e =>
    { s.setPool (s.pool.release e.task.connectorId .cancelled now) with
      closings := s.closings.set i (.leaving e) }
  | .leaving e =>
    { s.setPool (s.pool.vacate e) with closings := s.closings.eraseIdx i }

def step (s : PollTraffic) : PollEvent → PollTraffic
  | .upsert id input now => s.configure (s.pool.registry.upsert id input now)
  | .setEnabled id enabled now => s.configure (s.pool.registry.setEnabled id enabled now)
  | .remove id => s.configure (s.pool.registry.remove id)
  | .claim id kind now => s.claim id kind now
  | .submit i task now => (s.claims[i]?).elim s fun c => s.submit i c task now
  | .refuse i => (s.claims[i]?).elim s fun c => s.refuse i c
  | .abort i => (s.claims[i]?).elim s fun c => s.abort i c
  | .submitJob kind spec task now => s.submitJob kind spec task now
  | .signal task now => s.setPool (s.pool.signal (·.id == task) now)
  | .cancelQueued task now => s.cancelQueued task now
  | .limit limiter => s.setPool { s.pool with limiter := limiter }
  | .start i worker course now => (s.pool.queue[i]?).elim s fun t => s.start i t worker course now
  | .report task r now => s.setTracker (s.pool.tracker.report task r now)
  | .finish i ending now => (s.pool.running[i]?).elim s fun e => s.finish e ending now
  | .proceed i problem now => (s.closings[i]?).elim s fun c => s.proceed i problem now c
  | .prune keep => s.setTracker (s.pool.tracker.prune keep).2

def run (s : PollTraffic) (events : List PollEvent) : PollTraffic := events.foldl step s

def initial (workers : WorkerConfig) (historyLimit : Nat) (dispatch : DispatchConfig) :
    PollTraffic where
  pool := .new workers (.empty historyLimit) (.empty dispatch)

theorem run_cons (s : PollTraffic) (e : PollEvent) (events : List PollEvent) :
    run s (e :: events) = run (step s e) events := rfl

theorem run_append (s : PollTraffic) (first second : List PollEvent) :
    run s (first ++ second) = run (run s first) second := List.foldl_append

theorem run_induction {P : PollTraffic → Prop} {s : PollTraffic} (start : P s)
    (keep : ∀ s e, P s → P (step s e)) (events : List PollEvent) : P (run s events) := by
  induction events generalizing s with
  | nil => exact start
  | cons e rest ih => exact ih (keep s e start)

end PollTraffic

end DeviceWatch
