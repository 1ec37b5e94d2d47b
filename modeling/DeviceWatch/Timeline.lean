import DeviceWatch.Service

/-!
A service in the course of time.

Time moves from event to event: an execution that ends, a start that the rate limit allows, a tick of
a dispatch loop.  At each instant everything that is due happens before time moves on.  What the
invocations of external drivers do is given by a script for each connector and job.
-/

namespace DeviceWatch

namespace Execution

def isDeaf (e : Execution) : Bool :=
  match e.course with
  | .external _ b => b.deaf
  | _ => false

def workEndsAt (e : Execution) : Instant :=
  match e.course with
  | .external _ b => e.startedAt.add b.delay
  | _ => e.startedAt

def timeoutSecs (c : WorkerConfig) (e : Execution) : Nat :=
  e.task.timeoutSecs.getD c.defaultTaskTimeoutSecs

/-- When the execution stops waiting for its work: at its timeout, or when it is cancelled.  Work that
is deaf to the cancellation is given some grace. -/
def patienceEndsAt (c : WorkerConfig) (e : Execution) : Instant :=
  match e.cancelledAt with
  | none => e.startedAt.add (.ofSecs (e.timeoutSecs c))
  | some t => if e.isDeaf then t.add (.ofSecs c.cancelGraceSecs) else t

def endsAt (c : WorkerConfig) (e : Execution) : Instant :=
  if e.workEndsAt ≤ e.patienceEndsAt c then e.workEndsAt else e.patienceEndsAt c

end Execution

structure Timeline where
  service : Service
  now : Instant
  /-- What the next invocations will do, by connector or job; nothing special when the list ends. -/
  scripts : OrderedMap String (List Behaviour)
  /-- When each dispatch loop ticks next. -/
  loops : List Instant := []

namespace Timeline

def pool (t : Timeline) : Pool := t.service.pool

def scriptKey (task : Task) : String :=
  match task.payload with
  | .poll c => c.id
  | .job spec => spec.name

def uneventful : Behaviour where
  before := []
  delay := ⟨0⟩
  deaf := false
  checkpoint := false
  after := []
  answer _ task _ := match task.payload with
    | .poll _ => .ok (.findings [])
    | .job _ => .ok (.value .null)

def nextBehaviour (t : Timeline) (key : String) : Behaviour :=
  (((t.scripts.find? key).getD []).head?).getD uneventful

/-- What will do the work of a task. -/
def courseOf (t : Timeline) (task : Task) : Course :=
  match t.service.drivers.resolve? task.driverKind with
  | none => .missing
  | some .maintenance => .maintenance
  | some (.external name) => .external name (t.nextBehaviour (scriptKey task))

def report (t : Timeline) (id : Uuid) (rs : List ProgressReport) : Timeline :=
  let tracker := rs.foldl (fun tracker r => tracker.report id r t.now) t.service.tracker
  { t with service := t.service.setTracker tracker }

def begin (t : Timeline) (e : Execution) : Timeline :=
  match e.course with
  | .external _ b =>
    { t with scripts := t.scripts.modify (scriptKey e.task) (·.drop 1) }.report e.task.id b.before
  | _ => t

def finishWork (t : Timeline) (e : Execution) (driver : String) (b : Behaviour) :
    DriverResult × Timeline :=
  if b.checkpoint && e.cancelledAt.isSome then (.error .cancelled, t)
  else (b.answer driver e.task t.now, t.report e.task.id b.after)

/-- How an execution that is over has ended, and what its work did at the end. -/
def ending (t : Timeline) (e : Execution) : Ending × Timeline :=
  let c := t.service.config.workers
  match e.course with
  | .missing => (.failed ("no driver registered for '" ++ e.task.driverKind ++ "'"), t)
  | .maintenance =>
    let (result, s) := Maintenance.run e.task e.cancelledAt.isSome t.now
      ⟨t.service.tracker, t.service.alerts⟩
    (.ofResult result, { t with service := { t.service.setTracker s.tracker with alerts := s.alerts } })
  | .external driver b =>
    let done := e.workEndsAt ≤ e.patienceEndsAt c && (e.cancelledAt.isNone || b.deaf)
    let (result, t) := if done then t.finishWork e driver b else (.error .cancelled, t)
    match e.cancelledAt with
    | some _ => (.cancelled, t)
    | none => (if done then .ofResult result else .timedOut (e.timeoutSecs c), t)

def conclude (t : Timeline) (e : Execution) : Timeline :=
  let (ending, t) := t.ending e
  { t with service := t.service.conclude e ending t.now }

def overdue? (t : Timeline) : Option Execution :=
  t.pool.running.find? fun e => e.endsAt t.service.config.workers ≤ t.now

/-- Ends executions that are over and starts tasks, as often as the count allows. -/
def settleTasks : Nat → Timeline → Timeline
  | 0, t => t
  | count + 1, t =>
    match t.overdue? with
    | some e => settleTasks count (t.conclude e)
    | none =>
      match t.pool.turn t.courseOf t.now with
      | .started e p => settleTasks count ({ t with service := t.service.setPool p }.begin e)
      | .passed p => settleTasks count { t with service := t.service.setPool p }
      | _ => t

def loopTick (t : Timeline) : Timeline :=
  let d := (t.service.dispatcher.tick t.now t.now).2
  let d := { d with pool := { d.pool with metrics := d.pool.metrics.recordTick true } }
  { t with service := { t.service with dispatcher := d } }

def tickPeriod (t : Timeline) : Span := .ofSecs t.service.config.dispatch.tickSecs

def settleLoops (t : Timeline) : Timeline :=
  let ticked := (t.loops.filter (· ≤ t.now)).foldl (fun t _ => t.loopTick) t
  { ticked with loops := t.loops.map fun due => if due ≤ t.now then t.now.add t.tickPeriod else due }

/-- Everything that is due now happens.  Each waiting task starts and ends once at most. -/
def settle (t : Timeline) : Timeline :=
  let t := t.settleLoops
  settleTasks (2 * t.pool.reserved + t.pool.active + 1) t

/-- When the next task may start, if the rate limit keeps it waiting. -/
def nextStart? (t : Timeline) : Option Instant :=
  match t.pool.turn t.courseOf t.now with
  | .wait time => some (t.now.add time)
  | _ => none

def earliest : List Instant → Option Instant
  | [] => none
  | a :: rest =>
    match earliest rest with
    | some b => some (if a ≤ b then a else b)
    | none => some a

def nextEvent? (t : Timeline) : Option Instant :=
  earliest (t.pool.running.map (·.endsAt t.service.config.workers) ++ t.nextStart?.toList ++ t.loops)

def moveTo (t : Timeline) (instant : Instant) : Timeline := { t with now := instant }.settle

/-- Passes every event up to an instant.  Events lie at least a nanosecond apart, so that many steps
are enough. -/
def passUntil (limit : Instant) : Nat → Timeline → Timeline
  | 0, t => t
  | steps + 1, t =>
    match t.nextEvent? with
    | some next => if next ≤ limit then passUntil limit steps (t.moveTo next) else t
    | none => t

def advance (t : Timeline) (d : Span) : Timeline :=
  let limit := t.now.add d
  (passUntil limit (d.nanos + 1) t).moveTo limit

/-- Starts a dispatch loop; its first tick is due at once. -/
def runDispatcher (t : Timeline) : Timeline :=
  if t.service.stopping then t else { t with loops := t.loops ++ [t.now] }

/-- Stops the service; the dispatch loops end. -/
def stop (t : Timeline) : Timeline := { t with service := t.service.stop t.now, loops := [] }

def drain (t : Timeline) : Nat → UpdateStream → List JobUpdate × UpdateStream
  | 0, stream => ([], stream)
  | count + 1, stream =>
    match stream.next t.service.tracker with
    | (.update u, stream) =>
      let (us, stream) := t.drain count stream
      (u :: us, stream)
    | (.pending, stream) => ([], stream)
    | (.finished, stream) => ([], { stream with ended := true })

/-- Reads a stream to its end while time passes, over a number of events at most. -/
def follow : Nat → Timeline → UpdateStream → List JobUpdate × Timeline
  | 0, t, _ => ([], t)
  | events + 1, t, stream =>
    let (us, stream) := t.drain 2 stream
    if stream.ended then (us, t)
    else match t.nextEvent? with
      | some next =>
        let (more, t) := follow events (t.moveTo next) stream
        (us ++ more, t)
      | none => (us, t)

end Timeline

end DeviceWatch
