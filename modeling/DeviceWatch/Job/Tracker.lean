import DeviceWatch.Job.Basic
import DeviceWatch.OrderedMap

/-!
The tracker: the records of all executions, and the updates that observers follow.

A job moves from queued to running to one of the terminal states, or from queued straight to a
terminal state; a terminal record never changes.  Terminal records beyond the history limit are
dropped, oldest submission first.  The feed of a job holds its latest update; a stream that reads
a feed skips the updates that were overtaken, and ends after a terminal update.
-/

namespace DeviceWatch

structure JobUpdate where
  taskId : Uuid
  state : JobState
  progress : Option Progress
  error : Option String
  at' : Instant
  deriving DecidableEq

namespace JobUpdate

def ofJob (j : Job) (now : Instant) : JobUpdate := ⟨j.taskId, j.state, j.progress, j.error, now⟩

def toJson (u : JobUpdate) : Json := .object [
  ("task_id", u.taskId.toJson),
  ("state", .str u.state.name),
  ("progress", .ofOption Progress.toJson u.progress),
  ("error", .ofOption .str u.error),
  ("at", u.at'.toJson)]

end JobUpdate

/-- The latest update of a job, how many came before it, and whether more may come. -/
structure Feed where
  latest : JobUpdate
  revision : Nat
  live : Bool
  deriving DecidableEq

structure JobCounts where
  queued : Nat := 0
  running : Nat := 0
  succeeded : Nat := 0
  failed : Nat := 0
  cancelled : Nat := 0
  deriving DecidableEq

namespace JobCounts

def add (c : JobCounts) : JobState → JobCounts
  | .queued => { c with queued := c.queued + 1 }
  | .running => { c with running := c.running + 1 }
  | .succeeded => { c with succeeded := c.succeeded + 1 }
  | .failed => { c with failed := c.failed + 1 }
  | .cancelled => { c with cancelled := c.cancelled + 1 }

def toJson (c : JobCounts) : Json := .object [
  ("queued", .ofNat c.queued),
  ("running", .ofNat c.running),
  ("succeeded", .ofNat c.succeeded),
  ("failed", .ofNat c.failed),
  ("cancelled", .ofNat c.cancelled)]

end JobCounts

/-- The executions in order of submission, with a feed for every job ever queued. -/
structure Tracker where
  historyLimit : Nat
  jobs : OrderedMap Uuid Job
  feeds : OrderedMap Uuid Feed

namespace Tracker

def empty (historyLimit : Nat) : Tracker := ⟨historyLimit, .empty, .empty⟩

instance : Inhabited Tracker := ⟨empty 500⟩

def notFound (id : Uuid) : ServiceError := .notFound ("task " ++ id.text)

def alreadyTerminal (id : Uuid) (s : JobState) : ServiceError :=
  .alreadyTerminal ("task " ++ id.text ++ " is " ++ s.name)

def observe (t : Tracker) (id : Uuid) : Outcome Job :=
  match t.jobs.find? id with
  | some j => .ok j
  | none => .error (notFound id)

def terminalCount (t : Tracker) : Nat := (t.jobs.values.filter (·.state.isTerminal)).length

def oldestTerminal (t : Tracker) (excess : Nat) : List Uuid :=
  ((t.jobs.entries.filter fun e => e.2.state.isTerminal).take excess).map Prod.fst

/-- Drops the oldest terminal jobs beyond `keep`, and tells how many were dropped. -/
def prune (t : Tracker) (keep : Nat) : Nat × Tracker :=
  let excess := t.terminalCount - keep
  let gone := t.oldestTerminal excess
  (excess, { t with
    jobs := t.jobs.filter fun id _ => !gone.contains id
    feeds := t.feeds.mapEntries fun id feed =>
      if gone.contains id then { feed with live := false } else feed })

def publish (t : Tracker) (j : Job) (now : Instant) : Tracker :=
  { t with
    jobs := t.jobs.insert j.taskId j
    feeds := t.feeds.modify j.taskId fun feed =>
      { feed with latest := JobUpdate.ofJob j now, revision := feed.revision + 1 } }

def enqueue (t : Tracker) (task : Task) (now : Instant) : Job × Tracker :=
  let j := task.toJob now
  (j, { t with
    jobs := t.jobs.insert j.taskId j
    feeds := t.feeds.insert j.taskId ⟨JobUpdate.ofJob j now, 0, true⟩ })

def start (t : Tracker) (id : Uuid) (worker : String) (now : Instant) : Outcome (Job × Tracker) := do
  let j ← t.observe id
  match j.state with
  | .queued =>
    let j := { j with
      state := .running
      startedAt := some now
      worker := some worker
      progress := some {} }
    return (j, t.publish j now)
  | .running => .error (.invalidTransition j.state.name JobState.running.name)
  | s => .error (alreadyTerminal id s)

def terminated (j : Job) (state : JobState) (error : Option String) (result : Option Json)
    (now : Instant) : Job :=
  { j with
    state := state
    finishedAt := some now
    durationMillis := j.startedAt.map (·.millisUntil now)
    error := error
    result := result
    progress := none }

/-- Ends a job and drops history beyond the limit. -/
def terminate (t : Tracker) (j : Job) (state : JobState) (error : Option String)
    (result : Option Json) (now : Instant) : Job × Tracker :=
  let j := terminated j state error result now
  let t := t.publish j now
  (j, (t.prune t.historyLimit).2)

/-- Moves a job to a terminal state, which must be its first. -/
def finish (t : Tracker) (id : Uuid) (state : JobState) (error : Option String)
    (result : Option Json) (now : Instant) : Outcome (Job × Tracker) := do
  if !state.isTerminal then .error (.invalidTransition "active" state.name)
  else
    let j ← t.observe id
    if j.state.isTerminal then .error (alreadyTerminal id j.state)
    else return t.terminate j state error result now

/-- Cancels a job that is still queued.  A running job is left to whoever runs it. -/
def cancelQueued (t : Tracker) (id : Uuid) (now : Instant) : Outcome (Option Job × Tracker) := do
  let j ← t.observe id
  match j.state with
  | .queued =>
    let (j, t) := t.terminate j .cancelled (some "cancelled before start") none now
    return (some j, t)
  | .running => return (none, t)
  | s => .error (alreadyTerminal id s)

/-- Applies a progress report to a running job; any other job ignores it. -/
def report (t : Tracker) (id : Uuid) (r : ProgressReport) (now : Instant) : Tracker :=
  match t.jobs.find? id with
  | some j =>
    match j.state, j.progress with
    | .running, some p => t.publish { j with progress := some (p.apply now r) } now
    | _, _ => t
  | none => t

def defaultLimit : Nat := 50

def recent (t : Tracker) (f : JobFilter) : List Job :=
  (t.jobs.values.reverse.filter f.accepts).take (f.limit.getD defaultLimit)

def isActive (t : Tracker) (name : String) : Bool :=
  t.jobs.values.any fun j => j.jobName == name && !j.state.isTerminal

def counts (t : Tracker) : JobCounts :=
  t.jobs.values.foldl (fun c j => c.add j.state) {}

end Tracker

/-- A reader of one feed: the revision it has seen, if any, and whether it has ended. -/
structure UpdateStream where
  taskId : Uuid
  seen : Option Nat := none
  ended : Bool := false
  deriving DecidableEq

inductive StreamItem where
  | update (u : JobUpdate)
  | pending
  | finished
  deriving DecidableEq

namespace UpdateStream

def subscribe (t : Tracker) (id : Uuid) : Outcome UpdateStream :=
  match t.jobs.find? id with
  | some _ => .ok { taskId := id }
  | none => .error (Tracker.notFound id)

/-- Takes what is ready: the latest update if it was not seen, else nothing yet, or the end. -/
def next (s : UpdateStream) (t : Tracker) : StreamItem × UpdateStream :=
  if s.ended then (.finished, s)
  else match t.feeds.find? s.taskId with
    | none => (.finished, { s with ended := true })
    | some feed =>
      if s.seen = some feed.revision then
        if feed.live then (.pending, s) else (.finished, { s with ended := true })
      else
        (.update feed.latest,
          { s with seen := some feed.revision, ended := feed.latest.state.isTerminal })

end UpdateStream

end DeviceWatch
