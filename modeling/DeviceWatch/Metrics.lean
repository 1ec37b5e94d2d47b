import DeviceWatch.Job.Basic
import DeviceWatch.SortedTable

/-!
Running totals over finished executions, refused submissions and dispatch ticks.

The average duration of a job is a running mean, computed in doubles and cut to whole nanoseconds.
-/

namespace DeviceWatch

structure Metrics where
  executed : SortedTable Nat := .empty
  failed : SortedTable Nat := .empty
  cancelled : SortedTable Nat := .empty
  averageDuration : SortedTable Span := .empty
  lastRun : SortedTable Instant := .empty
  backpressureRejections : Nat := 0
  ticks : Nat := 0
  tickFailures : Nat := 0
  deriving Inhabited

namespace Metrics

def bump (t : SortedTable Nat) (name : String) : SortedTable Nat :=
  t.insert name ((t.find? name).getD 0 + 1)

/-- The mean of `count` durations, from the mean of all but the last and the last. -/
def nextMean (mean last : Span) (count : Nat) : Span :=
  if count = 1 then last
  else
    let old := Float.ofNat mean.nanos
    ⟨(old + (Float.ofNat last.nanos - old) / Float.ofNat count).toUInt64.toNat⟩

def recordExecution (m : Metrics) (name : String) (state : JobState) (duration : Span)
    (now : Instant) : Metrics :=
  let executed := bump m.executed name
  let mean := (m.averageDuration.find? name).getD ⟨0⟩
  { m with
    executed := executed
    failed := if state = .failed then bump m.failed name else m.failed
    cancelled := if state = .cancelled then bump m.cancelled name else m.cancelled
    averageDuration := m.averageDuration.insert name
      (nextMean mean duration ((executed.find? name).getD 0))
    lastRun := m.lastRun.insert name now }

def recordBackpressure (m : Metrics) : Metrics :=
  { m with backpressureRejections := m.backpressureRejections + 1 }

def recordTick (m : Metrics) (ok : Bool) : Metrics :=
  { m with
    ticks := m.ticks + 1
    tickFailures := if ok then m.tickFailures else m.tickFailures + 1 }

def tableJson {α : Type} (write : α → Json) (t : SortedTable α) : Json :=
  .obj (t.entries.map fun (k, v) => (k, write v))

def toJson (m : Metrics) (utilization : Float) : Json := .object [
  ("tasks_executed", tableJson .ofNat m.executed),
  ("tasks_failed", tableJson .ofNat m.failed),
  ("tasks_cancelled", tableJson .ofNat m.cancelled),
  ("avg_task_duration", tableJson (fun d => .ofNat (d.millis % (Json.word64Max + 1))) m.averageDuration),
  ("last_run", tableJson Instant.toJson m.lastRun),
  ("backpressure_rejections", .ofNat m.backpressureRejections),
  ("ticks", .ofNat m.ticks),
  ("tick_failures", .ofNat m.tickFailures),
  ("worker_utilization", .float utilization)]

end Metrics

end DeviceWatch
