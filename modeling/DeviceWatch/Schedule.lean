import DeviceWatch.Cron.Expression
import DeviceWatch.Job.Basic
import DeviceWatch.OrderedMap

/-!
The table of scheduled jobs.

A job is due when an instant of its recurrence lies after its last trigger and not after now; a
job that was never triggered looks back one day.
-/

namespace DeviceWatch

structure ScheduleEntry where
  spec : JobSpec
  cron : String
  recurrence : Recurrence
  enabled : Bool
  lastTriggered : Option Instant

/-- The jobs in order of registration. -/
structure Schedule where
  entries : OrderedMap String ScheduleEntry

instance : Inhabited Schedule := ⟨⟨.empty⟩⟩

structure ScheduledJob where
  name : String
  cron : String
  enabled : Bool
  driver : String
  lastTriggered : Option Instant
  nextRun : Option Instant

namespace ScheduleEntry

def view (e : ScheduleEntry) (now : Instant) : ScheduledJob where
  name := e.spec.name
  cron := e.cron
  enabled := e.enabled
  driver := e.spec.driver
  lastTriggered := e.lastTriggered
  nextRun := e.recurrence.next? now

def oneDay : Span := .ofSecs 86400

/-- The instant after which an occurrence has not been served yet. -/
def servedUntil (e : ScheduleEntry) (now : Instant) : Instant :=
  e.lastTriggered.getD (now.sub oneDay)

def isDue (e : ScheduleEntry) (now : Instant) : Bool :=
  e.enabled && match e.recurrence.next? (e.servedUntil now) with
    | some next => decide (next ≤ now)
    | none => false

end ScheduleEntry

def ScheduledJob.toJson (j : ScheduledJob) : Json := .object [
  ("name", .str j.name),
  ("cron", .str j.cron),
  ("enabled", .bool j.enabled),
  ("driver", .str j.driver),
  ("last_triggered", .ofOption Instant.toJson j.lastTriggered),
  ("next_run", .ofOption Instant.toJson j.nextRun)]

namespace Schedule

def notFound (name : String) : ServiceError := .notFound ("job '" ++ name ++ "'")

def invalidCron (cron : String) : ServiceError :=
  .validation ("invalid cron expression '" ++ cron ++
    "': Invalid expression: Invalid cron expression.")

def find (s : Schedule) (name : String) : Outcome ScheduleEntry :=
  match s.entries.find? name with
  | some e => .ok e
  | none => .error (notFound name)

def register (s : Schedule) (spec : JobSpec) (cron : String) (enabled : Bool) (now : Instant) :
    Outcome (ScheduledJob × Schedule) :=
  let text := Cron.normalize cron
  match Cron.parse? text with
  | none => .error (invalidCron cron)
  | some recurrence =>
    let entry : ScheduleEntry := {
      spec := spec
      cron := text
      recurrence := recurrence
      enabled := enabled
      lastTriggered := (s.entries.find? spec.name).bind (·.lastTriggered) }
    .ok (entry.view now, ⟨s.entries.insert spec.name entry⟩)

def list (s : Schedule) (now : Instant) : List ScheduledJob :=
  s.entries.values.map (·.view now)

def get (s : Schedule) (name : String) (now : Instant) : Outcome ScheduledJob :=
  (s.find name).map (·.view now)

def spec (s : Schedule) (name : String) : Outcome JobSpec := (s.find name).map (·.spec)

def toggle (s : Schedule) (name : String) (now : Instant) : Outcome (ScheduledJob × Schedule) := do
  let e ← s.find name
  let e := { e with enabled := !e.enabled }
  return (e.view now, ⟨s.entries.insert name e⟩)

def enabledCount (s : Schedule) : Nat := (s.entries.values.filter (·.enabled)).length

def due (s : Schedule) (now : Instant) : List JobSpec :=
  (s.entries.values.filter (·.isDue now)).map (·.spec)

def recordTrigger (s : Schedule) (name : String) (now : Instant) : Schedule :=
  ⟨s.entries.modify name fun e => { e with lastTriggered := some now }⟩

end Schedule

end DeviceWatch
