import DeviceWatch.Alert.Basic
import DeviceWatch.Job.Basic

/-!
Drivers: what does the work of a task, and how one invocation of a driver unfolds.
-/

namespace DeviceWatch

inductive DriverError where
  | transport (reason : String)
  | protocol (reason : String)
  | cancelled
  | unsupported (reason : String)
  deriving DecidableEq

namespace DriverError

def message : DriverError → String
  | transport reason => "transport failure: " ++ reason
  | protocol reason => "protocol failure: " ++ reason
  | cancelled => "cancelled"
  | unsupported reason => "unsupported: " ++ reason

def toServiceError (e : DriverError) : ServiceError := .driver e.message

def notSupported (driver : String) (t : Task) : DriverError :=
  match t.payload with
  | .poll c =>
    .unsupported ("driver '" ++ driver ++ "' cannot poll connector type '" ++ c.settings.kind ++ "'")
  | .job spec => .unsupported ("driver '" ++ driver ++ "' cannot run job '" ++ spec.name ++ "'")

end DriverError

/-- What an invocation yields: a poll its findings, any other job a value. -/
inductive DriverOutput where
  | findings (fs : List Finding)
  | value (j : Json)

abbrev DriverResult := Except DriverError DriverOutput

/-- How an invocation unfolds: reports at once, a wait, reports after it, and an answer that depends
on the driver's name, the task and the time.  A cancellation ends the wait unless the invocation is
deaf to it; an invocation may also look for a cancellation when its wait is over. -/
structure Behaviour where
  before : List ProgressReport
  delay : Span
  deaf : Bool
  checkpoint : Bool
  after : List ProgressReport
  answer : String → Task → Instant → DriverResult

inductive Driver where
  | external (name : String)
  /-- The housekeeping of the service itself. -/
  | maintenance
  deriving DecidableEq

def Driver.name : Driver → String
  | external name => name
  | maintenance => "maintenance"

structure DriverTable where
  drivers : SortedTable Driver := .empty
  fallback : Option Driver := none

namespace DriverTable

def register (t : DriverTable) (kind : String) (d : Driver) : DriverTable :=
  { t with drivers := t.drivers.insert kind d }

def resolve? (t : DriverTable) (kind : String) : Option Driver :=
  (t.drivers.find? kind).orElse fun _ => t.fallback

def kinds (t : DriverTable) : List String := t.drivers.entries.map Prod.fst

end DriverTable

end DeviceWatch
