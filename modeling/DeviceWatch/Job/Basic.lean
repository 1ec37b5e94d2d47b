import DeviceWatch.Connector.Basic
import DeviceWatch.Job.Progress
import DeviceWatch.Uuid

/-!
Tasks that the worker pool runs, and the records of their executions.
-/

namespace DeviceWatch

inductive JobKind where
  | poll
  | scheduled
  | manual
  deriving DecidableEq, Inhabited

namespace JobKind

def name : JobKind → String
  | poll => "poll"
  | scheduled => "scheduled"
  | manual => "manual"

def all : List JobKind := [poll, scheduled, manual]

def ofName? (s : String) : Option JobKind := all.find? (·.name == s)

end JobKind

inductive JobState where
  | queued
  | running
  | succeeded
  | failed
  | cancelled
  deriving DecidableEq, Inhabited

namespace JobState

def name : JobState → String
  | queued => "queued"
  | running => "running"
  | succeeded => "succeeded"
  | failed => "failed"
  | cancelled => "cancelled"

def all : List JobState := [queued, running, succeeded, failed, cancelled]

def ofName? (s : String) : Option JobState := all.find? (·.name == s)

def isTerminal : JobState → Bool
  | succeeded | failed | cancelled => true
  | _ => false

end JobState

/-- A named job other than a poll: the driver that runs it, and with what settings. -/
structure JobSpec where
  name : String
  driver : String
  config : Json
  timeoutSecs : Option Nat
  deriving DecidableEq

open Json.RecordReader in
def JobSpec.reader : Json.RecordReader JobSpec :=
  JobSpec.mk <$> required "name" Json.readString
    <*> required "driver" Json.readString
    <*> defaulted "config" (fun j => .ok j) .null
    <*> optional "timeout_secs" (Json.readNat Json.word64Max)

def JobSpec.toJson (s : JobSpec) : Json := .object [
  ("name", .str s.name),
  ("driver", .str s.driver),
  ("config", s.config),
  ("timeout_secs", .ofOption .ofNat s.timeoutSecs)]

inductive Payload where
  | poll (connector : Connector)
  | job (spec : JobSpec)
  deriving DecidableEq

structure Task where
  id : Uuid
  kind : JobKind
  payload : Payload
  deriving DecidableEq

structure Job where
  taskId : Uuid
  jobName : String
  kind : JobKind
  connectorId : Option String
  state : JobState
  createdAt : Instant
  startedAt : Option Instant
  finishedAt : Option Instant
  worker : Option String
  config : Json
  error : Option String
  progress : Option Progress
  durationMillis : Option Nat
  result : Option Json
  deriving DecidableEq

namespace Task

def jobName (t : Task) : String :=
  match t.payload with
  | .poll c => "poll:" ++ c.id
  | .job spec => spec.name

def connectorId (t : Task) : Option String :=
  match t.payload with
  | .poll c => some c.id
  | .job _ => none

def driverKind (t : Task) : String :=
  match t.payload with
  | .poll c => c.settings.kind
  | .job spec => spec.driver

/-- The timeout of the task itself; none leaves it to the pool. -/
def timeoutSecs (t : Task) : Option Nat :=
  match t.payload with
  | .poll c => c.settings.timeoutSecs
  | .job spec => spec.timeoutSecs

def config (t : Task) : Json :=
  match t.payload with
  | .poll c => c.settings.toJson
  | .job spec => spec.config

def toJob (t : Task) (now : Instant) : Job where
  taskId := t.id
  jobName := t.jobName
  kind := t.kind
  connectorId := t.connectorId
  state := .queued
  createdAt := now
  startedAt := none
  finishedAt := none
  worker := none
  config := t.config
  error := none
  progress := none
  durationMillis := none
  result := none

end Task

def Job.toJson (j : Job) : Json := .object [
  ("task_id", j.taskId.toJson),
  ("job_name", .str j.jobName),
  ("kind", .str j.kind.name),
  ("connector_id", .ofOption .str j.connectorId),
  ("state", .str j.state.name),
  ("created_at", j.createdAt.toJson),
  ("started_at", .ofOption Instant.toJson j.startedAt),
  ("finished_at", .ofOption Instant.toJson j.finishedAt),
  ("worker", .ofOption .str j.worker),
  ("config", j.config),
  ("error", .ofOption .str j.error),
  ("progress", .ofOption Progress.toJson j.progress),
  ("duration_ms", .ofOption .ofNat j.durationMillis),
  ("result", j.result.getD .null)]

structure JobFilter where
  state : Option JobState := none
  kind : Option JobKind := none
  connectorId : Option String := none
  limit : Option Nat := none

namespace JobFilter

def accepts (f : JobFilter) (j : Job) : Bool :=
  (match f.state with | some s => j.state == s | none => true) &&
  (match f.kind with | some k => j.kind == k | none => true) &&
  (match f.connectorId with | some id => j.connectorId == some id | none => true)

open Json.RecordReader in
def reader : Json.RecordReader JobFilter :=
  JobFilter.mk <$> optional "state" (Json.readName JobState.ofName?)
    <*> optional "kind" (Json.readName JobKind.ofName?)
    <*> optional "connector_id" Json.readString
    <*> optional "limit" (Json.readNat Json.word64Max)

end JobFilter

end DeviceWatch
