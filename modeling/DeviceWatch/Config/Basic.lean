import DeviceWatch.Error
import DeviceWatch.Text.Case

/-!
The settings of the service, their defaults and their allowed ranges.
-/

namespace DeviceWatch

/-- What a finding does to an alert that was already resolved: open a fresh incident, or take the
old one up again. -/
inductive ReopenPolicy where
  | newIncident
  | resume
  deriving DecidableEq, Inhabited

namespace ReopenPolicy

def name : ReopenPolicy → String
  | newIncident => "new_incident"
  | resume => "resume"

def label : ReopenPolicy → String
  | newIncident => "NewIncident"
  | resume => "Resume"

def ofName? : String → Option ReopenPolicy
  | "new_incident" => some newIncident
  | "resume" => some resume
  | _ => none

/-- Reads a policy written by an operator: blanks around it, case and a hyphen do not matter. -/
def parse (s : String) : Outcome ReopenPolicy :=
  let s := Text.asciiLower (Text.trim s)
  if s = "new_incident" ∨ s = "new-incident" then .ok newIncident
  else if s = "resume" then .ok resume
  else .error (.validation ("unknown alert reopen policy '" ++ s ++ "'"))

end ReopenPolicy

structure ServerConfig where
  host : String := "0.0.0.0"
  port : Nat := 3080
  corsOrigin : String := "*"
  deriving DecidableEq, Inhabited

structure DispatchConfig where
  tickSecs : Nat := 60
  defaultPollIntervalSecs : Nat := 300
  minPollIntervalSecs : Nat := 60
  deriving DecidableEq, Inhabited

structure WorkerConfig where
  workerCount : Nat := 2
  workerConcurrency : Nat := 4
  rateLimit : Nat := 10
  queueBound : Nat := 100
  cancelGraceSecs : Nat := 10
  defaultTaskTimeoutSecs : Nat := 300
  deriving DecidableEq, Inhabited

structure AlertConfig where
  reopenPolicy : ReopenPolicy := .newIncident
  maxCommitRetries : Nat := 5
  deriving DecidableEq, Inhabited

structure Config where
  profile : String := ""
  server : ServerConfig := {}
  dispatch : DispatchConfig := {}
  workers : WorkerConfig := {}
  executionHistoryLimit : Nat := 500
  alerts : AlertConfig := {}
  connectorsFile : Option String := none
  deriving DecidableEq, Inhabited

def maxPollIntervalSecs : Nat := 86400 * 365

def WorkerConfig.capacity (c : WorkerConfig) : Nat := c.workerCount * c.workerConcurrency

def WorkerConfig.capacity? (c : WorkerConfig) : Option Nat :=
  some c.capacity |>.filter (· ≤ Json.word64Max)

namespace Config

def checkRange (name : String) (value low high : Nat) : Outcome Unit :=
  if low ≤ value ∧ value ≤ high then .ok ()
  else .error (.validation (name ++ " must be between " ++ toString low ++ " and " ++
    toString high ++ " (got " ++ toString value ++ ")"))

def validateDispatch (c : DispatchConfig) : Outcome Unit := do
  checkRange "DISPATCH_TICK_SECS" c.tickSecs 1 3600
  checkRange "MIN_POLL_INTERVAL_SECS" c.minPollIntervalSecs 1 86400
  checkRange "DEFAULT_POLL_INTERVAL_SECS" c.defaultPollIntervalSecs 1 maxPollIntervalSecs
  if c.defaultPollIntervalSecs < c.minPollIntervalSecs then
    .error (.validation ("DEFAULT_POLL_INTERVAL_SECS (" ++ toString c.defaultPollIntervalSecs ++
      ") is below MIN_POLL_INTERVAL_SECS (" ++ toString c.minPollIntervalSecs ++ ")"))
  else .ok ()

def validateWorkers (c : WorkerConfig) : Outcome Unit := do
  checkRange "WORKER_COUNT" c.workerCount 1 64
  checkRange "WORKER_CONCURRENCY" c.workerConcurrency 1 256
  checkRange "RATE_LIMIT" c.rateLimit 0 10000
  checkRange "QUEUE_BOUND" c.queueBound 1 100000
  checkRange "CANCEL_GRACE_SECS" c.cancelGraceSecs 0 3600
  checkRange "DEFAULT_TASK_TIMEOUT_SECS" c.defaultTaskTimeoutSecs 1 86400

/-- Checks every number against its range; the first one out of range is reported. -/
def validate (c : Config) : Outcome Unit := do
  validateDispatch c.dispatch
  validateWorkers c.workers
  checkRange "EXECUTION_HISTORY_LIMIT" c.executionHistoryLimit 1 1000000
  checkRange "ALERT_MAX_COMMIT_RETRIES" c.alerts.maxCommitRetries 1 100

def profileLabel (c : Config) : String := if c.profile = "" then "default" else c.profile

def logMessages (c : Config) : List String :=
  let n (k : Nat) : String := toString k
  ["Config loaded (profile: " ++ c.profileLabel ++ "):",
   "  server:      " ++ c.server.host ++ ":" ++ n c.server.port,
   "  dispatch:    tick=" ++ n c.dispatch.tickSecs ++ "s, default_interval=" ++
     n c.dispatch.defaultPollIntervalSecs ++ "s, floor=" ++ n c.dispatch.minPollIntervalSecs ++ "s",
   "  workers:     " ++ n c.workers.workerCount ++ " x " ++ n c.workers.workerConcurrency ++
     " (rate_limit=" ++ n c.workers.rateLimit ++ "/s, queue_bound=" ++ n c.workers.queueBound ++ ")",
   "  retention:   executions=" ++ n c.executionHistoryLimit,
   "  alerts:      reopen_policy=" ++ c.alerts.reopenPolicy.label,
   "  connectors:  file=" ++ c.connectorsFile.getD "(none)"]

/-- A control character that could steer a terminal is written by its number. -/
def logChar (c : Char) : List Char :=
  if [0x07, 0x08, 0x0C, 0x1B, 0x7F].contains c.toNat then '\\' :: 'x' :: Text.hexDigits 2 c.toNat
  else if 0x80 ≤ c.toNat ∧ c.toNat ≤ 0x9F then
    ['\\', 'u', '\x7b'] ++ Text.hexDigits 2 c.toNat ++ ['\x7d']
  else [c]

/-- The lines of the startup log, without blanks at their ends.  A message with line ends in it takes
several lines. -/
def logLines (c : Config) : List String :=
  c.logMessages.flatMap fun message =>
    (Text.splitChars '\n' (message.toList.flatMap logChar)).map fun line =>
      String.ofList (Text.trimEnd line)

def dispatchJson (c : DispatchConfig) : Json := .object [
  ("tick_secs", .ofNat c.tickSecs),
  ("default_poll_interval_secs", .ofNat c.defaultPollIntervalSecs),
  ("min_poll_interval_secs", .ofNat c.minPollIntervalSecs)]

def workersJson (c : WorkerConfig) : Json := .object [
  ("worker_count", .ofNat c.workerCount),
  ("worker_concurrency", .ofNat c.workerConcurrency),
  ("rate_limit", .ofNat c.rateLimit),
  ("queue_bound", .ofNat c.queueBound),
  ("cancel_grace_secs", .ofNat c.cancelGraceSecs),
  ("default_task_timeout_secs", .ofNat c.defaultTaskTimeoutSecs)]

def alertsJson (c : AlertConfig) : Json := .object [
  ("reopen_policy", .str c.reopenPolicy.name),
  ("max_commit_retries", .ofNat c.maxCommitRetries)]

def serverFields (c : ServerConfig) : List (String × Json) :=
  [("host", .str c.host), ("port", .ofNat c.port)]

def sections (c : Config) (profile : String) (server : Json) : Json := .object [
  ("profile", .str profile),
  ("server", server),
  ("dispatch", dispatchJson c.dispatch),
  ("workers", workersJson c.workers),
  ("retention", .object [("execution_history_limit", .ofNat c.executionHistoryLimit)]),
  ("alerts", alertsJson c.alerts),
  ("connectors", .object [("file", .ofOption .str c.connectorsFile)])]

def toJson (c : Config) : Json :=
  c.sections c.profile (.object (("cors_origin", .str c.server.corsOrigin) :: serverFields c.server))

def summary (c : Config) : Json := c.sections c.profileLabel (.object (serverFields c.server))

open Json.RecordReader in
def dispatchReader : Json.RecordReader DispatchConfig :=
  DispatchConfig.mk <$> required "tick_secs" (Json.readNat Json.word64Max)
    <*> required "default_poll_interval_secs" (Json.readNat Json.word64Max)
    <*> required "min_poll_interval_secs" (Json.readNat Json.word64Max)

open Json.RecordReader in
def workersReader : Json.RecordReader WorkerConfig :=
  WorkerConfig.mk <$> required "worker_count" (Json.readNat Json.word64Max)
    <*> required "worker_concurrency" (Json.readNat Json.word64Max)
    <*> required "rate_limit" (Json.readNat Json.word32Max)
    <*> required "queue_bound" (Json.readNat Json.word64Max)
    <*> required "cancel_grace_secs" (Json.readNat Json.word64Max)
    <*> required "default_task_timeout_secs" (Json.readNat Json.word64Max)

open Json.RecordReader in
def alertsReader : Json.RecordReader AlertConfig :=
  AlertConfig.mk <$> required "reopen_policy" (Json.readName ReopenPolicy.ofName?)
    <*> required "max_commit_retries" (Json.readNat Json.word32Max)

open Json.RecordReader in
def serverReader : Json.RecordReader ServerConfig :=
  ServerConfig.mk <$> required "host" Json.readString
    <*> required "port" (Json.readNat Json.word16Max)
    <*> required "cors_origin" Json.readString

open Json.RecordReader in
def reader : Json.RecordReader Config :=
  Config.mk <$> required "profile" Json.readString
    <*> required "server" serverReader.read
    <*> required "dispatch" dispatchReader.read
    <*> required "workers" workersReader.read
    <*> required "retention"
      (required "execution_history_limit" (Json.readNat Json.word64Max)).read
    <*> required "alerts" alertsReader.read
    <*> required "connectors" (optional "file" Json.readString).read

/-- Replaces fields of one object by those of another; anything else is replaced as a whole. -/
def patchFields (base patch : Json) : Json :=
  match base, patch with
  | .obj fields, .obj changes =>
    .obj (changes.foldl (fun done (k, v) => SortedTable.insertEntry k v done) fields)
  | _, patch => patch

def patchSections (base patch : Json) : Json :=
  match base, patch with
  | .obj fields, .obj changes =>
    .obj (changes.foldl (fun done (k, v) =>
      SortedTable.insertEntry k (match done.lookup k with
        | some old => patchFields old v
        | none => v) done) fields)
  | base, _ => base

end Config

end DeviceWatch
