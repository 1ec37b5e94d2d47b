import DeviceWatch.Alert.Fingerprint
import DeviceWatch.Alert.Store
import DeviceWatch.Config.Basic

/-!
Collapsing findings into alerts.

A finding is planned against the latest alert of its fingerprint and committed with the version
that was read.  When another writer came first, the finding is read and planned again, up to a
number of retries; a finding that still loses is given up and counted as ignored.
-/

namespace DeviceWatch

inductive Applied where
  | created
  | updated
  | resolved
  | ignored
  deriving DecidableEq

def Applied.counts : Applied → IngestCounts
  | created => { created := 1 }
  | updated => { updated := 1 }
  | resolved => { resolved := 1 }
  | ignored => { ignored := 1 }

namespace Correlation

/-- Folds a repeated occurrence into an alert; the latest severity wins. -/
def refresh (a : Alert) (connector : String) (f : Finding) (now : Instant) : Alert :=
  { a with
    occurrenceCount := a.occurrenceCount + 1
    updatedAt := now
    severity := f.severity
    message := f.message
    rawData := f.raw
    connectorId := some connector
    category := f.category.orElse fun _ => a.category
    deviceName := f.deviceName.orElse fun _ => a.deviceName
    deviceIp := f.deviceIp.orElse fun _ => a.deviceIp }

def cleared (a : Alert) (f : Finding) (now : Instant) : Alert :=
  { a with
    status := .resolved
    resolvedAt := some now
    suppressedUntil := none
    updatedAt := now
    message := if f.message = "" then a.message else f.message }

/-- The alert as a new occurrence finds it: a suppression is lifted, a resolved alert reopened. -/
def reopened (a : Alert) : Alert :=
  match a.status with
  | .resolved => { a with status := .active, resolvedAt := none, acknowledgedAt := none }
  | .suppressed => { a with status := .active, suppressedUntil := none }
  | _ => a

/-- The next version of the alert for a finding, given the latest alert of its fingerprint; nothing
when the finding changes nothing.  `id` is used if a new alert is made. -/
def plan (policy : ReopenPolicy) (connector fingerprint : String) (latest : Option Alert)
    (f : Finding) (now : Instant) (id : Uuid) : Option (Alert × Applied) :=
  let fresh := Alert.ofFinding id fingerprint (some connector) f now
  if f.severity = .clear then
    match latest with
    | some a => if a.status.isOpen then some (cleared a f now, .resolved) else none
    | none => none
  else match latest with
    | none => some (fresh, .created)
    | some a =>
      if a.status = .resolved ∧ policy = .newIncident then some (fresh, .created)
      else some (refresh (reopened a) connector f now, .updated)

structure State where
  store : AlertStore
  ids : IdSupply
  deriving Inhabited

/-- One reading, planning and committing of a finding. -/
def attempt (policy : ReopenPolicy) (connector : String) (f : Finding) (now : Instant)
    (s : State) : Outcome Applied × State :=
  let (id, ids) := s.ids.draw
  let s := { s with ids := ids }
  match plan policy connector f.fingerprint (s.store.latestFor f.fingerprint) f now id with
  | none => (.ok .ignored, s)
  | some (next, applied) =>
    match s.store.commit next with
    | .ok (_, store) => (.ok applied, { s with store := store })
    | .error e => (.error e, s)

def contendedError (fingerprint : String) (retries : Nat) (reason : String) : ServiceError :=
  .conflict ("fingerprint " ++ fingerprint ++ " still contended after " ++ toString retries ++
    " retries: " ++ reason)

/-- Ingests one finding with at most `left` more retries. -/
def ingestOne (c : AlertConfig) (connector : String) (f : Finding) (now : Instant) :
    Nat → State → Outcome Applied × State
  | left, s =>
    match attempt c.reopenPolicy connector f now s with
    | (.error (.conflict reason), s) =>
      match left with
      | 0 => (.error (contendedError f.fingerprint c.maxCommitRetries reason), s)
      | left + 1 => ingestOne c connector f now left s
    | result => result

/-- Ingests a batch of findings of one connector, in order.  One reading of the clock serves all
attempts at all of its findings; a batch during which time moves on is written as several
requests. -/
def ingest (c : AlertConfig) (connector : String) (now : Instant) :
    List Finding → State → Outcome IngestCounts × State
  | [], s => (.ok {}, s)
  | f :: rest, s =>
    match ingestOne c connector f now c.maxCommitRetries s with
    | (.ok applied, s) =>
      let (counts, s) := ingest c connector now rest s
      (counts.map applied.counts.merge, s)
    | (.error (.conflict _), s) =>
      let (counts, s) := ingest c connector now rest s
      (counts.map Applied.ignored.counts.merge, s)
    | (.error e, s) => (.error e, s)

end Correlation

end DeviceWatch
