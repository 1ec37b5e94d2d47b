import DeviceWatch.SortedTable
import DeviceWatch.Text.Case
import DeviceWatch.Error
import DeviceWatch.Uuid

/-!
Findings, the alerts that collect them, and the counts of a batch of findings.
-/

namespace DeviceWatch

/-- How bad a condition is, worst first; `clear` reports that it has ended. -/
inductive Severity where
  | critical
  | major
  | minor
  | warning
  | info
  | clear
  deriving DecidableEq, Inhabited

namespace Severity

def all : List Severity := [critical, major, minor, warning, info, clear]

def name : Severity → String
  | critical => "critical"
  | major => "major"
  | minor => "minor"
  | warning => "warning"
  | info => "info"
  | clear => "clear"

/-- How many severities are worse. -/
def rank (s : Severity) : Nat := all.idxOf s

def ofName? (s : String) : Option Severity := all.find? (·.name == s)

/-- Reads a severity written by a person: blanks around it and case do not matter. -/
def parse (s : String) : Outcome Severity :=
  match all.find? fun v => Text.eqIgnoreAsciiCase v.name (Text.trim s) with
  | some v => .ok v
  | none => .error (.validation ("unknown severity '" ++ s ++ "'"))

def toJson (s : Severity) : Json := .str s.name

end Severity

inductive AlertStatus where
  | active
  | acknowledged
  | suppressed
  | resolved
  deriving DecidableEq, Inhabited

namespace AlertStatus

def all : List AlertStatus := [active, acknowledged, suppressed, resolved]

def openOnes : List AlertStatus := [active, acknowledged, suppressed]

def name : AlertStatus → String
  | active => "active"
  | acknowledged => "acknowledged"
  | suppressed => "suppressed"
  | resolved => "resolved"

def isOpen : AlertStatus → Bool
  | resolved => false
  | _ => true

def ofName? (s : String) : Option AlertStatus := all.find? (·.name == s)

def parse (s : String) : Outcome AlertStatus :=
  match all.find? fun v => Text.eqIgnoreAsciiCase v.name (Text.trim s) with
  | some v => .ok v
  | none => .error (.validation ("unknown alert status '" ++ s ++ "'"))

def mayBecome : AlertStatus → AlertStatus → Bool
  | active, acknowledged | active, suppressed | active, resolved => true
  | acknowledged, active | acknowledged, suppressed | acknowledged, resolved => true
  | suppressed, active | suppressed, resolved => true
  | _, _ => false

def ensureTransition (source target : AlertStatus) : Outcome Unit :=
  if source.mayBecome target then .ok () else .error (.invalidTransition source.name target.name)

def toJson (s : AlertStatus) : Json := .str s.name

end AlertStatus

/-- One observation that a driver makes during a poll. -/
structure Finding where
  sourceSystem : String
  deviceIp : Option String
  deviceName : Option String
  alertType : String
  severity : Severity
  category : Option String
  message : String
  attributes : SortedTable String
  observedAt : Instant
  raw : Json
  deriving Inhabited

namespace Finding

open Json.RecordReader in
def reader : Json.RecordReader Finding :=
  Finding.mk <$> required "source_system" Json.readString
    <*> optional "device_ip" Json.readString
    <*> optional "device_name" Json.readString
    <*> required "alert_type" Json.readString
    <*> required "severity" (Json.readName Severity.ofName?)
    <*> defaulted "category" (Json.readOption Json.readString) none
    <*> defaulted "message" Json.readString ""
    <*> defaulted "attributes"
      (fun j => (Json.readTable Json.readString j).map SortedTable.ofList) .empty
    <*> required "observed_at" Instant.read
    <*> defaulted "raw" (fun j => .ok j) .null

def read (j : Json) : Read Finding := reader.read j

def toJson (f : Finding) : Json := .object [
  ("source_system", .str f.sourceSystem),
  ("device_ip", .ofOption .str f.deviceIp),
  ("device_name", .ofOption .str f.deviceName),
  ("alert_type", .str f.alertType),
  ("severity", f.severity.toJson),
  ("category", .ofOption .str f.category),
  ("message", .str f.message),
  ("attributes", .obj (f.attributes.entries.map fun (k, v) => (k, .str v))),
  ("observed_at", f.observedAt.toJson),
  ("raw", f.raw)]

end Finding

/-- The record of a condition.  `version` counts the writes to it; version 0 is not yet stored. -/
structure Alert where
  id : Uuid
  fingerprint : String
  severity : Severity
  category : Option String
  status : AlertStatus
  occurrenceCount : Nat
  occurredAt : Instant
  updatedAt : Instant
  resolvedAt : Option Instant
  acknowledgedAt : Option Instant
  suppressedUntil : Option Instant
  deviceIp : Option String
  deviceName : Option String
  message : String
  rawData : Json
  connectorId : Option String
  sourceSystem : String
  alertType : String
  version : Nat
  deriving DecidableEq, Inhabited

namespace Alert

def ofFinding (id : Uuid) (fingerprint : String) (connector : Option String) (f : Finding)
    (now : Instant) : Alert where
  id := id
  fingerprint := fingerprint
  severity := f.severity
  category := f.category
  status := .active
  occurrenceCount := 1
  occurredAt := now
  updatedAt := now
  resolvedAt := none
  acknowledgedAt := none
  suppressedUntil := none
  deviceIp := f.deviceIp
  deviceName := f.deviceName
  message := f.message
  rawData := f.raw
  connectorId := connector
  sourceSystem := f.sourceSystem
  alertType := f.alertType
  version := 0

/-- Whether the suppression is still in force; without an end it lasts until it is lifted. -/
def suppressionActive (a : Alert) (now : Instant) : Bool :=
  a.status = .suppressed && match a.suppressedUntil with
    | some until' => decide (now < until')
    | none => true

open Json.RecordReader in
def reader : Json.RecordReader Alert :=
  Alert.mk <$> required "id" Uuid.read
    <*> required "fingerprint" Json.readString
    <*> required "severity" (Json.readName Severity.ofName?)
    <*> optional "category" Json.readString
    <*> required "status" (Json.readName AlertStatus.ofName?)
    <*> required "occurrence_count" (Json.readNat Json.word64Max)
    <*> required "occurred_at" Instant.read
    <*> required "updated_at" Instant.read
    <*> optional "resolved_at" Instant.read
    <*> optional "acknowledged_at" Instant.read
    <*> optional "suppressed_until" Instant.read
    <*> optional "device_ip" Json.readString
    <*> optional "device_name" Json.readString
    <*> required "message" Json.readString
    <*> required "raw_data" (fun j => .ok j)
    <*> optional "connector_id" Json.readString
    <*> required "source_system" Json.readString
    <*> required "alert_type" Json.readString
    <*> required "version" (Json.readNat Json.word64Max)

def toJson (a : Alert) : Json := .object [
  ("id", a.id.toJson),
  ("fingerprint", .str a.fingerprint),
  ("severity", a.severity.toJson),
  ("category", .ofOption .str a.category),
  ("status", a.status.toJson),
  ("occurrence_count", .ofNat a.occurrenceCount),
  ("occurred_at", a.occurredAt.toJson),
  ("updated_at", a.updatedAt.toJson),
  ("resolved_at", .ofOption Instant.toJson a.resolvedAt),
  ("acknowledged_at", .ofOption Instant.toJson a.acknowledgedAt),
  ("suppressed_until", .ofOption Instant.toJson a.suppressedUntil),
  ("device_ip", .ofOption .str a.deviceIp),
  ("device_name", .ofOption .str a.deviceName),
  ("message", .str a.message),
  ("raw_data", a.rawData),
  ("connector_id", .ofOption .str a.connectorId),
  ("source_system", .str a.sourceSystem),
  ("alert_type", .str a.alertType),
  ("version", .ofNat a.version)]

end Alert

structure IngestCounts where
  created : Nat := 0
  updated : Nat := 0
  resolved : Nat := 0
  ignored : Nat := 0
  deriving DecidableEq, Inhabited

namespace IngestCounts

def total (c : IngestCounts) : Nat := c.created + c.updated + c.resolved + c.ignored

def merge (c d : IngestCounts) : IngestCounts :=
  ⟨c.created + d.created, c.updated + d.updated, c.resolved + d.resolved, c.ignored + d.ignored⟩

@[simp] theorem empty_merge (c : IngestCounts) : merge {} c = c := by simp [merge]

@[simp] theorem merge_empty (c : IngestCounts) : c.merge {} = c := by simp [merge]

theorem merge_assoc (c d e : IngestCounts) : (c.merge d).merge e = c.merge (d.merge e) := by
  simp only [merge, Nat.add_assoc]

open Json.RecordReader in
def reader : Json.RecordReader IngestCounts :=
  IngestCounts.mk <$> required "created" (Json.readNat Json.word64Max)
    <*> required "updated" (Json.readNat Json.word64Max)
    <*> required "resolved" (Json.readNat Json.word64Max)
    <*> required "ignored" (Json.readNat Json.word64Max)

def toJson (c : IngestCounts) : Json := .object [
  ("created", .ofNat c.created),
  ("updated", .ofNat c.updated),
  ("resolved", .ofNat c.resolved),
  ("ignored", .ofNat c.ignored)]

end IngestCounts

end DeviceWatch
