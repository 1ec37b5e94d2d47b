import DeviceWatch.Config.Basic
import DeviceWatch.Connector.Settings

/-!
Connectors: what is polled, how often, and how the last polls went.
-/

namespace DeviceWatch

inductive ConnectorStatus where
  | disconnected
  | connecting
  | connected
  | error
  deriving DecidableEq, Inhabited

def ConnectorStatus.name : ConnectorStatus → String
  | disconnected => "disconnected"
  | connecting => "connecting"
  | connected => "connected"
  | error => "error"

structure Connector where
  id : String
  name : String
  settings : ConnectorSettings
  enabled : Bool
  pollIntervalSecs : Nat
  lastPollAt : Option Instant
  status : ConnectorStatus
  errorMessage : Option String
  consecutiveFailures : Nat
  createdAt : Instant
  updatedAt : Instant
  deriving DecidableEq

namespace Connector

/-- A poll is due when the connector was never polled, or when its interval has passed since the
last poll started. -/
def isDue (c : Connector) (now : Instant) : Bool :=
  c.enabled && match c.lastPollAt with
    | none => true
    | some last => decide ((min c.pollIntervalSecs Json.signed64Max : Nat) ≤ last.secsUntil now)

def fields (c : Connector) : List (String × Json) := [
  ("id", .str c.id),
  ("name", .str c.name),
  ("config", c.settings.toJson),
  ("enabled", .bool c.enabled),
  ("poll_interval_secs", .ofNat c.pollIntervalSecs),
  ("last_poll_at", .ofOption Instant.toJson c.lastPollAt),
  ("status", .str c.status.name),
  ("error_message", .ofOption .str c.errorMessage),
  ("consecutive_failures", .ofNat c.consecutiveFailures),
  ("created_at", c.createdAt.toJson),
  ("updated_at", c.updatedAt.toJson)]

def toJson (c : Connector) : Json := .object c.fields

/-- Ids are parts of addresses: up to 128 lower-case letters, digits, hyphens, underscores and
points. -/
def isIdChar (c : Char) : Bool :=
  ('a' ≤ c && c ≤ 'z') || ('0' ≤ c && c ≤ '9') || c = '-' || c = '_' || c = '.'

def validateId (id : String) : Outcome Unit :=
  if id ≠ "" ∧ id.utf8ByteSize ≤ 128 ∧ id.toList.all isIdChar then .ok ()
  else .error (.validation ("invalid connector id '" ++ id ++ "'"))

def validateInterval (secs floor : Nat) : Outcome Unit :=
  if secs < floor then
    .error (.validation ("poll_interval_secs " ++ toString secs ++ " is below the minimum of " ++
      toString floor))
  else if maxPollIntervalSecs < secs then
    .error (.validation ("poll_interval_secs " ++ toString secs ++ " is above the maximum of " ++
      toString maxPollIntervalSecs))
  else .ok ()

end Connector

structure ConnectorInput where
  name : Option String
  settings : ConnectorSettings
  enabled : Bool := true
  pollIntervalSecs : Option Nat

namespace ConnectorInput

open Json.RecordReader in
def reader : Json.RecordReader ConnectorInput :=
  ConnectorInput.mk <$> optional "name" Json.readString
    <*> required "config" ConnectorSettings.read
    <*> defaulted "enabled" Json.readBool true
    <*> optional "poll_interval_secs" (Json.readNat Json.word64Max)

def read (j : Json) : Read ConnectorInput := reader.read j

def toConnector (input : ConnectorInput) (id : String) (dispatch : DispatchConfig)
    (now : Instant) : Outcome Connector := do
  Connector.validateId id
  input.settings.validate
  let interval := input.pollIntervalSecs.getD dispatch.defaultPollIntervalSecs
  Connector.validateInterval interval dispatch.minPollIntervalSecs
  return {
    id := id
    name := input.name.getD id
    settings := input.settings
    enabled := input.enabled
    pollIntervalSecs := interval
    lastPollAt := none
    status := .disconnected
    errorMessage := none
    consecutiveFailures := 0
    createdAt := now
    updatedAt := now }

end ConnectorInput

end DeviceWatch
