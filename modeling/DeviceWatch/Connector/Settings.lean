import DeviceWatch.SortedTable
import DeviceWatch.Text.Blank
import DeviceWatch.Error

/-!
How a connector reaches its device.

Four kinds of settings are typed; settings of any other kind are kept as they are.  In JSON the
kind is the field `type` beside the settings.
-/

namespace DeviceWatch

structure SnmpSettings where
  host : String
  port : UInt16 := 161
  community : String := "public"
  version : String := "v2c"
  oids : List String := []
  timeoutSecs : Option UInt64 := none
  deriving DecidableEq

structure SshSettings where
  host : String
  port : UInt16 := 22
  username : String
  credentialRef : Option String := none
  commands : List String := []
  timeoutSecs : Option UInt64 := none
  deriving DecidableEq

structure HttpSettings where
  url : String
  method : String := "GET"
  expectedStatus : Option UInt16 := none
  headers : SortedTable String := .empty
  timeoutSecs : Option UInt64 := none
  deriving DecidableEq

structure PingSettings where
  host : String
  count : UInt32 := 3
  timeoutSecs : Option UInt64 := none
  deriving DecidableEq

inductive ConnectorSettings where
  | snmp (s : SnmpSettings)
  | ssh (s : SshSettings)
  | http (s : HttpSettings)
  | ping (s : PingSettings)
  | generic (kind : String) (fields : List (String × Json))
  deriving DecidableEq

namespace ConnectorSettings

def kind : ConnectorSettings → String
  | snmp _ => "snmp"
  | ssh _ => "ssh"
  | http _ => "http"
  | ping _ => "ping"
  | generic kind _ => kind

def typedKinds : List String := ["snmp", "ssh", "http", "ping"]

def explicitTimeout : ConnectorSettings → Option Nat
  | snmp s => s.timeoutSecs.map UInt64.toNat
  | ssh s => s.timeoutSecs.map UInt64.toNat
  | http s => s.timeoutSecs.map UInt64.toNat
  | ping s => s.timeoutSecs.map UInt64.toNat
  | generic _ fields => (fields.lookup "timeout_secs").bind Json.asNat?

/-- The timeout of a kind that sets none: short for a single exchange, longer for a session. -/
def kindTimeout : ConnectorSettings → Option Nat
  | ssh _ => some 300
  | generic _ _ => none
  | _ => some 30

/-- How many seconds one poll may take; none leaves it to the service. -/
def timeoutSecs (s : ConnectorSettings) : Option Nat :=
  s.explicitTimeout.orElse fun _ => s.kindTimeout

def target : ConnectorSettings → Option String
  | snmp s => some s.host
  | ssh s => some s.host
  | http s => some s.url
  | ping s => some s.host
  | generic _ fields =>
    ((fields.lookup "host").orElse fun _ => fields.lookup "url").bind Json.asString?

def requireHost (s : ConnectorSettings) : Outcome Unit :=
  match s.target with
  | some target =>
    if Text.isBlankText target then .error (.validation (s.kind ++ " connector requires a host"))
    else .ok ()
  | none => .error (.validation (s.kind ++ " connector requires a host"))

def validate (s : ConnectorSettings) : Outcome Unit :=
  if s.timeoutSecs = some 0 then .error (.validation "timeout_secs must be positive")
  else match s with
    | generic kind _ =>
      if Text.isBlankText kind then .error (.validation "connector type must not be empty")
      else .ok ()
    | ssh c =>
      if Text.isBlankText c.username then .error (.validation "ssh connector requires a username")
      else s.requireHost
    | http c =>
      if !Text.startsWith "http://" c.url && !Text.startsWith "https://" c.url then
        .error (.validation ("invalid http url '" ++ c.url ++ "'"))
      else s.requireHost
    | s => s.requireHost

def timeoutField (t : Option UInt64) : String × Json :=
  ("timeout_secs", .ofOption (fun secs => .ofNat secs.toNat) t)

def texts (items : List String) : Json := .arr (items.map .str)

def fields : ConnectorSettings → List (String × Json)
  | snmp s => [("community", .str s.community), ("host", .str s.host), ("oids", texts s.oids),
      ("port", .ofNat s.port.toNat), timeoutField s.timeoutSecs, ("version", .str s.version)]
  | ssh s => [("commands", texts s.commands), ("credential_ref", .ofOption .str s.credentialRef),
      ("host", .str s.host), ("port", .ofNat s.port.toNat), timeoutField s.timeoutSecs,
      ("username", .str s.username)]
  | http s => [("expected_status", .ofOption (fun code => .ofNat code.toNat) s.expectedStatus),
      ("headers", .obj (s.headers.entries.map fun (k, v) => (k, .str v))),
      ("method", .str s.method), timeoutField s.timeoutSecs, ("url", .str s.url)]
  | ping s => [("count", .ofNat s.count.toNat), ("host", .str s.host), timeoutField s.timeoutSecs]
  | generic _ fields => fields

def toJson (s : ConnectorSettings) : Json := .obj (SortedTable.insertEntry "type" (.str s.kind) s.fields)

open Json.RecordReader

def timeoutReader : Json.RecordReader (Option UInt64) := optional "timeout_secs" Json.readWord64

def snmpReader : Json.RecordReader SnmpSettings :=
  SnmpSettings.mk <$> required "host" Json.readString
    <*> defaulted "port" Json.readWord16 161
    <*> defaulted "community" Json.readString "public"
    <*> defaulted "version" Json.readString "v2c"
    <*> defaulted "oids" (Json.readList Json.readString) []
    <*> timeoutReader

def sshReader : Json.RecordReader SshSettings :=
  SshSettings.mk <$> required "host" Json.readString
    <*> defaulted "port" Json.readWord16 22
    <*> required "username" Json.readString
    <*> optional "credential_ref" Json.readString
    <*> defaulted "commands" (Json.readList Json.readString) []
    <*> timeoutReader

def httpReader : Json.RecordReader HttpSettings :=
  HttpSettings.mk <$> required "url" Json.readString
    <*> defaulted "method" Json.readString "GET"
    <*> optional "expected_status" Json.readWord16
    <*> defaulted "headers"
      (fun j => (Json.readTable Json.readString j).map SortedTable.ofList) .empty
    <*> timeoutReader

def pingReader : Json.RecordReader PingSettings :=
  PingSettings.mk <$> required "host" Json.readString
    <*> defaulted "count" Json.readWord32 3
    <*> timeoutReader

def readFields (kind : String) (fields : List (String × Json)) : Outcome ConnectorSettings :=
  let typed {α : Type} (wrap : α → ConnectorSettings) (r : Read α) : Outcome ConnectorSettings :=
    match r with
    | .ok settings => .ok (wrap settings)
    | .error e => .error (.validation ("invalid " ++ kind ++ " config: " ++ e.message))
  if kind = "snmp" then typed snmp (snmpReader.readObject fields)
  else if kind = "ssh" then typed ssh (sshReader.readObject fields)
  else if kind = "http" then typed http (httpReader.readObject fields)
  else if kind = "ping" then typed ping (pingReader.readObject fields)
  else .ok (generic kind fields)

def ofJson (j : Json) : Outcome ConnectorSettings :=
  match j with
  | .obj fields =>
    match (fields.lookup "type").bind Json.asString? with
    | some kind => readFields kind (Json.eraseField "type" fields)
    | none => .error (.validation "connector config is missing 'type'")
  | _ => .error (.validation "connector config is missing 'type'")

/-- Reads settings inside a record; the message of a refusal is kept whole. -/
def read (j : Json) : Read ConnectorSettings :=
  match ofJson j with
  | .ok s => .ok s
  | .error e => .error (.refused e.message)

end ConnectorSettings

end DeviceWatch
