import DeviceWatch.Connector.Registry
import DeviceWatch.Yaml.Reader

/-!
Seed files: connectors that are registered when the service starts.

A seed file is a YAML mapping whose `connectors` is a list of entries.  An entry that is malformed or
invalid is skipped; a file that cannot be read registers nothing.
-/

namespace DeviceWatch

structure SeedEntry where
  id : String
  input : ConnectorInput

structure SeedReport where
  loaded : Nat := 0
  skipped : Nat := 0
  deriving DecidableEq

inductive SeedError where
  | unreadable
  | malformed
  deriving DecidableEq

namespace Seed

def maxDepth : Nat := 128

/-- The entries under `connectors`; nothing written there is an empty list. -/
def entriesOf? (v : Yaml) : Option (List Yaml) :=
  match v with
  | .absent => some []
  | .seq items => if v.isSound (maxDepth - 1) then some items else none
  | _ => none

def isScalar : Yaml → Bool
  | .seq _ | .map _ => false
  | _ => true

def isConnectorsKey : Yaml → Bool
  | .str s => s == "connectors"
  | _ => false

/-- The entries of a document.  Other fields than `connectors` are ignored. -/
def entries? : Yaml → Option (List Yaml)
  | .absent => some []
  | .map fields =>
    if !fields.all (fun f => isScalar f.1) then none
    else match fields.filter (fun f => isConnectorsKey f.1) with
      | [] => some []
      | [(_, v)] => entriesOf? v
      | _ => none
  | _ => none

def namedFields? (fields : List (Yaml × Yaml)) : Option (List (String × Yaml)) :=
  fields.mapM fun f => match f.1 with
    | .str key => some (key, f.2)
    | _ => none

/-- The value of a field as JSON.  Only the settings may hold numbers that are not finite. -/
def fieldJson? (name : String) : Yaml → Option Json
  | .float x => if name = "config" ∨ x.isFinite then Yaml.toJson? (.float x) else none
  | v => Yaml.toJson? v

def definition? (fields : List (String × Yaml)) : Option (List (String × Json)) :=
  let declared := ConnectorInput.reader.fields.map (·.name)
  (fields.filter (declared.contains ·.1)).foldlM (fun acc (name, v) =>
    (fieldJson? name v).map fun j => SortedTable.insertEntry name j acc) []

def id? (fields : List (String × Yaml)) : Option String :=
  match fields.lookup "id" with
  | some (.str id) => some id
  | _ => none

def entry? : Yaml → Option SeedEntry
  | .map fields => do
    let fields ← namedFields? fields
    let id ← id? fields
    let input ← (ConnectorInput.read (.obj (← definition? fields))).toOption
    some ⟨id, input⟩
  | _ => none

/-- The entries of a seed file as they are written; nothing if it is no seed file. -/
def written? (text : String) : Option (List Yaml) := do
  entries? (← Yaml.read? text)

def read? (text : String) : Option (List (Option SeedEntry)) :=
  (written? text).map fun entries => entries.map entry?

end Seed

namespace Registry

def applySeedEntry (now : Instant) (state : SeedReport × Registry) (entry : Option SeedEntry) :
    SeedReport × Registry :=
  let (report, r) := state
  match entry with
  | none => ({ report with skipped := report.skipped + 1 }, r)
  | some e => match r.upsert e.id e.input now with
    | .ok (_, r) => ({ report with loaded := report.loaded + 1 }, r)
    | .error _ => ({ report with skipped := report.skipped + 1 }, r)

/-- Registers entries in order, each at the time when its turn comes. -/
def applyEntries (r : Registry) (entries : List (Instant × Option SeedEntry)) :
    SeedReport × Registry :=
  entries.foldl (fun state entry => applySeedEntry entry.1 state entry.2) ({}, r)

def applySeed (r : Registry) (now : Instant) (entries : List (Option SeedEntry)) :
    SeedReport × Registry :=
  r.applyEntries (entries.map fun entry => (now, entry))

/-- Registers what a seed file holds.  There may be no such file. -/
def applySeedFile (r : Registry) (now : Instant) (file : Option String) :
    Except SeedError SeedReport × Registry :=
  match file with
  | none => (.error .unreadable, r)
  | some text =>
    match Seed.read? text with
    | none => (.error .malformed, r)
    | some entries =>
      let (report, r) := r.applySeed now entries
      (.ok report, r)

end Registry

end DeviceWatch
