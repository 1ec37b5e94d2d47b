import DeviceWatch.Json.Basic
import DeviceWatch.Text.Blank

/-!
Reading records from JSON.

A record is an object, or the array of its fields in the order of declaration.  The fields of an
object are checked in key order and the first bad one is reported; fields that are missing are
reported afterwards, in the order of declaration.  Unknown keys are ignored.
-/

namespace DeviceWatch

inductive ReadError where
  | missingField (name : String)
  | wrongType
  | outOfRange
  | wrongLength
  | unknownVariant
  | malformed
  | refused (message : String)
  deriving DecidableEq

def ReadError.message : ReadError → String
  | .missingField name => "missing field \x60" ++ name ++ "\x60"
  | .wrongType => "invalid type"
  | .outOfRange => "invalid value"
  | .wrongLength => "invalid length"
  | .unknownVariant => "unknown variant"
  | .malformed => "malformed"
  | .refused message => message

abbrev Read (α : Type) := Except ReadError α

namespace Json

def readString : Json → Read String
  | .str s => .ok s
  | _ => .error .wrongType

def readBool : Json → Read Bool
  | .bool b => .ok b
  | _ => .error .wrongType

def readNat (max : Nat) : Json → Read Nat
  | .int n => if 0 ≤ n ∧ n ≤ (max : Int) then .ok n.toNat else .error .outOfRange
  | _ => .error .wrongType

def readWord16 (j : Json) : Read UInt16 := (readNat word16Max j).map UInt16.ofNat

def readWord32 (j : Json) : Read UInt32 := (readNat word32Max j).map UInt32.ofNat

def readWord64 (j : Json) : Read UInt64 := (readNat word64Max j).map UInt64.ofNat

def readList {α : Type} (read : Json → Read α) : Json → Read (List α)
  | .arr items => items.mapM read
  | _ => .error .wrongType

/-- An object whose values are all of one kind, in key order. -/
def readTable {α : Type} (read : Json → Read α) : Json → Read (List (String × α))
  | .obj fields => fields.mapM fun (k, v) => (read v).map (k, ·)
  | _ => .error .wrongType

/-- One of finitely many names, also written as an object with that only key and no value. -/
def readName {α : Type} (name? : String → Option α) : Json → Read α
  | .str s => match name? s with
    | some a => .ok a
    | none => .error .unknownVariant
  | .obj [(s, value)] => match name? s with
    | some a => if value = .null then .ok a else .error .wrongType
    | none => .error .unknownVariant
  | .obj _ => .error .outOfRange
  | _ => .error .wrongType

def readOption {α : Type} (read : Json → Read α) : Json → Read (Option α)
  | .null => .ok none
  | j => (read j).map some

/-- A declared field: how its value is checked, and whether a positional record may end before
it. -/
structure Field where
  name : String
  check : Json → Read Unit
  mayEnd : Bool

/-- How a record is read: its fields in order of declaration, and its value from their values. -/
structure RecordReader (α : Type) where
  fields : List Field
  build : (String → Option Json) → Read α

namespace RecordReader

def checkOf {α : Type} (read : Json → Read α) (j : Json) : Read Unit := (read j).map fun _ => ()

def required {α : Type} (name : String) (read : Json → Read α) : RecordReader α where
  fields := [⟨name, checkOf read, false⟩]
  build get := match get name with
    | some j => read j
    | none => .error (.missingField name)

def optional {α : Type} (name : String) (read : Json → Read α) : RecordReader (Option α) where
  fields := [⟨name, checkOf (readOption read), false⟩]
  build get := match get name with
    | some j => readOption read j
    | none => .ok none

def defaulted {α : Type} (name : String) (read : Json → Read α) (default : α) :
    RecordReader α where
  fields := [⟨name, checkOf read, true⟩]
  build get := match get name with
    | some j => read j
    | none => .ok default

def pure {α : Type} (a : α) : RecordReader α := ⟨[], fun _ => .ok a⟩

def seq {α β : Type} (f : RecordReader (α → β)) (x : RecordReader α) : RecordReader β where
  fields := f.fields ++ x.fields
  build get := do
    let f ← f.build get
    let a ← x.build get
    return f a

instance : Applicative RecordReader where
  pure := pure
  seq f x := seq f (x ())

/-- Checks the fields of an object in key order. -/
def checkFields (declared : List Field) : List (String × Json) → Read Unit
  | [] => .ok ()
  | (key, value) :: rest => do
    match declared.find? (·.name == key) with
    | some field => field.check value
    | none => .ok ()
    checkFields declared rest

def checkItems : List Field → List Json → Read Unit
  | [], [] => .ok ()
  | [], _ :: _ => .error .wrongLength
  | field :: declared, [] =>
    if field.mayEnd then checkItems declared [] else .error .wrongLength
  | field :: declared, item :: rest => do
    field.check item
    checkItems declared rest

def readObject {α : Type} (r : RecordReader α) (fields : List (String × Json)) : Read α := do
  checkFields r.fields fields
  r.build fun name => fields.lookup name

def read {α : Type} (r : RecordReader α) : Json → Read α
  | .obj fields => r.readObject fields
  | .arr items => do
    checkItems r.fields items
    r.build fun name => ((r.fields.map (·.name)).zip items).lookup name
  | _ => .error .wrongType

end RecordReader

end Json

end DeviceWatch
