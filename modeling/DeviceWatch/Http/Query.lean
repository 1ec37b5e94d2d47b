import DeviceWatch.Http.Uri
import DeviceWatch.Json.Basic

/-!
Reading the parameters of a query.

Any parameter may be missing, and unknown ones are ignored.  The parameters are checked in the order
in which they are given, and the first that is repeated or unreadable is reported.
-/

namespace DeviceWatch.Http

abbrev Query := List (String × String)

inductive QueryError where
  | repeated (name : String)
  | unreadable (name cause : String)
  deriving DecidableEq

def QueryError.message : QueryError → String
  | .repeated name => "duplicate field \x60" ++ name ++ "\x60"
  | .unreadable name cause => name ++ ": " ++ cause

namespace Query

def readText (s : String) : Except String String := .ok s

def readFlag : String → Except String Bool
  | "true" => .ok true
  | "false" => .ok false
  | _ => .error "provided string was not \x60true\x60 or \x60false\x60"

def readDigits (n : Nat) : List Char → Except String Nat
  | [] => .ok n
  | c :: rest =>
    match Text.digitIn? 10 c with
    | none => .error "invalid digit found in string"
    | some d =>
      if 10 * n + d ≤ Json.word64Max then readDigits (10 * n + d) rest
      else .error "number too large to fit in target type"

/-- A number: digits after an optional plus sign. -/
def readNumber (s : String) : Except String Nat :=
  match s.toList with
  | [] => .error "cannot parse integer from empty string"
  | ['+'] => .error "invalid digit found in string"
  | '+' :: digits => readDigits 0 digits
  | digits => readDigits 0 digits

def readName {α : Type} (names : List String) (name? : String → Option α) (s : String) :
    Except String α :=
  match name? s with
  | some a => .ok a
  | none => .error ("unknown variant \x60" ++ s ++ "\x60, expected one of " ++
      ", ".intercalate (names.map fun name => "\x60" ++ name ++ "\x60"))

/-- How a query is read: what is wrong with the value of each known parameter, and the result from a
query in which nothing is wrong. -/
structure Reader (α : Type) where
  faults : List (String × (String → Option String))
  build : Query → α

namespace Reader

def faultOf {α : Type} (read : String → Except String α) (value : String) : Option String :=
  match read value with
  | .ok _ => none
  | .error cause => some cause

def optional {α : Type} (name : String) (read : String → Except String α) : Reader (Option α) where
  faults := [(name, faultOf read)]
  build query := (query.lookup name).bind fun value => (read value).toOption

instance : Applicative Reader where
  pure a := ⟨[], fun _ => a⟩
  seq f x := ⟨f.faults ++ (x ()).faults, fun query => f.build query ((x ()).build query)⟩

/-- Checks the parameters in order; `seen` are the known ones before them. -/
def check (faults : List (String × (String → Option String))) (seen : List String) :
    Query → Except QueryError Unit
  | [] => .ok ()
  | (name, value) :: rest =>
    match faults.lookup name with
    | none => check faults seen rest
    | some fault? =>
      if seen.contains name then .error (.repeated name)
      else match fault? value with
        | some cause => .error (.unreadable name cause)
        | none => check faults (name :: seen) rest

def read {α : Type} (r : Reader α) (query : Query) : Except QueryError α := do
  check r.faults [] query
  return r.build query

end Reader

end Query

end DeviceWatch.Http
