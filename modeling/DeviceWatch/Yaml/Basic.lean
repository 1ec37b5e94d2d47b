import DeviceWatch.Json.Basic
import DeviceWatch.Text.Digits

/-!
YAML values, and the meaning of plain scalars.

Plain scalars follow the core schema: `null` and `~` are null, `true` and `false` are booleans, numbers
are decimal or have a radix, and anything else is text.  A node with nothing written is kept apart
from a null that is written out.
-/

namespace DeviceWatch

inductive Yaml where
  | absent
  | null
  | bool (b : Bool)
  | int (n : Int)
  /-- An integer of more than 64 and at most 128 bits, which no value can hold. -/
  | wide (n : Int)
  | float (x : Float)
  | str (s : String)
  | seq (items : List Yaml)
  | map (entries : List (Yaml × Yaml))
  deriving Inhabited

namespace Yaml

def takeSign : List Char → Bool × List Char
  | '-' :: rest => (true, rest)
  | '+' :: rest => (false, rest)
  | cs => (false, cs)

/-- Zeros in front of more digits make a text, not a number. -/
def isPaddedDigits (cs : List Char) : Bool :=
  match (takeSign cs).2 with
  | '0' :: rest => !rest.isEmpty && rest.all Char.isDigit
  | _ => false

/-- An integer of any size, decimal or with a radix. -/
def int? (cs : List Char) : Option Int := do
  if isPaddedDigits cs then none
  else
    let (negative, digits) := takeSign cs
    let n ← match digits with
      | '0' :: 'x' :: rest => Text.natIn? 16 rest
      | '0' :: 'o' :: rest => Text.natIn? 8 rest
      | '0' :: 'b' :: rest => Text.natIn? 2 rest
      | digits => Text.natIn? 10 digits
    some (if negative then -(n : Int) else n)

def fitsWord (bits : Nat) (n : Int) : Bool :=
  -(Nat.pow 2 (bits - 1) : Int) ≤ n && n < (Nat.pow 2 bits : Int)

/-- The exponent of a number: nothing, or `e` with a signed row of digits. -/
def exponent? : List Char → Option Int
  | [] => some 0
  | c :: rest =>
    if c = 'e' ∨ c = 'E' then
      let (negative, digits) := takeSign rest
      (Text.natIn? 10 digits).map fun n => if negative then -(n : Int) else n
    else none

/-- A finite decimal number, rounded to the nearest double. -/
def decimal? (cs : List Char) : Option Float := do
  let (negative, cs) := takeSign cs
  let whole := cs.takeWhile Char.isDigit
  let rest := cs.dropWhile Char.isDigit
  let (fraction, rest) := match rest with
    | '.' :: rest => (rest.takeWhile Char.isDigit, rest.dropWhile Char.isDigit)
    | rest => ([], rest)
  let digits := whole ++ fraction
  let n ← Text.natIn? 10 digits
  let exponent ← exponent? rest
  let shift := exponent - fraction.length
  let magnitude := shift + (digits.dropWhile (· = '0')).length
  let x := if n = 0 ∨ magnitude < -400 then 0.0
    else if magnitude > 400 then 1.0 / 0.0
    else Float.ofScientific n (shift < 0) shift.natAbs
  if x.isInf then none else some (if negative then -x else x)

def float? (cs : List Char) : Option Float :=
  let s := String.ofList cs
  if s = ".inf" ∨ s = ".Inf" ∨ s = ".INF" ∨ s = "+.inf" ∨ s = "+.Inf" ∨ s = "+.INF" then
    some (1.0 / 0.0)
  else if s = "-.inf" ∨ s = "-.Inf" ∨ s = "-.INF" then some (-1.0 / 0.0)
  else if s = ".nan" ∨ s = ".NaN" ∨ s = ".NAN" then some (0.0 / 0.0)
  else if isPaddedDigits cs then none
  else decimal? cs

def ofPlain (cs : List Char) : Yaml :=
  let s := String.ofList cs
  if s = "" then .absent
  else if s = "null" ∨ s = "Null" ∨ s = "NULL" ∨ s = "~" then .null
  else if s = "true" ∨ s = "True" ∨ s = "TRUE" then .bool true
  else if s = "false" ∨ s = "False" ∨ s = "FALSE" then .bool false
  else
    let other := match float? cs with
      | some x => .float x
      | none => .str s
    match int? cs with
    | some n => if fitsWord 64 n then .int n else if fitsWord 128 n then .wide n else other
    | none => other

mutual

/-- Equality of values, where mappings are compared without regard to order. -/
def same : Yaml → Yaml → Bool
  | .null, .null | .absent, .absent | .null, .absent | .absent, .null => true
  | .bool a, .bool b => a == b
  | .int a, .int b | .wide a, .wide b => a == b
  | .float a, .float b => a == b || (a.isNaN && b.isNaN)
  | .str a, .str b => a == b
  | .seq a, .seq b => sameItems a b
  | .map a, .map b => a.length == b.length && hasEntries b a
  | _, _ => false

def sameItems : List Yaml → List Yaml → Bool
  | [], [] => true
  | a :: as, b :: bs => same a b && sameItems as bs
  | _, _ => false

def hasEntries (all : List (Yaml × Yaml)) : List (Yaml × Yaml) → Bool
  | [] => true
  | (k, v) :: rest => all.any (fun (l, w) => same k l && same v w) && hasEntries all rest

end

def hasDuplicate : List Yaml → Bool
  | [] => false
  | k :: rest => rest.any (same k) || hasDuplicate rest

mutual

/-- Whether the value can be held: no mapping inside it has two equal keys, every integer fits 64
bits, and it is nested at most `depth` deep. -/
def isSound : Nat → Yaml → Bool
  | _, .wide _ => false
  | 0, .seq _ | 0, .map _ => false
  | depth + 1, .seq items => isSoundItems depth items
  | depth + 1, .map entries => !hasDuplicate (entries.map Prod.fst) && isSoundEntries depth entries
  | _, _ => true

def isSoundItems (depth : Nat) : List Yaml → Bool
  | [] => true
  | item :: rest => isSound depth item && isSoundItems depth rest

def isSoundEntries (depth : Nat) : List (Yaml × Yaml) → Bool
  | [] => true
  | (k, v) :: rest => isSound depth k && isSound depth v && isSoundEntries depth rest

end

mutual

/-- The value as JSON; nothing when a key is no text or an integer too wide.  A number without a finite
value is null. -/
def toJson? : Yaml → Option Json
  | .absent | .null => some .null
  | .bool b => some (.bool b)
  | .int n => some (.int n)
  | .wide _ => none
  | .float x => some (if x.isFinite then .float x else .null)
  | .str s => some (.str s)
  | .seq items => (toJsonItems? items).map .arr
  | .map entries => (toJsonEntries? entries).map Json.object

def toJsonItems? : List Yaml → Option (List Json)
  | [] => some []
  | item :: rest => do
    let item ← toJson? item
    let rest ← toJsonItems? rest
    some (item :: rest)

def toJsonEntries? : List (Yaml × Yaml) → Option (List (String × Json))
  | [] => some []
  | (.str k, v) :: rest => do
    let v ← toJson? v
    let rest ← toJsonEntries? rest
    some ((k, v) :: rest)
  | _ => none

end

end Yaml

end DeviceWatch
