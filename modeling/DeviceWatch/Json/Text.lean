import DeviceWatch.Decimal.Shortest
import DeviceWatch.Json.Basic
import DeviceWatch.Text.Digits

/-!
The text of JSON values: a strict reader and a compact printer.

The reader keeps integers of 64 bits exact; every other number becomes a double, scaled from its
leading digits by a power of ten.  Values nest at most 127 deep.
-/

namespace DeviceWatch.Json

def escapeChar (c : Char) : List Char :=
  if c = '"' then ['\\', '"']
  else if c = '\\' then ['\\', '\\']
  else if c = '\n' then ['\\', 'n']
  else if c = '\r' then ['\\', 'r']
  else if c = '\t' then ['\\', 't']
  else if c.toNat = 0x08 then ['\\', 'b']
  else if c.toNat = 0x0C then ['\\', 'f']
  else if c.toNat < 0x20 then ['\\', 'u'] ++ Text.hexDigits 4 c.toNat
  else [c]

def quote (s : String) : String := "\"" ++ String.ofList (s.toList.flatMap escapeChar) ++ "\""

mutual

def render : Json → String
  | .null => "null"
  | .bool true => "true"
  | .bool false => "false"
  | .int n => toString n
  | .float x => Decimal.ofFloat x
  | .str s => quote s
  | .arr items => "[" ++ ",".intercalate (renderItems items) ++ "]"
  | .obj fields => "\x7b" ++ ",".intercalate (renderFields fields) ++ "\x7d"

def renderItems : List Json → List String
  | [] => []
  | item :: rest => render item :: renderItems rest

def renderFields : List (String × Json) → List String
  | [] => []
  | (key, value) :: rest => (quote key ++ ":" ++ render value) :: renderFields rest

end

def indent (depth : Nat) : String := "\n" ++ String.ofList (List.replicate (2 * depth) ' ')

mutual

def renderPretty (depth : Nat) : Json → String
  | .arr [] => "[]"
  | .obj [] => "\x7b\x7d"
  | .arr items =>
    "[" ++ ",".intercalate (prettyItems (depth + 1) items) ++ indent depth ++ "]"
  | .obj fields =>
    "\x7b" ++ ",".intercalate (prettyFields (depth + 1) fields) ++ indent depth ++ "\x7d"
  | value => render value

def prettyItems (depth : Nat) : List Json → List String
  | [] => []
  | item :: rest => (indent depth ++ renderPretty depth item) :: prettyItems depth rest

def prettyFields (depth : Nat) : List (String × Json) → List String
  | [] => []
  | (key, value) :: rest =>
    (indent depth ++ quote key ++ ": " ++ renderPretty depth value) :: prettyFields depth rest

end

/-- The digits of a significand that fit a word of 64 bits, and how many were left over. -/
def leadingDigits (start : Nat) : List Char → Nat × Nat
  | [] => (start, 0)
  | c :: rest =>
    let next := 10 * start + (c.toNat - 48)
    if next ≤ word64Max then leadingDigits next rest else (start, rest.length + 1)

/-- `significand * 10 ^ exponent`, scaled in steps of at most 308 decimal places; nothing when the
result is too large. -/
def scale (significand : Nat) (exponent : Int) : Option Float :=
  let power (n : Nat) : Float := Float.ofScientific 1 false n
  let start := Float.ofNat significand
  let rec shrink : Nat → Float → Int → Float
    | 0, x, _ => x
    | fuel + 1, x, e =>
      if e ≥ -308 then x / power (-e).toNat
      else if x == 0 then x
      else shrink fuel (x / power 308) (e + 308)
  if exponent ≥ 0 then
    if exponent ≤ 308 then
      let x := start * power exponent.toNat
      if x.isInf then none else some x
    else if significand = 0 then some start else none
  else some (shrink 12 start exponent)

def readDouble (negative : Bool) (whole fraction : List Char) (exponent : Int) : Option Float :=
  let (significand, spare) := leadingDigits 0 whole
  let (significand, spareFraction) := leadingDigits significand fraction
  let used := fraction.length - spareFraction
  let shift : Int := (spare : Int) - (used : Int) + exponent
  (scale significand shift).map fun x => if negative then -x else x

inductive SyntaxError where
  | unexpected
  | numberTooLarge
  | tooDeep
  deriving DecidableEq

def isSpace (c : Char) : Bool := c = ' ' || c = '\n' || c = '\t' || c = '\r'

def skipSpace (cs : List Char) : List Char := cs.dropWhile isSpace

def readUnit? (cs : List Char) : Option (Nat × List Char) :=
  if cs.length < 4 then none else (Text.natIn? 16 (cs.take 4)).map fun n => (n, cs.drop 4)

def escape? : List Char → Option (Char × List Char)
  | '"' :: rest => some ('"', rest)
  | '\\' :: rest => some ('\\', rest)
  | '/' :: rest => some ('/', rest)
  | 'b' :: rest => some (Char.ofNat 8, rest)
  | 'f' :: rest => some (Char.ofNat 12, rest)
  | 'n' :: rest => some ('\n', rest)
  | 'r' :: rest => some ('\r', rest)
  | 't' :: rest => some ('\t', rest)
  | 'u' :: rest => do
    let (high, rest) ← readUnit? rest
    if 0xDC00 ≤ high ∧ high ≤ 0xDFFF then none
    else if 0xD800 ≤ high ∧ high ≤ 0xDBFF then
      match rest with
      | '\\' :: 'u' :: rest =>
        let (low, rest) ← readUnit? rest
        if 0xDC00 ≤ low ∧ low ≤ 0xDFFF then
          some (Char.ofNat (0x10000 + (high - 0xD800) * 0x400 + (low - 0xDC00)), rest)
        else none
      | _ => none
    else some (Char.ofNat high, rest)
  | _ => none

def readQuoted : Nat → List Char → List Char → Except SyntaxError (String × List Char)
  | 0, _, _ => .error .unexpected
  | _, _, [] => .error .unexpected
  | fuel + 1, done, c :: rest =>
    if c = '"' then .ok (String.ofList done.reverse, rest)
    else if c = '\\' then
      match escape? rest with
      | some (c, rest) => readQuoted fuel (c :: done) rest
      | none => .error .unexpected
    else if c.toNat < 0x20 then .error .unexpected
    else readQuoted fuel (c :: done) rest

def readText (cs : List Char) : Except SyntaxError (String × List Char) :=
  readQuoted (cs.length + 1) [] cs

def readExponent : List Char → Except SyntaxError (Option Int × List Char)
  | c :: rest =>
    if c = 'e' || c = 'E' then
      let (negative, rest) := match rest with
        | '+' :: rest => (false, rest)
        | '-' :: rest => (true, rest)
        | rest => (false, rest)
      match rest.takeWhile Char.isDigit with
      | [] => .error .unexpected
      | digits =>
        let n : Int := Text.decimalValue digits
        .ok (some (if negative then -n else n), rest.dropWhile Char.isDigit)
    else .ok (none, c :: rest)
  | [] => .ok (none, [])

def readFraction : List Char → Except SyntaxError (Option (List Char) × List Char)
  | '.' :: rest =>
    match rest.takeWhile Char.isDigit with
    | [] => .error .unexpected
    | digits => .ok (some digits, rest.dropWhile Char.isDigit)
  | rest => .ok (none, rest)

def ofNumberParts (negative : Bool) (whole : List Char) (fraction : Option (List Char))
    (exponent : Option Int) : Except SyntaxError Json :=
  let n := Text.decimalValue whole
  let double := match readDouble negative whole (fraction.getD []) (exponent.getD 0) with
    | some x => .ok (.float x)
    | none => .error .numberTooLarge
  if fraction.isSome || exponent.isSome then double
  else if negative then
    if n = 0 then .ok (.float (-0.0))
    else if n ≤ signed64Max + 1 then .ok (.int (-(n : Int)))
    else double
  else if n ≤ word64Max then .ok (.int n) else double

def readNumber (negative : Bool) (cs : List Char) : Except SyntaxError (Json × List Char) := do
  let whole := cs.takeWhile Char.isDigit
  let rest := cs.dropWhile Char.isDigit
  match whole with
  | [] => .error .unexpected
  | '0' :: _ :: _ => .error .unexpected
  | _ =>
    let (fraction, rest) ← readFraction rest
    let (exponent, rest) ← readExponent rest
    let number ← ofNumberParts negative whole fraction exponent
    return (number, rest)

def readLiteral (name : List Char) (value : Json) (cs : List Char) :
    Except SyntaxError (Json × List Char) :=
  if name.isPrefixOf cs then .ok (value, cs.drop name.length) else .error .unexpected

mutual

/-- Reads one value; `depth` more levels of nesting are allowed. -/
def readValue : Nat → Nat → List Char → Except SyntaxError (Json × List Char)
  | 0, _, _ => .error .unexpected
  | fuel + 1, depth, cs =>
    match skipSpace cs with
    | 'n' :: rest => readLiteral ['u', 'l', 'l'] .null rest
    | 't' :: rest => readLiteral ['r', 'u', 'e'] (.bool true) rest
    | 'f' :: rest => readLiteral ['a', 'l', 's', 'e'] (.bool false) rest
    | '"' :: rest => (readText rest).map fun (s, rest) => (.str s, rest)
    | '-' :: rest => readNumber true rest
    | '[' :: rest =>
      match depth with
      | 0 => .error .tooDeep
      | depth + 1 =>
        match skipSpace rest with
        | ']' :: rest => .ok (.arr [], rest)
        | rest => readItems fuel depth [] rest
    | '\x7b' :: rest =>
      match depth with
      | 0 => .error .tooDeep
      | depth + 1 =>
        match skipSpace rest with
        | '\x7d' :: rest => .ok (.obj [], rest)
        | rest => readFields fuel depth [] rest
    | cs => readNumber false cs

/-- Reads the items of an array, after at least one is known to follow. -/
def readItems : Nat → Nat → List Json → List Char → Except SyntaxError (Json × List Char)
  | 0, _, _, _ => .error .unexpected
  | fuel + 1, depth, done, cs => do
    let (item, rest) ← readValue fuel depth cs
    match skipSpace rest with
    | ',' :: rest => readItems fuel depth (item :: done) rest
    | ']' :: rest => return (.arr (item :: done).reverse, rest)
    | _ => .error .unexpected

def readFields : Nat → Nat → List (String × Json) → List Char →
    Except SyntaxError (Json × List Char)
  | 0, _, _, _ => .error .unexpected
  | fuel + 1, depth, done, cs =>
    match skipSpace cs with
    | '"' :: rest => do
      let (key, rest) ← readText rest
      match skipSpace rest with
      | ':' :: rest =>
        let (value, rest) ← readValue fuel depth rest
        let done := SortedTable.insertEntry key value done
        match skipSpace rest with
        | ',' :: rest => readFields fuel depth done rest
        | '\x7d' :: rest => return (.obj done, rest)
        | _ => .error .unexpected
      | _ => .error .unexpected
    | _ => .error .unexpected

end

def maxDepth : Nat := 127

def readPrefix (cs : List Char) : Except SyntaxError (Json × List Char) :=
  readValue (2 * cs.length + 2) maxDepth cs

def parse (s : String) : Except SyntaxError Json := do
  let (value, rest) ← readPrefix s.toList
  if (skipSpace rest).isEmpty then return value else .error .unexpected

end DeviceWatch.Json
