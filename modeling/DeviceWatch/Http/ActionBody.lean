import DeviceWatch.Json.Skip
import DeviceWatch.Time

/-!
The body of a request for an action on an alert: nothing, or a record with the end of a suppression.

The text is read from left to right, and the first thing wrong with it is reported.  The values of
unknown fields are passed over.
-/

namespace DeviceWatch.Http.ActionBody

open Json (skipSpace readText readPrefix SyntaxError)

/-- A text that is not well formed is malformed. -/
def syntactic {α : Type} : Except SyntaxError α → Read α
  | .ok a => .ok a
  | .error _ => .error .malformed

/-- A value of the wrong kind, unless even its text is not well formed. -/
def refuse {α : Type} (cs : List Char) : Read α := do
  let _ ← syntactic (readPrefix cs)
  .error .wrongType

def readTime (cs : List Char) : Read (Option Instant × List Char) :=
  match skipSpace cs with
  | 'n' :: rest => do
    let (_, rest) ← syntactic (Json.readLiteral ['u', 'l', 'l'] .null rest)
    return (none, rest)
  | '"' :: rest => do
    let (text, rest) ← syntactic (readText rest)
    match Instant.parse? text with
    | some t => return (some t, rest)
    | none => .error .malformed
  | '[' :: _ | '\x7b' :: _ => .error .wrongType
  | cs => refuse cs

def untilKey : String := "until"

/-- The fields of a record after its brace or a comma; `seen` is the end that was read before. -/
def readFields : Nat → Option (Option Instant) → List Char → Read (Option Instant × List Char)
  | 0, _, _ => .error .malformed
  | fuel + 1, seen, cs =>
    match skipSpace cs with
    | '"' :: rest => do
      let (key, rest) ← syntactic (readText rest)
      if key = untilKey ∧ seen.isSome then .error .malformed
      else match skipSpace rest with
        | ':' :: rest =>
          let (seen, rest) ← if key = untilKey then
              (readTime rest).map fun (t, rest) => (some t, rest)
            else match Json.skip? rest with
              | some rest => .ok (seen, rest)
              | none => .error .malformed
          match skipSpace rest with
          | ',' :: rest => readFields fuel seen rest
          | '\x7d' :: rest => return (seen.getD none, rest)
          | _ => .error .malformed
        | _ => .error .malformed
    | _ => .error .malformed

/-- A record as the array of its only field, after the bracket. -/
def readItems (cs : List Char) : Read (Option Instant × List Char) :=
  match skipSpace cs with
  | ']' :: _ => .error .wrongLength
  | [] => .error .malformed
  | cs => do
    let (t, rest) ← readTime cs
    match skipSpace rest with
    | ']' :: rest => return (t, rest)
    | _ => .error .malformed

def readRecord (cs : List Char) : Read (Option Instant × List Char) :=
  match skipSpace cs with
  | '\x7b' :: rest =>
    match skipSpace rest with
    | '\x7d' :: rest => .ok (none, rest)
    | rest => readFields (rest.length + 1) none rest
  | '[' :: rest => readItems rest
  | cs => refuse cs

def isBlank (c : Char) : Bool := Json.isSpace c || c = '\x0c'

def read (body : String) : Read (Option Instant) :=
  let cs := body.toList
  if cs.all isBlank then .ok none
  else do
    let (t, rest) ← readRecord cs
    if (skipSpace rest).isEmpty then return t else .error .malformed

end DeviceWatch.Http.ActionBody
