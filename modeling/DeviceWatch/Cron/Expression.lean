import DeviceWatch.Cron.Basic
import DeviceWatch.Text.Case

/-!
Cron expressions: second, minute, hour, day of the month, month, weekday and perhaps year.

A field is a list of terms separated by commas.  A term is `*`, a number, a range, a name or a range
of names; all but a single name take a step after a slash, and a number with a step runs to the end
of the field.  Blanks may stand around numbers, names and fields.
-/

namespace DeviceWatch.Cron

/-- One field: its values, its names if it has any, and whether `?` may stand for `*`. -/
structure FieldKind where
  low : Nat
  high : Nat
  name? : String → Option Nat
  mayBeOpen : Bool

def monthNames : List (String × Nat) := [
  ("january", 1), ("february", 2), ("march", 3), ("april", 4), ("may", 5), ("june", 6),
  ("july", 7), ("august", 8), ("september", 9), ("october", 10), ("november", 11),
  ("december", 12), ("jan", 1), ("feb", 2), ("mar", 3), ("apr", 4), ("jun", 6), ("jul", 7),
  ("aug", 8), ("sep", 9), ("oct", 10), ("nov", 11), ("dec", 12)]

def weekdayNames : List (String × Nat) := [
  ("sunday", 1), ("monday", 2), ("tuesday", 3), ("wednesday", 4), ("thursday", 5), ("friday", 6),
  ("saturday", 7), ("sun", 1), ("mon", 2), ("tue", 3), ("wed", 4), ("thu", 5), ("fri", 6),
  ("sat", 7), ("tues", 3), ("thurs", 5)]

def noName (_ : String) : Option Nat := none

def seconds : FieldKind := ⟨0, 59, noName, false⟩
def minutes : FieldKind := ⟨0, 59, noName, false⟩
def hours : FieldKind := ⟨0, 23, noName, false⟩
def daysOfMonth : FieldKind := ⟨1, 31, noName, true⟩
def months : FieldKind := ⟨1, 12, fun s => monthNames.lookup (Text.asciiLower s), false⟩
def weekdays : FieldKind := ⟨1, 7, fun s => weekdayNames.lookup (Text.asciiLower s), true⟩
def years : FieldKind := ⟨1970, 2100, noName, false⟩

inductive Span where
  | all
  | point (n : Nat)
  | range (first last : Nat)
  | name (s : String)
  | nameRange (first last : String)

structure Term where
  span : Span
  step : Option Nat

def isSpace (c : Char) : Bool := c = ' ' || c = '\t' || c = '\r' || c = '\n'

def isLetter (c : Char) : Bool := ('a' ≤ c && c ≤ 'z') || ('A' ≤ c && c ≤ 'Z')

def skipSpace (cs : List Char) : List Char := cs.dropWhile isSpace

/-- A word of characters of one class with blanks around it. -/
def readWord (p : Char → Bool) (cs : List Char) : Option (List Char × List Char) :=
  let cs := skipSpace cs
  match cs.takeWhile p with
  | [] => none
  | word => some (word, skipSpace (cs.dropWhile p))

def readNumber (cs : List Char) : Option (Nat × List Char) := do
  let (digits, rest) ← readWord Char.isDigit cs
  let n := Text.decimalValue digits
  if n ≤ Json.word32Max then some (n, rest) else none

def readName (cs : List Char) : Option (String × List Char) :=
  (readWord isLetter cs).map fun (word, rest) => (String.ofList word, rest)

def readNumberRange (cs : List Char) : Option (Span × List Char) := do
  let (first, rest) ← readNumber cs
  match rest with
  | '-' :: rest =>
    let (last, rest) ← readNumber rest
    some (.range first last, rest)
  | _ => none

def readNameRange (cs : List Char) : Option (Span × List Char) := do
  let (first, rest) ← readName cs
  match rest with
  | '-' :: rest =>
    let (last, rest) ← readName rest
    some (.nameRange first last, rest)
  | _ => none

/-- A span that takes a step. -/
def readSpan (kind : FieldKind) (cs : List Char) : Option (Span × List Char) :=
  match cs with
  | '*' :: rest => some (.all, rest)
  | '?' :: rest => if kind.mayBeOpen then some (.all, rest) else none
  | cs =>
    (readNumberRange cs).orElse fun _ =>
      ((readNumber cs).map fun (n, rest) => (.point n, rest)).orElse fun _ => readNameRange cs

def readStepped (kind : FieldKind) (cs : List Char) : Option (Term × List Char) := do
  let (span, rest) ← readSpan kind cs
  match rest with
  | '/' :: rest =>
    let (step, rest) ← readNumber rest
    some (⟨span, some step⟩, rest)
  | _ => none

def readTerm (kind : FieldKind) (cs : List Char) : Option (Term × List Char) :=
  (readStepped kind cs).orElse fun _ =>
    ((readSpan kind cs).map fun (span, rest) => (⟨span, none⟩, rest)).orElse fun _ =>
      (readName cs).map fun (s, rest) => (⟨.name s, none⟩, rest)

/-- Terms separated by commas; the list ends before a comma that no term follows. -/
def readTerms (kind : FieldKind) : Nat → List Char → Option (List Term × List Char)
  | 0, _ => none
  | fuel + 1, cs => do
    let (term, rest) ← readTerm kind cs
    match rest with
    | ',' :: after =>
      match readTerms kind fuel after with
      | some (terms, rest) => some (term :: terms, rest)
      | none => some ([term], rest)
    | _ => some ([term], rest)

def FieldKind.admits (kind : FieldKind) (n : Nat) : Bool := kind.low ≤ n && n ≤ kind.high

def interval (first last : Nat) : List Nat :=
  (List.range (last + 1 - first)).map (first + ·)

def rangeValues (kind : FieldKind) (first last : Nat) : Option (List Nat) :=
  if kind.admits first ∧ kind.admits last ∧ first ≤ last then some (interval first last) else none

def spanValues (kind : FieldKind) : Span → Option (List Nat)
  | .all => some (interval kind.low kind.high)
  | .point n => if kind.admits n then some [n] else none
  | .range first last => rangeValues kind first last
  | .name s => (kind.name? s).map ([·])
  | .nameRange first last => do
    let first ← kind.name? first
    let last ← kind.name? last
    rangeValues kind first last

def every (step : Nat) (ns : List Nat) : List Nat :=
  (ns.zipIdx.filter fun (_, i) => i % step == 0).map Prod.fst

def termValues (kind : FieldKind) (t : Term) : Option (List Nat) :=
  match t.step with
  | none => spanValues kind t.span
  | some step =>
    if step < 1 ∨ kind.high < step then none
    else
      let whole := match t.span with
        | .point n => rangeValues kind n kind.high
        | span => spanValues kind span
      whole.map (every step)

def fieldValues (kind : FieldKind) (terms : List Term) : Option (List Nat) := do
  let sets ← terms.mapM (termValues kind)
  some ((interval kind.low kind.high).filter fun n => sets.any (·.contains n))

def readField (kind : FieldKind) (cs : List Char) : Option (List Nat × List Char) := do
  let cs := skipSpace cs
  let (terms, rest) ← readTerms kind (cs.length + 1) cs
  let values ← fieldValues kind terms
  some (values, skipSpace rest)

def full (kind : FieldKind) : List Nat := interval kind.low kind.high

def hourly : Recurrence :=
  ⟨[0], [0], full hours, full daysOfMonth, full months, full weekdays, full years⟩

def shorthands : List (String × Recurrence) := [
  ("@yearly", { hourly with hours := [0], daysOfMonth := [1], months := [1] }),
  ("@monthly", { hourly with hours := [0], daysOfMonth := [1] }),
  ("@weekly", { hourly with hours := [0], weekdays := [1] }),
  ("@daily", { hourly with hours := [0] }),
  ("@hourly", hourly)]

def readFields (cs : List Char) : Option Recurrence := do
  let (secs, cs) ← readField seconds cs
  let (mins, cs) ← readField minutes cs
  let (hrs, cs) ← readField hours cs
  let (doms, cs) ← readField daysOfMonth cs
  let (mons, cs) ← readField months cs
  let (dows, cs) ← readField weekdays cs
  match cs with
  | [] => some ⟨secs, mins, hrs, doms, mons, dows, full years⟩
  | cs =>
    let (yrs, cs) ← readField years cs
    if cs.isEmpty then some ⟨secs, mins, hrs, doms, mons, dows, yrs⟩ else none

/-- Reads an expression that names every field from the second on, or a shorthand. -/
def parse? (s : String) : Option Recurrence :=
  let bare := (skipSpace (skipSpace s.toList).reverse).reverse
  (shorthands.lookup (String.ofList bare)).orElse fun _ => readFields s.toList

/-- An expression of five words starts at the minute; second 0 is put in front. -/
def normalize (s : String) : String :=
  let s := Text.trim s
  if (Text.words s).length = 5 then "0 " ++ s else s

end DeviceWatch.Cron
