import DeviceWatch.Json.Record
import DeviceWatch.Text.Digits

/-!
Instants of universal time, spans of time, and their texts.

An instant is a second since the start of 1970, in days of equal length, with a part of it that may
run into a leap second.  Its text is RFC 3339 in UTC with no fraction, or the shortest of three, six
or nine digits that is exact.
-/

namespace DeviceWatch

/-- A time since 1970-01-01T00:00:00Z.  Every second has room for two thousand million nanoseconds,
the latter half of which are those of a leap second that follows it.  So the order of instants is
that of their ticks: a leap second comes before the start of the next minute. -/
structure Instant where
  ticks : Int
  deriving DecidableEq, Inhabited

structure Span where
  nanos : Nat
  deriving DecidableEq, Inhabited

namespace Span

def ofSecs (n : Nat) : Span := ⟨n * 1000000000⟩

def ofMillis (n : Nat) : Span := ⟨n * 1000000⟩

def secs (d : Span) : Nat := d.nanos / 1000000000

def millis (d : Span) : Nat := d.nanos / 1000000

/-- A fraction of `places` digits without its final zeros, preceded by a point. -/
def fraction (places n : Nat) : String :=
  let digits := (Nat.toDigits 10 (Nat.pow 10 places + n)).drop 1
  match (digits.reverse.dropWhile (· = '0')).reverse with
  | [] => ""
  | kept => "." ++ String.ofList kept

/-- The span in the largest unit that it fills, with an exact fraction. -/
def text (d : Span) : String :=
  if d.nanos ≥ 1000000000 then
    toString (d.nanos / 1000000000) ++ fraction 9 (d.nanos % 1000000000) ++ "s"
  else if d.nanos ≥ 1000000 then
    toString (d.nanos / 1000000) ++ fraction 6 (d.nanos % 1000000) ++ "ms"
  else if d.nanos ≥ 1000 then
    toString (d.nanos / 1000) ++ fraction 3 (d.nanos % 1000) ++ "µs"
  else toString d.nanos ++ "ns"

end Span

structure CalendarDay where
  year : Int
  month : Nat
  day : Nat
  deriving DecidableEq

namespace CalendarDay

def isLeap (year : Int) : Bool := year % 4 == 0 && (year % 100 != 0 || year % 400 == 0)

def monthLength (year : Int) (month : Nat) : Nat :=
  if month = 2 then (if isLeap year then 29 else 28)
  else if month = 4 ∨ month = 6 ∨ month = 9 ∨ month = 11 then 30
  else 31

/-- Days from 1970-01-01, counting years from March so that a leap day comes last. -/
def toDays (d : CalendarDay) : Int :=
  let year := if d.month ≤ 2 then d.year - 1 else d.year
  let era := year / 400
  let yearOfEra := year % 400
  let monthOfYear : Int := (d.month + 9) % 12
  let dayOfYear := (153 * monthOfYear + 2) / 5 + d.day - 1
  era * 146097 + (yearOfEra * 365 + yearOfEra / 4 - yearOfEra / 100 + dayOfYear) - 719468

def ofDays (days : Int) : CalendarDay :=
  let shifted := days + 719468
  let era := shifted / 146097
  let dayOfEra := shifted % 146097
  let yearOfEra :=
    (dayOfEra - dayOfEra / 1460 + dayOfEra / 36524 - dayOfEra / 146096) / 365
  let dayOfYear := dayOfEra - (365 * yearOfEra + yearOfEra / 4 - yearOfEra / 100)
  let monthOfYear := (5 * dayOfYear + 2) / 153
  let day := dayOfYear - (153 * monthOfYear + 2) / 5 + 1
  let month := if monthOfYear < 10 then monthOfYear + 3 else monthOfYear - 9
  let year := yearOfEra + era * 400 + (if month ≤ 2 then 1 else 0)
  ⟨year, month.toNat, day.toNat⟩

/-- The day of the week, from 1 for Sunday to 7 for Saturday. -/
def weekday (days : Int) : Nat := ((days + 4) % 7).toNat + 1

end CalendarDay

namespace Instant

def nanosPerSec : Int := 1000000000

def secsPerDay : Int := 86400

def ticksPerSec : Int := 2000000000

instance : LE Instant := ⟨fun a b => a.ticks ≤ b.ticks⟩

instance : LT Instant := ⟨fun a b => a.ticks < b.ticks⟩

instance (a b : Instant) : Decidable (a ≤ b) := inferInstanceAs (Decidable (a.ticks ≤ b.ticks))

instance (a b : Instant) : Decidable (a < b) := inferInstanceAs (Decidable (a.ticks < b.ticks))

instance : Std.IsLinearOrder Instant where
  le_refl a := Int.le_refl a.ticks
  le_trans _ _ _ := Int.le_trans
  le_antisymm | ⟨_⟩, ⟨_⟩, ab, ba => congrArg Instant.mk (Int.le_antisymm ab ba)
  le_total a b := Int.le_total a.ticks b.ticks

instance : Std.LawfulOrderLT Instant where
  lt_iff _ _ := Int.lt_iff_le_and_not_ge

/-- The instant `part` nanoseconds after the start of a second. -/
def ofParts (secs part : Int) : Instant := ⟨secs * ticksPerSec + part⟩

/-- Whole seconds since the epoch, rounded down. -/
def unixSecs (t : Instant) : Int := t.ticks / ticksPerSec

def part (t : Instant) : Int := t.ticks % ticksPerSec

def isLeap (t : Instant) : Bool := decide (nanosPerSec ≤ t.part)

def timeOfDay (t : Instant) : Int := t.unixSecs % secsPerDay

/-- Nanoseconds since the epoch, where a leap second is counted like the second after it. -/
def nanos (t : Instant) : Int := t.unixSecs * nanosPerSec + t.part

/-- The instant a number of nanoseconds after the epoch, outside any leap second. -/
def ofNanos (n : Int) : Instant := ofParts (n / nanosPerSec) (n % nanosPerSec)

/-- The same count of nanoseconds outside any leap second, as clocks show it. -/
def settled (t : Instant) : Instant := ofNanos t.nanos

def add (t : Instant) (d : Span) : Instant := ofNanos (t.nanos + d.nanos)

def sub (t : Instant) (d : Span) : Instant := ofNanos (t.nanos - d.nanos)

/-- Nanoseconds from `t` to `u`.  The leap second that the earlier time of day lies in is counted
with it. -/
def nanosUntil (t u : Instant) : Int :=
  let passed : Int :=
    if t.timeOfDay < u.timeOfDay ∧ t.isLeap then 1
    else if u.timeOfDay < t.timeOfDay ∧ u.isLeap then -1
    else 0
  (u.unixSecs - t.unixSecs + passed) * nanosPerSec + (u.part - t.part)

/-- Whole seconds from `t` to `u`, rounded toward zero. -/
def secsUntil (t u : Instant) : Int := (t.nanosUntil u).tdiv nanosPerSec

def millisUntil (t u : Instant) : Nat := (t.nanosUntil u / 1000000).toNat

def padded (width n : Nat) : String :=
  let digits := Nat.toDigits 10 n
  String.ofList (List.replicate (width - digits.length) '0' ++ digits)

def yearText (year : Int) : String :=
  if 0 ≤ year ∧ year ≤ 9999 then padded 4 year.toNat
  else (if year < 0 then "-" else "+") ++ padded 4 year.natAbs

def fractionText (nanos : Nat) : String :=
  if nanos = 0 then ""
  else if nanos % 1000000 = 0 then "." ++ padded 3 (nanos / 1000000)
  else if nanos % 1000 = 0 then "." ++ padded 6 (nanos / 1000)
  else "." ++ padded 9 nanos

/-- A leap second is the one numbered 60 of its minute. -/
def text (t : Instant) : String :=
  let day := CalendarDay.ofDays (t.unixSecs / secsPerDay)
  let time := t.timeOfDay.toNat
  let second := time % 60 + (if t.isLeap then 1 else 0)
  yearText day.year ++ "-" ++ padded 2 day.month ++ "-" ++ padded 2 day.day ++ "T" ++
    padded 2 (time / 3600) ++ ":" ++ padded 2 (time / 60 % 60) ++ ":" ++ padded 2 second ++
    fractionText (t.part % nanosPerSec).toNat ++ "Z"

/-! A time text is read leniently: blanks may stand around the parts, and numbers may be shorter than
they are printed.  Second 60 is a leap second, in any minute.  Years run from -262143 to 262142, in
local time and in universal time. -/

def firstSecond : Int := CalendarDay.toDays ⟨-262143, 1, 1⟩ * secsPerDay

def endSecond : Int := CalendarDay.toDays ⟨262143, 1, 1⟩ * secsPerDay

def readDigits (max : Nat) (cs : List Char) : Option (Nat × List Char) :=
  match (cs.take max).takeWhile Char.isDigit with
  | [] => none
  | digits =>
    some (Text.decimalValue digits, cs.drop digits.length)

/-- A number within bounds, after blanks. -/
def readPart (low high : Nat) (cs : List Char) : Option (Nat × List Char) := do
  let (n, rest) ← readDigits 2 (Text.trimStart cs)
  if low ≤ n ∧ n ≤ high then some (n, rest) else none

/-- A year of four digits, or one of any length after its sign. -/
def readYear (cs : List Char) : Option (Int × List Char) :=
  match Text.trimStart cs with
  | '-' :: rest => do
    let (n, rest) ← readDigits rest.length rest
    if n ≤ 262143 then some (-(n : Int), rest) else none
  | '+' :: rest => do
    let (n, rest) ← readDigits rest.length rest
    if n ≤ 262142 then some ((n : Int), rest) else none
  | cs => (readDigits 4 cs).map fun (n, rest) => ((n : Int), rest)

def readMark (mark : Char) (cs : List Char) : Option (List Char) :=
  match Text.trimStart cs with
  | c :: rest => if c = mark then some (Text.trimStart rest) else none
  | [] => none

/-- The nanoseconds of a fraction; digits beyond the ninth are dropped. -/
def readFraction : List Char → Option (Nat × List Char)
  | '.' :: rest => do
    let (n, after) ← readDigits 9 rest
    let used := rest.length - after.length
    some (n * Nat.pow 10 (9 - used), after.dropWhile Char.isDigit)
  | rest => some (0, rest)

/-- The seconds east of Greenwich of an offset. -/
def readOffset (cs : List Char) : Option (Int × List Char) :=
  match cs with
  | 'Z' :: rest => some (0, rest)
  | 'z' :: rest => some (0, rest)
  | sign :: h1 :: h2 :: rest =>
    let negative := sign = '-' ∨ sign.toNat = 0x2212
    if ¬(negative ∨ sign = '+') ∨ !h1.isDigit ∨ !h2.isDigit then none
    else
      match rest.dropWhile fun c => c = ':' || Text.isBlank c with
      | m1 :: m2 :: rest =>
        if m1.isDigit ∧ m2.isDigit ∧ m1 ≤ '5' then
          let secs : Int := Text.decimalValue [h1, h2] * 3600 + Text.decimalValue [m1, m2] * 60
          if secs < secsPerDay then some (if negative then -secs else secs, rest) else none
        else none
      | _ => none
  | _ => none

/-- An offset, or the letters UTC in any case. -/
def readZone (cs : List Char) : Option (Int × List Char) :=
  let cs := Text.trimStart cs
  if (cs.take 3).map Char.toUpper = ['U', 'T', 'C'] then
    some (0, cs.drop 3)
  else readOffset cs

def parse? (s : String) : Option Instant := do
  let (year, rest) ← readYear s.toList
  let rest ← readMark '-' rest
  let (month, rest) ← readPart 1 12 rest
  let rest ← readMark '-' rest
  let (day, rest) ← readPart 1 31 rest
  let rest ← match rest with
    | c :: rest => if c = 'T' ∨ c = 't' ∨ c = ' ' then some rest else none
    | [] => none
  let (hour, rest) ← readPart 0 23 rest
  let rest ← readMark ':' rest
  let (minute, rest) ← readPart 0 59 rest
  let rest ← readMark ':' rest
  let (second, rest) ← readPart 0 60 rest
  let (fraction, rest) ← readFraction rest
  let (offset, rest) ← readZone rest
  let days := CalendarDay.toDays ⟨year, month, day⟩
  let secs : Int := days * secsPerDay + hour * 3600 + minute * 60 + min second 59 - offset
  if day ≤ CalendarDay.monthLength year month ∧ Text.trimStart rest = [] ∧
      firstSecond ≤ secs ∧ secs < endSecond then
    some (ofParts secs (if second = 60 then nanosPerSec + fraction else fraction))
  else none

def toJson (t : Instant) : Json := .str t.text

def read : Json → Read Instant
  | .str s => match parse? s with
    | some t => .ok t
    | none => .error .malformed
  | _ => .error .wrongType

end Instant

end DeviceWatch
