import DeviceWatch.Time

/-!
Recurring times: the sets of seconds, minutes, hours, days, months and years at which something
happens, and the next instant after a given one at which all of them agree.
-/

namespace DeviceWatch

/-- The admitted values of each field, in increasing order.  A weekday runs from 1 for Sunday to 7
for Saturday; both the day of the month and the weekday have to match. -/
structure Recurrence where
  seconds : List Nat
  minutes : List Nat
  hours : List Nat
  daysOfMonth : List Nat
  months : List Nat
  weekdays : List Nat
  years : List Nat
  deriving DecidableEq

namespace Recurrence

/-- Whether the recurrence takes place on a day, counted from 1970-01-01. -/
def onDay (r : Recurrence) (days : Int) : Bool :=
  let d := CalendarDay.ofDays days
  r.months.contains d.month && r.daysOfMonth.contains d.day &&
    r.weekdays.contains (CalendarDay.weekday days) && r.years.any fun y => (y : Int) == d.year

def atTime (r : Recurrence) (time : Nat) : Bool :=
  r.hours.contains (time / 3600) && r.minutes.contains (time / 60 % 60) &&
    r.seconds.contains (time % 60)

/-- Whether an instant is one of the recurrence: a whole second at which every field agrees. -/
def includes (r : Recurrence) (t : Instant) : Bool :=
  t.part == 0 && r.onDay (t.unixSecs / Instant.secsPerDay) && r.atTime t.timeOfDay.toNat

def firstTime? (r : Recurrence) (time : Nat) : Option Nat :=
  r.hours.findSome? fun h =>
    if h * 3600 + 3599 < time then none
    else r.minutes.findSome? fun m =>
      if h * 3600 + m * 60 + 59 < time then none
      else (r.seconds.map fun s => h * 3600 + m * 60 + s).find? fun found => decide (time ≤ found)

/-- The last day on which anything recurs: the end of the year 2100. -/
def lastDay : Int := CalendarDay.toDays ⟨2100, 12, 31⟩

/-- The first second of the recurrence on one of `fuel` days from `days` on, each taken whole. -/
def firstFrom (r : Recurrence) : Nat → Int → Option Int
  | 0, _ => none
  | fuel + 1, days =>
    match if r.onDay days then r.firstTime? 0 else none with
    | some time => some (days * Instant.secsPerDay + time)
    | none => firstFrom r fuel (days + 1)

def firstDay : Int := 0

/-- The first instant of the recurrence strictly after `t`.  Nothing follows an instant before the
year 0. -/
def next? (r : Recurrence) (t : Instant) : Option Instant :=
  let start := t.unixSecs + 1
  let days := start / Instant.secsPerDay
  let today :=
    if r.onDay days ∧ days ≤ lastDay then r.firstTime? (start % Instant.secsPerDay).toNat else none
  let secs := match today with
    | some time => some (days * Instant.secsPerDay + time)
    | none =>
      let following := max (days + 1) firstDay
      r.firstFrom (lastDay + 1 - following).toNat following
  if (CalendarDay.ofDays days).year < 0 then none
  else secs.map fun n => .ofParts n 0

end Recurrence

end DeviceWatch
