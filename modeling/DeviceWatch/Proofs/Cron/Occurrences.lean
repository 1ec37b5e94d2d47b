import DeviceWatch.Cron.Expression
import DeviceWatch.Proofs.Lists

/-!
# The next occurrence

What is read from a cron expression has its values in order and within their fields.  For such a
recurrence the search for the next instant finds the earliest one after a given instant, and finds
nothing only if there is none.
-/

namespace DeviceWatch

/-- What was found is the least value with the property, or nothing has it. -/
def IsFirst {α : Type} [LE α] (p : α → Prop) : Option α → Prop
  | some a => p a ∧ ∀ b, p b → a ≤ b
  | none => ∀ b, ¬p b

namespace IsFirst

variable {α : Type} [LE α] {p q : α → Prop} {found other : Option α}

theorem congr (first : IsFirst p found) (same : ∀ a, q a ↔ p a) : IsFirst q found := by
  have equal : q = p := funext fun a => propext (same a)
  rwa [equal]

/-- Where to look after a first search that found nothing. -/
theorem or (first : IsFirst p found) (second : IsFirst q other)
    (before : ∀ a b, p a → q b → a ≤ b) : IsFirst (fun a => p a ∨ q a) (found.or other) := by
  cases found with
  | some a =>
    refine ⟨.inl first.1, fun b either => ?_⟩
    rcases either with here | there
    · exact first.2 b here
    · exact before a b first.1 there
  | none =>
    cases other with
    | some b =>
      refine ⟨.inr second.1, fun c either => ?_⟩
      exact second.2 c (either.resolve_left (first c))
    | none => exact fun c either => either.elim (first c) (second c)

theorem map {β : Type} [LE β] {f : α → β} (first : IsFirst p found) (increasing : ∀ a b, a ≤ b → f a ≤ f b) :
    IsFirst (fun y => ∃ a, p a ∧ f a = y) (found.map f) := by
  cases found with
  | some a =>
    refine ⟨⟨a, first.1, rfl⟩, ?_⟩
    rintro y ⟨b, holds, rfl⟩
    exact increasing a b (first.2 b holds)
  | none =>
    rintro y ⟨b, holds, rfl⟩
    exact first b holds

/-- A search that goes through a list, and at each element finds the first of what it stands for. -/
theorem findSome? {β : Type} {l : List β} {f : β → Option α} {p : β → α → Prop}
    (each : ∀ b ∈ l, IsFirst (p b) (f b))
    (sorted : l.Pairwise fun b c => ∀ x y, p b x → p c y → x ≤ y) :
    IsFirst (fun x => ∃ b ∈ l, p b x) (l.findSome? f) := by
  induction l with
  | nil => exact fun x ⟨b, there, _⟩ => absurd there (List.not_mem_nil)
  | cons b l ih =>
    obtain ⟨after, sorted⟩ := List.pairwise_cons.mp sorted
    have later := ih (fun c there => each c (.tail _ there)) sorted
    have both := (each b List.mem_cons_self).or later fun x y here ⟨c, there, holds⟩ =>
      after c there x y here holds
    have search : (b :: l).findSome? f = (f b).or (l.findSome? f) := by
      rw [List.findSome?_cons]
      cases f b <;> rfl
    rw [search]
    exact both.congr fun x => by simp

theorem find? {l : List Nat} (sorted : l.Pairwise (· < ·)) (p : Nat → Bool) :
    IsFirst (fun n => n ∈ l ∧ p n = true) (l.find? p) := by
  induction l with
  | nil => exact fun n here => absurd here.1 List.not_mem_nil
  | cons m l ih =>
    obtain ⟨after, sorted⟩ := List.pairwise_cons.mp sorted
    cases passes : p m with
    | true =>
      rw [List.find?_cons_of_pos passes]
      refine ⟨⟨List.mem_cons_self, passes⟩, fun n here => ?_⟩
      rcases List.mem_cons.mp here.1 with same | later
      · exact Nat.le_of_eq same.symm
      · exact Nat.le_of_lt (after n later)
    | false =>
      rw [List.find?_cons_of_neg (by simp [passes])]
      refine (ih sorted).congr fun n => ?_
      rw [List.mem_cons]
      constructor
      · rintro ⟨rfl | there, holds⟩
        · rw [passes] at holds
          cases holds
        · exact ⟨there, holds⟩
      · exact fun ⟨there, holds⟩ => ⟨.inr there, holds⟩

end IsFirst

namespace Cron

structure FieldKind.Holds (kind : FieldKind) (values : List Nat) : Prop where
  sorted : values.Pairwise (· < ·)
  bounded : ∀ n ∈ values, kind.low ≤ n ∧ n ≤ kind.high

variable {kind : FieldKind}

theorem FieldKind.holds_filter {values : List Nat} (holds : kind.Holds values) (p : Nat → Bool) :
    kind.Holds (values.filter p) :=
  ⟨holds.sorted.filter p, fun n there => holds.bounded n (List.mem_filter.mp there).1⟩

theorem FieldKind.holds_full (kind : FieldKind) : kind.Holds (full kind) := by
  constructor
  · refine List.pairwise_map.mpr (List.pairwise_lt_range.imp fun before => ?_)
    omega
  · intro n there
    obtain ⟨i, below, rfl⟩ := List.mem_map.mp there
    have := List.mem_range.mp below
    omega

theorem fieldValues_holds {terms : List Term} {values : List Nat}
    (read : fieldValues kind terms = some values) : kind.Holds values := by
  obtain ⟨sets, -, filtered⟩ := Option.bind_eq_some_iff.mp read
  rw [← Option.some.inj filtered]
  exact FieldKind.holds_filter kind.holds_full _

theorem readField_holds {cs rest : List Char} {values : List Nat}
    (read : readField kind cs = some (values, rest)) : kind.Holds values := by
  obtain ⟨⟨terms, after⟩, -, read⟩ := Option.bind_eq_some_iff.mp read
  obtain ⟨values', filled, read⟩ := Option.bind_eq_some_iff.mp read
  cases read
  exact fieldValues_holds filled

end Cron

/-- The values that matter for the time of day are in order, and the years are those of the field. -/
structure Recurrence.Regular (r : Recurrence) : Prop where
  seconds : Cron.seconds.Holds r.seconds
  minutes : Cron.minutes.Holds r.minutes
  hours : Cron.hours.Holds r.hours
  years : Cron.years.Holds r.years

namespace Cron

theorem shorthands_regular : ∀ e ∈ shorthands, e.2.Regular := by
  have zero {kind : FieldKind} (low : kind.low = 0) : kind.Holds [0] :=
    ⟨List.pairwise_singleton _ _, fun n there => by simp_all⟩
  have regular (r : Recurrence) (minute : r.minutes = [0]) (second : r.seconds = [0])
      (hour : r.hours = [0] ∨ r.hours = full hours) (year : r.years = full years) : r.Regular := by
    refine ⟨second ▸ zero rfl, minute ▸ zero rfl, ?_, year ▸ years.holds_full⟩
    rcases hour with midnight | every
    · exact midnight ▸ zero rfl
    · exact every ▸ hours.holds_full
  intro e there
  simp only [shorthands, List.mem_cons, List.not_mem_nil, or_false] at there
  rcases there with rfl | rfl | rfl | rfl | rfl <;> exact regular _ rfl rfl (by simp [hourly]) rfl

theorem readFields_regular {cs : List Char} {r : Recurrence} (read : readFields cs = some r) :
    r.Regular := by
  obtain ⟨⟨secs, _⟩, ofSecs, read⟩ := Option.bind_eq_some_iff.mp read
  obtain ⟨⟨mins, _⟩, ofMins, read⟩ := Option.bind_eq_some_iff.mp read
  obtain ⟨⟨hrs, _⟩, ofHrs, read⟩ := Option.bind_eq_some_iff.mp read
  obtain ⟨⟨doms, _⟩, -, read⟩ := Option.bind_eq_some_iff.mp read
  obtain ⟨⟨mons, _⟩, -, read⟩ := Option.bind_eq_some_iff.mp read
  obtain ⟨⟨dows, cs⟩, -, read⟩ := Option.bind_eq_some_iff.mp read
  have times := And.intro (readField_holds ofSecs) (And.intro (readField_holds ofMins)
    (readField_holds ofHrs))
  cases cs with
  | nil =>
    cases read
    exact ⟨times.1, times.2.1, times.2.2, years.holds_full⟩
  | cons c cs =>
    obtain ⟨⟨yrs, rest⟩, ofYrs, read⟩ := Option.bind_eq_some_iff.mp read
    simp only at read
    split at read
    · cases read
      exact ⟨times.1, times.2.1, times.2.2, readField_holds ofYrs⟩
    · cases read

theorem parse?_regular {s : String} {r : Recurrence} (read : parse? s = some r) : r.Regular := by
  unfold parse? at read
  dsimp only at read
  cases named : shorthands.lookup (String.ofList (skipSpace (skipSpace s.toList).reverse).reverse) with
  | some known =>
    rw [named] at read
    cases read
    obtain ⟨before, after, split, -⟩ := List.lookup_eq_some_iff.mp named
    exact shorthands_regular _ (split ▸ List.mem_append_right before List.mem_cons_self)
  | none =>
    rw [named] at read
    exact readFields_regular read

end Cron

namespace CalendarDay

theorem year_ofDays_nonneg {days : Int} (recent : -300 ≤ days) : 0 ≤ (ofDays days).year := by
  simp only [ofDays]
  omega

theorem year_ofDays_of_neg {days : Int} (early : days < 0) : (ofDays days).year < 1970 := by
  simp only [ofDays]
  generalize split : (days + 719468) % 146097 = dayOfEra
  generalize era' : (days + 719468) / 146097 = era
  generalize year' :
    (dayOfEra - dayOfEra / 1460 + dayOfEra / 36524 - dayOfEra / 146096) / 365 = yearOfEra
  have before : yearOfEra + era * 400 ≤ 1969 := by omega
  rcases Int.lt_or_eq_of_le before with lower | last
  · split <;> omega
  · -- A year is counted from March, so the last one before the epoch ends in February 1970.
    have here : era = 4 ∧ yearOfEra = 369 := by omega
    obtain ⟨rfl, rfl⟩ := here
    omega

theorem year_ofDays_of_late {days : Int} (late : Recurrence.lastDay < days) :
    2100 < (ofDays days).year := by
  have last : Recurrence.lastDay = 47846 := by decide
  rw [last] at late
  simp only [ofDays]
  omega

end CalendarDay

namespace Recurrence

variable {r : Recurrence}

theorem atTime_eq_true {time : Nat} :
    r.atTime time = true ↔
      time / 3600 ∈ r.hours ∧ time / 60 % 60 ∈ r.minutes ∧ time % 60 ∈ r.seconds := by
  simp [atTime, and_assoc]

/-- The first second of a minute that is not before `time`. -/
theorem isFirst_second (regular : r.Regular) (minute time : Nat) :
    IsFirst (fun x => x / 60 = minute ∧ x % 60 ∈ r.seconds ∧ time ≤ x)
      ((r.seconds.map fun s => minute * 60 + s).find? fun found => decide (time ≤ found)) := by
  have bounded := regular.seconds.bounded
  have stands (x : Nat) : x / 60 = minute ∧ x % 60 ∈ r.seconds ↔
      ∃ s ∈ r.seconds, minute * 60 + s = x := by
    constructor
    · rintro ⟨rfl, there⟩
      exact ⟨x % 60, there, by omega⟩
    · rintro ⟨s, there, rfl⟩
      have below : s ≤ 59 := (bounded s there).2
      have quotient : (minute * 60 + s) / 60 = minute := by omega
      have remainder : (minute * 60 + s) % 60 = s := by omega
      exact ⟨quotient, remainder.symm ▸ there⟩
  have sorted : (r.seconds.map fun s => minute * 60 + s).Pairwise (· < ·) :=
    List.pairwise_map.mpr (regular.seconds.sorted.imp fun before => Nat.add_lt_add_left before _)
  refine (IsFirst.find? sorted _).congr fun x => ?_
  rw [← and_assoc, stands, List.mem_map, decide_eq_true_iff]

theorem isFirst_minute (regular : r.Regular) (hour time : Nat) :
    IsFirst (fun x => x / 3600 = hour ∧ x / 60 % 60 ∈ r.minutes ∧ x % 60 ∈ r.seconds ∧ time ≤ x)
      (r.minutes.findSome? fun m =>
        if hour * 3600 + m * 60 + 59 < time then none
        else (r.seconds.map fun s => hour * 3600 + m * 60 + s).find?
          fun found => decide (time ≤ found)) := by
  have each (m : Nat) (_ : m ∈ r.minutes) :
      IsFirst (fun x => x / 60 = hour * 60 + m ∧ x % 60 ∈ r.seconds ∧ time ≤ x)
        (if hour * 3600 + m * 60 + 59 < time then none
        else (r.seconds.map fun s => hour * 3600 + m * 60 + s).find?
          fun found => decide (time ≤ found)) := by
    split
    · rintro x ⟨within, -, late⟩
      omega
    · have start : hour * 3600 + m * 60 = (hour * 60 + m) * 60 := by omega
      rw [start]
      exact isFirst_second regular _ time
  have search := IsFirst.findSome? each (regular.minutes.sorted.imp fun before x y here there => by
    omega)
  refine search.congr fun x => ?_
  constructor
  · rintro ⟨rfl, there, seconds, late⟩
    exact ⟨x / 60 % 60, there, by omega, seconds, late⟩
  · rintro ⟨m, there, within, seconds, late⟩
    have below : m ≤ 59 := (regular.minutes.bounded m there).2
    have minute : x / 60 % 60 = m := by omega
    exact ⟨by omega, minute.symm ▸ there, seconds, late⟩

theorem isFirst_firstTime? (regular : r.Regular) (time : Nat) :
    IsFirst (fun x => r.atTime x = true ∧ time ≤ x) (r.firstTime? time) := by
  have each (h : Nat) (_ : h ∈ r.hours) :
      IsFirst (fun x => x / 3600 = h ∧ x / 60 % 60 ∈ r.minutes ∧ x % 60 ∈ r.seconds ∧ time ≤ x)
        (if h * 3600 + 3599 < time then none
        else r.minutes.findSome? fun m =>
          if h * 3600 + m * 60 + 59 < time then none
          else (r.seconds.map fun s => h * 3600 + m * 60 + s).find?
            fun found => decide (time ≤ found)) := by
    split
    · rintro x ⟨within, -, -, late⟩
      omega
    · exact isFirst_minute regular h time
  have search := IsFirst.findSome? each (regular.hours.sorted.imp fun before x y here there => by
    omega)
  refine search.congr fun x => ?_
  rw [atTime_eq_true]
  constructor
  · rintro ⟨⟨there, minutes, seconds⟩, late⟩
    exact ⟨x / 3600, there, rfl, minutes, seconds, late⟩
  · rintro ⟨h, there, rfl, minutes, seconds, late⟩
    exact ⟨⟨there, minutes, seconds⟩, late⟩

def atSecond (r : Recurrence) (n : Int) : Bool :=
  r.onDay (n / Instant.secsPerDay) && r.atTime (n % Instant.secsPerDay).toNat

/-- The first second of a day that is not before a time of day. -/
theorem isFirst_onDay (regular : r.Regular) (days : Int) (time : Nat) :
    IsFirst (fun n => r.atSecond n = true ∧ n / Instant.secsPerDay = days ∧
        days * Instant.secsPerDay + time ≤ n)
      ((if r.onDay days then r.firstTime? time else none).map fun x : Nat =>
        days * Instant.secsPerDay + (x : Int)) := by
  have within {x : Nat} (there : r.atTime x = true) : x < 86400 := by
    have last : x / 3600 ≤ 23 := (regular.hours.bounded _ (atTime_eq_true.mp there).1).2
    omega
  split
  · rename_i on
    have search := (isFirst_firstTime? regular time).map (f := fun x : Nat =>
      days * Instant.secsPerDay + (x : Int)) fun a b before => by omega
    refine search.congr fun n => ?_
    constructor
    · rintro ⟨there, rfl, late⟩
      have split := Int.ediv_mul_add_emod n Instant.secsPerDay
      have nonneg : 0 ≤ n % Instant.secsPerDay := Int.emod_nonneg n (by decide)
      refine ⟨(n % Instant.secsPerDay).toNat, ⟨?_, by omega⟩, by omega⟩
      rw [atSecond, Bool.and_eq_true] at there
      exact there.2
    · rintro ⟨x, ⟨there, late⟩, rfl⟩
      have below := within there
      have quotient : (days * Instant.secsPerDay + x) / Instant.secsPerDay = days := by
        simp only [Instant.secsPerDay]
        omega
      have remainder : ((days * Instant.secsPerDay + x) % Instant.secsPerDay).toNat = x := by
        simp only [Instant.secsPerDay]
        omega
      rw [atSecond, quotient, remainder, on, there]
      exact ⟨rfl, rfl, by omega⟩
  · rename_i off
    rintro n ⟨there, rfl, -⟩
    rw [atSecond, Bool.and_eq_true] at there
    exact off there.1

theorem isFirst_firstFrom (regular : r.Regular) (fuel : Nat) (days : Int) :
    IsFirst (fun n => r.atSecond n = true ∧ days ≤ n / Instant.secsPerDay ∧
        n / Instant.secsPerDay < days + fuel)
      (r.firstFrom fuel days) := by
  induction fuel generalizing days with
  | zero => exact fun n ⟨_, from', until'⟩ => by omega
  | succ fuel ih =>
    have search : r.firstFrom (fuel + 1) days =
        ((if r.onDay days then r.firstTime? 0 else none).map fun x : Nat =>
          days * Instant.secsPerDay + (x : Int)).or (r.firstFrom fuel (days + 1)) := by
      rw [firstFrom]
      cases (if r.onDay days then r.firstTime? 0 else none) <;> rfl
    rw [search]
    have both := (isFirst_onDay regular days 0).or (ih (days + 1)) fun m n here there => by
      simp only [Instant.secsPerDay] at here there
      omega
    refine both.congr fun n => ?_
    simp only [Instant.secsPerDay]
    constructor
    · rintro ⟨there, from', until'⟩
      by_cases today : n / 86400 = days
      · exact .inl ⟨there, today, by omega⟩
      · exact .inr ⟨there, by omega, by omega⟩
    · rintro (⟨there, today, -⟩ | ⟨there, from', until'⟩)
      · exact ⟨there, by omega, by omega⟩
      · exact ⟨there, by omega, by omega⟩

theorem onDay_bounds (regular : r.Regular) {days : Int} (on : r.onDay days = true) :
    firstDay ≤ days ∧ days ≤ lastDay := by
  simp only [onDay, Bool.and_eq_true, List.any_eq_true, beq_iff_eq] at on
  obtain ⟨-, y, there, same⟩ := on
  have bounded : 1970 ≤ y ∧ y ≤ 2100 := regular.years.bounded y there
  constructor
  · refine Int.not_lt.mp fun early => ?_
    have := CalendarDay.year_ofDays_of_neg early
    omega
  · refine Int.not_lt.mp fun late => ?_
    have := CalendarDay.year_ofDays_of_late late
    omega

theorem atSecond_bounds (regular : r.Regular) {n : Int} (there : r.atSecond n = true) :
    firstDay ≤ n / Instant.secsPerDay ∧ n / Instant.secsPerDay ≤ lastDay :=
  onDay_bounds regular (Bool.and_eq_true _ _ ▸ there).1

/-- An instant of the recurrence is a whole second at which everything agrees. -/
theorem includes_iff {i : Instant} :
    r.includes i = true ↔ ∃ n, r.atSecond n = true ∧ Instant.ofParts n 0 = i := by
  have parts : i.unixSecs * Instant.ticksPerSec + i.part = i.ticks :=
    Int.ediv_mul_add_emod i.ticks Instant.ticksPerSec
  constructor
  · intro there
    simp only [includes, Bool.and_eq_true, beq_iff_eq] at there
    obtain ⟨⟨whole, on⟩, time⟩ := there
    refine ⟨i.unixSecs, by rw [atSecond, on]; exact time, ?_⟩
    rw [Instant.ofParts, ← whole, parts]
  · rintro ⟨n, there, rfl⟩
    have secs : (Instant.ofParts n 0).unixSecs = n := by
      simp [Instant.ofParts, Instant.unixSecs, Instant.ticksPerSec]
    have whole : (Instant.ofParts n 0).part = 0 := by
      simp [Instant.ofParts, Instant.part, Instant.ticksPerSec]
    rw [atSecond, Bool.and_eq_true] at there
    simp only [includes, whole, secs, Instant.timeOfDay, there.1, there.2]
    rfl

theorem ofParts_lt_iff {t : Instant} {n : Int} : t < Instant.ofParts n 0 ↔ t.unixSecs + 1 ≤ n := by
  show t.ticks < n * Instant.ticksPerSec + 0 ↔ t.ticks / Instant.ticksPerSec + 1 ≤ n
  simp only [Instant.ticksPerSec]
  omega

/-- The search in seconds: what is left of the day first, and then the days that follow. -/
def nextSecond? (r : Recurrence) (start : Int) : Option Int :=
  let days := start / Instant.secsPerDay
  let following := max (days + 1) firstDay
  ((if r.onDay days then r.firstTime? (start % Instant.secsPerDay).toNat else none).map
      fun x : Nat => days * Instant.secsPerDay + (x : Int)).or
    (r.firstFrom (lastDay + 1 - following).toNat following)

theorem isFirst_nextSecond? (regular : r.Regular) (start : Int) :
    IsFirst (fun n => r.atSecond n = true ∧ start ≤ n) (r.nextSecond? start) := by
  have today := isFirst_onDay regular (start / Instant.secsPerDay)
    (start % Instant.secsPerDay).toNat
  have following := isFirst_firstFrom regular
    (lastDay + 1 - max (start / Instant.secsPerDay + 1) firstDay).toNat
    (max (start / Instant.secsPerDay + 1) firstDay)
  refine (today.or following ?_).congr fun n => ?_
  · simp only [Instant.secsPerDay]
    intro m n here there
    omega
  · constructor
    · rintro ⟨there, late⟩
      have bounds := atSecond_bounds regular there
      simp only [Instant.secsPerDay] at bounds ⊢
      by_cases same : n / 86400 = start / 86400
      · exact .inl ⟨there, same, by omega⟩
      · exact .inr ⟨there, by omega, by omega⟩
    · simp only [Instant.secsPerDay]
      rintro (⟨there, same, late⟩ | ⟨there, from', -⟩)
      · exact ⟨there, by omega⟩
      · exact ⟨there, by omega⟩

/-- The day after which nothing is looked for matters to no regular recurrence. -/
theorem next?_eq (regular : r.Regular) (t : Instant) :
    r.next? t = if (CalendarDay.ofDays ((t.unixSecs + 1) / Instant.secsPerDay)).year < 0 then none
      else (r.nextSecond? (t.unixSecs + 1)).map fun n => Instant.ofParts n 0 := by
  have bounded {days : Int} : r.onDay days = true ∧ days ≤ lastDay ↔ r.onDay days = true :=
    and_iff_left_of_imp fun on => (onDay_bounds regular on).2
  simp only [next?, nextSecond?, bounded]
  split
  · rfl
  · cases (if r.onDay ((t.unixSecs + 1) / Instant.secsPerDay) then
      r.firstTime? ((t.unixSecs + 1) % Instant.secsPerDay).toNat else none) <;> rfl

/-- The next instant of a recurrence is the earliest of those after the given one, which must not lie
before the year 0. -/
theorem isFirst_next? (regular : r.Regular) {t : Instant}
    (era : 0 ≤ (CalendarDay.ofDays ((t.unixSecs + 1) / Instant.secsPerDay)).year) :
    IsFirst (fun i => r.includes i = true ∧ t < i) (r.next? t) := by
  have search := (isFirst_nextSecond? regular (t.unixSecs + 1)).map
    (f := fun n => Instant.ofParts n 0) fun a b before => by
      show a * Instant.ticksPerSec + 0 ≤ b * Instant.ticksPerSec + 0
      simp only [Instant.ticksPerSec]
      omega
  rw [next?_eq regular, if_neg (Int.not_lt.mpr era)]
  refine search.congr fun i => ?_
  rw [includes_iff]
  constructor
  · rintro ⟨⟨n, there, rfl⟩, late⟩
    exact ⟨n, ⟨there, ofParts_lt_iff.mp late⟩, rfl⟩
  · rintro ⟨n, ⟨there, late⟩, rfl⟩
    exact ⟨⟨n, there, rfl⟩, ofParts_lt_iff.mpr late⟩

theorem epoch_le_of_includes (regular : r.Regular) {i : Instant} (there : r.includes i = true) :
    0 ≤ i.unixSecs := by
  simp only [includes, Bool.and_eq_true] at there
  have first := (onDay_bounds regular there.1.2).1
  simp only [firstDay, Instant.secsPerDay] at first
  omega

theorem unixSecs_le {i t : Instant} (before : i ≤ t) : i.unixSecs ≤ t.unixSecs := by
  have order : i.ticks ≤ t.ticks := before
  simp only [Instant.unixSecs, Instant.ticksPerSec]
  omega

/-- The next instant after `t` tells whether there is an occurrence after `t` and not after `now`.
Where the search gives up, which is before the year 0, there is none if the interval is short. -/
theorem exists_next_le_iff (regular : r.Regular) {t now : Instant}
    (near : 0 ≤ t.unixSecs ∨ now.unixSecs ≤ t.unixSecs + 86401) :
    (∃ next, r.next? t = some next ∧ next ≤ now) ↔
      ∃ i, r.includes i = true ∧ t < i ∧ i ≤ now := by
  by_cases era : 0 ≤ (CalendarDay.ofDays ((t.unixSecs + 1) / Instant.secsPerDay)).year
  · have first := isFirst_next? regular era
    cases found : r.next? t with
    | none =>
      rw [found] at first
      refine iff_of_false (by simp) ?_
      rintro ⟨i, there, after, -⟩
      exact first i ⟨there, after⟩
    | some next =>
      rw [found] at first
      constructor
      · rintro ⟨n, same, before⟩
        obtain rfl := Option.some.inj same
        exact ⟨next, first.1.1, first.1.2, before⟩
      · rintro ⟨i, there, after, before⟩
        exact ⟨next, rfl, Std.le_trans (first.2 i ⟨there, after⟩) before⟩
  · have early : (t.unixSecs + 1) / Instant.secsPerDay < -300 :=
      Int.not_le.mp fun recent => era (CalendarDay.year_ofDays_nonneg recent)
    simp only [Instant.secsPerDay] at early
    refine iff_of_false ?_ ?_
    · rw [next?_eq regular, if_pos (Int.not_le.mp era)]
      simp
    · rintro ⟨i, there, -, before⟩
      have epoch := epoch_le_of_includes regular there
      have order := unixSecs_le before
      omega

end Recurrence

end DeviceWatch
