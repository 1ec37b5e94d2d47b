import DeviceWatch.Proofs.Schedule.Ticks

/-!
# Triggers of scheduled jobs

Ticks come at any times, and between them jobs are registered and toggled and anything happens to the
pool.  Each tick that reports a job serves the interval from the last trigger of the job to itself, or
from one day before itself at first.  These intervals follow one another, so an occurrence between the
first trigger and the last is served once, and what was refused is due until it is served.
-/

namespace DeviceWatch

def within (i : Instant) (interval : Instant × Instant) : Bool :=
  decide (interval.1 < i ∧ i ≤ interval.2)

/-- Each interval begins where the one before it ended, and none is empty. -/
structure Consecutive (intervals : List (Instant × Instant)) : Prop where
  linked : intervals.IsChain fun a b => a.2 = b.1
  nonempty : ∀ a ∈ intervals, a.1 < a.2

namespace Consecutive

theorem nil : Consecutive [] := ⟨.nil, fun _ there => nomatch there⟩

theorem cons {a : Instant × Instant} {rest : List (Instant × Instant)} (h : Consecutive rest)
    (filled : a.1 < a.2) (next : ∀ b, rest.head? = some b → a.2 = b.1) :
    Consecutive (a :: rest) := by
  refine ⟨?_, fun b there => ?_⟩
  · cases rest with
    | nil => exact .singleton a
    | cons b rest => exact List.isChain_cons_cons.mpr ⟨next b rfl, h.linked⟩
  · rcases List.mem_cons.mp there with rfl | later
    · exact filled
    · exact h.nonempty b later

theorem tail {a : Instant × Instant} {rest : List (Instant × Instant)}
    (h : Consecutive (a :: rest)) : Consecutive rest := by
  refine ⟨?_, fun b there => h.nonempty b (.tail _ there)⟩
  cases rest with
  | nil => exact .nil
  | cons b rest => exact (List.isChain_cons_cons.mp h.linked).2

/-- An instant lies in one of the intervals if it lies between the start of the first and the end of
the last, and in none otherwise. -/
theorem countP_within {intervals : List (Instant × Instant)} (h : Consecutive intervals)
    {first last : Instant × Instant} (head : intervals.head? = some first)
    (ending : intervals.getLast? = some last) (i : Instant) :
    first.1 < last.2 ∧
      intervals.countP (within i) = if first.1 < i ∧ i ≤ last.2 then 1 else 0 := by
  induction intervals generalizing first with
  | nil => cases head
  | cons a rest ih =>
    obtain rfl := Option.some.inj head
    have filled : a.1.ticks < a.2.ticks := h.nonempty a List.mem_cons_self
    cases rest with
    | nil =>
      obtain rfl := Option.some.inj ending
      refine ⟨filled, ?_⟩
      by_cases inside : a.1 < i ∧ i ≤ a.2 <;> simp [within, inside]
    | cons b rest =>
      rw [List.getLast?_cons_cons] at ending
      have linked : a.2 = b.1 := (List.isChain_cons_cons.mp h.linked).1
      obtain ⟨later, counted⟩ := ih h.tail rfl ending
      have later' : b.1.ticks < last.2.ticks := later
      rw [linked] at filled
      have both : a.1 < last.2 := Int.lt_trans filled later'
      refine ⟨both, ?_⟩
      rw [List.countP_cons, counted]
      simp only [within, decide_eq_true_iff, linked]
      show (if b.1.ticks < i.ticks ∧ i.ticks ≤ last.2.ticks then 1 else 0) +
          (if a.1.ticks < i.ticks ∧ i.ticks ≤ b.1.ticks then 1 else 0) =
        if a.1.ticks < i.ticks ∧ i.ticks ≤ last.2.ticks then 1 else 0
      split <;> split <;> split <;> omega

end Consecutive

inductive DispatchEvent where
  | tick (at' now : Instant)
  | register (spec : JobSpec) (cron : String) (enabled : Bool) (now : Instant)
  | toggle (name : String) (now : Instant)
  /-- Anything else: polls and jobs are requested, workers work, tasks end. -/
  | elsewhere (pool : Pool) (ids : IdSupply)

namespace Dispatcher

variable {d : Dispatcher} {name : String}

def reschedule (d : Dispatcher) : Outcome (ScheduledJob × Schedule) → Dispatcher
  | .ok (_, s) => { d with schedule := s }
  | .error _ => d

def step (d : Dispatcher) : DispatchEvent → Dispatcher
  | .tick at' now => (d.tick at' now).2
  | .register spec cron enabled now => d.reschedule (d.schedule.register spec cron enabled now)
  | .toggle name now => d.reschedule (d.schedule.toggle name now)
  | .elsewhere pool ids => { d with pool := pool, ids := ids }

def run (d : Dispatcher) (events : List DispatchEvent) : Dispatcher := events.foldl step d

def scheduled? (d : Dispatcher) (name : String) : Option ScheduleEntry := d.schedule.entries.find? name

def lastTrigger (d : Dispatcher) (name : String) : Option Instant :=
  (d.scheduled? name).bind (·.lastTriggered)

/-- The interval that an event serves for a job, if it is a tick that reports the job. -/
def serves? (d : Dispatcher) (name : String) : DispatchEvent → Option (Instant × Instant)
  | .tick at' now =>
    if (d.tick at' now).1.Reports name then
      (d.scheduled? name).map fun e => (e.servedUntil at', at')
    else none
  | _ => none

theorem step_tick (d : Dispatcher) (at' now : Instant) :
    d.step (.tick at' now) = (d.tick at' now).2 := rfl

theorem serves?_tick (d : Dispatcher) (name : String) (at' now : Instant) :
    d.serves? name (.tick at' now) =
      if (d.tick at' now).1.Reports name then
        (d.scheduled? name).map fun e => (e.servedUntil at', at')
      else none := rfl

/-- The intervals that the ticks of a run serve for a job, in order. -/
def served (d : Dispatcher) (name : String) : List DispatchEvent → List (Instant × Instant)
  | [] => []
  | event :: rest => (d.serves? name event).toList ++ (d.step event).served name rest

/-- What an event does to the entry of a job that was registered before. -/
inductive Changes (d : Dispatcher) (name : String) (event : DispatchEvent) (e : ScheduleEntry) :
    Prop where
  | served (at' now : Instant) (tick : event = .tick at' now)
      (reported : d.serves? name event = some (e.servedUntil at', at'))
      (due : e.HasOccurrence at')
      (after : (d.step event).scheduled? name = some { e with lastTriggered := some at' })
  | kept (e' : ScheduleEntry) (unserved : d.serves? name event = none)
      (after : (d.step event).scheduled? name = some e')
      (triggered : e'.lastTriggered = e.lastTriggered)
      (recurrence : (∀ spec cron enabled now, event = .register spec cron enabled now →
        spec.name ≠ name) → e'.recurrence = e.recurrence)

/-- A registration that is not refused writes one entry, which keeps the last trigger. -/
theorem step_register (d : Dispatcher) (spec : JobSpec) (cron : String) (enabled : Bool)
    (now : Instant) :
    d.step (.register spec cron enabled now) = d ∨
      ∃ e, e.lastTriggered = d.lastTrigger spec.name ∧ ∀ name,
        (d.step (.register spec cron enabled now)).scheduled? name =
          if name = spec.name then some e else d.scheduled? name := by
  simp only [step]
  cases done : d.schedule.register spec cron enabled now with
  | error problem => exact .inl rfl
  | ok r =>
    obtain ⟨e, written, -, -, triggered⟩ := Schedule.register_eq done
    refine .inr ⟨e, triggered, fun name => ?_⟩
    simp only [reschedule, scheduled?, written]
    exact OrderedMap.find?_insert _ _ _ _

theorem step_toggle (d : Dispatcher) (job : String) (now : Instant) :
    d.step (.toggle job now) = d ∨
      ∃ e, d.scheduled? job = some e ∧ ∀ name, (d.step (.toggle job now)).scheduled? name =
        if name = job then some { e with enabled := !e.enabled } else d.scheduled? name := by
  simp only [step]
  cases done : d.schedule.toggle job now with
  | error problem => exact .inl rfl
  | ok r =>
    obtain ⟨e, stored, written⟩ := Schedule.toggle_eq done
    refine .inr ⟨e, stored, fun name => ?_⟩
    simp only [reschedule, scheduled?, written]
    exact OrderedMap.find?_insert _ _ _ _

theorem changes_step (h : d.schedule.Sound) {e : ScheduleEntry} (found : d.scheduled? name = some e)
    (event : DispatchEvent) : d.Changes name event e := by
  cases event with
  | tick at' now =>
    obtain ⟨skipped, dispatched, recorded⟩ := serves_tick h found at' now
    rw [← scheduled?, ← step_tick] at recorded
    by_cases reported : (d.tick at' now).1.Reports name
    · rw [if_pos reported] at recorded
      have due : e.enabled = true ∧ e.HasOccurrence at' :=
        reported.elim (fun there => (dispatched.mp there).1) fun there => (skipped.mp there).1
      refine .served at' now rfl ?_ due.2 recorded
      rw [serves?_tick, if_pos reported, found, Option.map_some]
    · rw [if_neg reported] at recorded
      refine .kept e ?_ recorded rfl fun _ => rfl
      rw [serves?_tick, if_neg reported]
  | register spec cron enabled now =>
    rcases d.step_register spec cron enabled now with same | ⟨e', triggered, after⟩
    · exact .kept e rfl (by rw [same, found]) rfl fun _ => rfl
    · by_cases named : name = spec.name
      · refine .kept e' rfl (by rw [after, if_pos named]) ?_ fun other => ?_
        · rw [triggered, ← named, lastTrigger, found, Option.bind_some]
        · exact absurd named.symm (other spec cron enabled now rfl)
      · exact .kept e rfl (by rw [after, if_neg named, found]) rfl fun _ => rfl
  | toggle job now =>
    rcases d.step_toggle job now with same | ⟨old, stored, after⟩
    · exact .kept e rfl (by rw [same, found]) rfl fun _ => rfl
    · by_cases named : name = job
      · rw [← named, found] at stored
        obtain rfl := Option.some.inj stored
        exact .kept { e with enabled := !e.enabled } rfl (by rw [after, if_pos named]) rfl fun _ => rfl
      · exact .kept e rfl (by rw [after, if_neg named, found]) rfl fun _ => rfl
  | elsewhere pool ids => exact .kept e rfl found rfl fun _ => rfl

theorem unregistered_step (h : d.schedule.Sound) (absent : d.scheduled? name = none)
    (event : DispatchEvent) :
    d.serves? name event = none ∧ (d.step event).lastTrigger name = none := by
  have untriggered : d.lastTrigger name = none := by rw [lastTrigger, absent, Option.bind_none]
  cases event with
  | tick at' now =>
    refine ⟨by simp [serves?_tick, absent], ?_⟩
    rw [lastTrigger, step_tick, scheduled?, find?_tick_of_absent h absent, Option.bind_none]
  | register spec cron enabled now =>
    refine ⟨rfl, ?_⟩
    rcases d.step_register spec cron enabled now with same | ⟨e, triggered, after⟩
    · rw [same, untriggered]
    · rw [lastTrigger, after]
      by_cases named : name = spec.name
      · rw [if_pos named, Option.bind_some, triggered, ← named, untriggered]
      · rw [if_neg named, absent, Option.bind_none]
  | toggle job now =>
    refine ⟨rfl, ?_⟩
    rcases d.step_toggle job now with same | ⟨e, stored, after⟩
    · rw [same, untriggered]
    · by_cases named : name = job
      · rw [← named, absent] at stored
        cases stored
      · rw [lastTrigger, after, if_neg named, absent, Option.bind_none]
  | elsewhere pool ids => exact ⟨rfl, untriggered⟩

theorem sound_step (h : d.schedule.Sound) (event : DispatchEvent) :
    (d.step event).schedule.Sound := by
  cases event with
  | tick at' now => exact sound_tick h at' now
  | register spec cron enabled now =>
    simp only [step]
    cases done : d.schedule.register spec cron enabled now with
    | error problem => exact h
    | ok r => exact h.register done
  | toggle job now =>
    simp only [step]
    cases done : d.schedule.toggle job now with
    | error problem => exact h
    | ok r => exact h.toggle done
  | elsewhere pool ids => exact h

theorem sound_run (h : d.schedule.Sound) (events : List DispatchEvent) :
    (d.run events).schedule.Sound := by
  induction events generalizing d with
  | nil => exact h
  | cons event events ih => exact ih (sound_step h event)

/-- An event that serves an interval takes up where the last trigger was, and is the last trigger
then; any other event keeps the last trigger. -/
theorem lastTrigger_step (h : d.schedule.Sound) (name : String) (event : DispatchEvent) :
    (d.serves? name event = none ∧ (d.step event).lastTrigger name = d.lastTrigger name) ∨
      ∃ interval, d.serves? name event = some interval ∧ interval.1 < interval.2 ∧
        (∀ last, d.lastTrigger name = some last → interval.1 = last) ∧
        (d.step event).lastTrigger name = some interval.2 := by
  cases found : d.scheduled? name with
  | none =>
    obtain ⟨unserved, after⟩ := unregistered_step h found event
    exact .inl ⟨unserved, by rw [after, lastTrigger, found, Option.bind_none]⟩
  | some e =>
    cases changes_step h found event with
    | served at' now tick reported due after =>
      refine .inr ⟨_, reported, due.servedUntil_lt, fun last triggered => ?_, ?_⟩
      · rw [lastTrigger, found, Option.bind_some] at triggered
        simp only [ScheduleEntry.servedUntil, triggered, Option.getD_some]
      · rw [lastTrigger, after, Option.bind_some]
    | kept e' unserved after triggered recurrence =>
      refine .inl ⟨unserved, ?_⟩
      rw [lastTrigger, lastTrigger, after, found, Option.bind_some, Option.bind_some, triggered]

theorem served_run (h : d.schedule.Sound) (name : String) (events : List DispatchEvent) :
    Consecutive (d.served name events) ∧
      (∀ first last, (d.served name events).head? = some first →
        d.lastTrigger name = some last → first.1 = last) ∧
      (d.run events).lastTrigger name =
        ((d.served name events).getLast?.map Prod.snd).or (d.lastTrigger name) := by
  induction events generalizing d with
  | nil => exact ⟨.nil, (fun first last head => nomatch head), rfl⟩
  | cons event events ih =>
    obtain ⟨consecutive, start, last⟩ := ih (sound_step h event)
    have run_cons : d.run (event :: events) = (d.step event).run events := rfl
    rcases lastTrigger_step h name event with ⟨unserved, kept⟩ |
      ⟨interval, reported, filled, takesUp, after⟩
    · rw [run_cons, served, unserved, Option.toList_none, List.nil_append, last, kept]
      rw [kept] at start
      exact ⟨consecutive, start, rfl⟩
    · rw [run_cons, served, reported, Option.toList_some, List.singleton_append, last, after]
      refine ⟨consecutive.cons filled fun b head => (start b _ head after).symm, ?_, ?_⟩
      · rintro first previous head triggered
        obtain rfl := Option.some.inj head
        exact takesUp previous triggered
      · rw [List.getLast?_cons]
        cases ((d.step event).served name events).getLast? <;> rfl

theorem unserved_run (h : d.schedule.Sound) {e : ScheduleEntry} (found : d.scheduled? name = some e)
    (events : List DispatchEvent) (unserved : d.served name events = [])
    (registered : ∀ spec cron enabled now, .register spec cron enabled now ∈ events →
      spec.name ≠ name) :
    ∃ e', (d.run events).scheduled? name = some e' ∧ e'.lastTriggered = e.lastTriggered ∧
      e'.recurrence = e.recurrence := by
  induction events generalizing d e with
  | nil => exact ⟨e, found, rfl, rfl⟩
  | cons event events ih =>
    obtain ⟨now', rest⟩ := List.append_eq_nil_iff.mp unserved
    cases changes_step h found event with
    | served at' now tick reported due after =>
      rw [reported] at now'
      cases now'
    | kept e₁ _ after triggered recurrence =>
      obtain ⟨e', found', triggered', recurrence'⟩ := ih (sound_step h event) after rest
        fun spec cron enabled now there => registered spec cron enabled now (.tail _ there)
      have same := recurrence fun spec cron enabled now here =>
        registered spec cron enabled now (here ▸ List.mem_cons_self)
      exact ⟨e', found', triggered'.trans triggered, recurrence'.trans same⟩

/-- Whatever happens to a dispatcher that starts with an empty table of jobs, a tick serves a job as
`Serves` says.  The intervals that are served follow one another up to the last trigger: an instant
after the first of them begins and not after the last trigger is in exactly one, any other in none.  A
job that was triggered before and is due stays due until it is served or registered again, and nothing
but a tick touches the last trigger. -/
theorem each_occurrence_is_served_once (pool : Pool) (ids : IdSupply) (events : List DispatchEvent)
    (name : String) :
    let start : Dispatcher := ⟨pool, default, ids⟩
    let d := start.run events
    let served := start.served name events
    (∀ e at' now, d.scheduled? name = some e → d.Serves name e at' now) ∧
    d.lastTrigger name = served.getLast?.map Prod.snd ∧ Consecutive served ∧
    (∀ first last, served.head? = some first → served.getLast? = some last → ∀ i,
      served.countP (within i) = if first.1 < i ∧ i ≤ last.2 then 1 else 0) ∧
    (∀ e at' now between later, d.scheduled? name = some e → e.lastTriggered.isSome = true →
      e.HasOccurrence at' → d.served name (.tick at' now :: between) = [] →
      (∀ spec cron enabled now, .register spec cron enabled now ∈ between → spec.name ≠ name) →
      at' ≤ later →
      ∃ e', (d.run (.tick at' now :: between)).scheduled? name = some e' ∧
        e'.lastTriggered = e.lastTriggered ∧ e'.isDue later = e'.enabled) ∧
    ∀ event, (∀ at' now, event ≠ .tick at' now) →
      (d.step event).lastTrigger name = d.lastTrigger name := by
  intro start d served
  have sound : start.schedule.Sound := Schedule.sound_default
  have sound' : d.schedule.Sound := sound_run sound events
  obtain ⟨consecutive, -, last⟩ := served_run sound name events
  refine ⟨fun e at' now found => serves_tick sound' found at' now, ?_, consecutive,
    fun first last head ending i => (consecutive.countP_within head ending i).2, ?_, ?_⟩
  · have untriggered : start.lastTrigger name = none := rfl
    exact last.trans (by rw [untriggered, Option.or_none])
  · intro e at' now between later found triggered due unserved registered order
    obtain ⟨e', found', triggered', recurrence⟩ :=
      unserved_run sound' found (.tick at' now :: between) unserved fun spec cron enabled now there =>
        registered spec cron enabled now ((List.mem_cons.mp there).resolve_left nofun)
    refine ⟨e', found', triggered', ?_⟩
    have still := due.later triggered recurrence triggered' order
    have reached := sound_run sound' (.tick at' now :: between)
    rw [Bool.eq_iff_iff, (reached.entries name e' found').isDue_iff]
    exact and_iff_left still
  · intro event noTick
    rcases lastTrigger_step sound' name event with ⟨-, kept⟩ | ⟨interval, reported, -, -, -⟩
    · exact kept
    · cases event with
      | tick at' now => exact absurd rfl (noTick at' now)
      | _ => cases reported

/-- A job of every night is registered and runs twice; then the queue is full. -/
def nightly : List DispatchEvent :=
  let spec : JobSpec := ⟨"nightly", "maintenance", .null, none⟩
  let pool : Pool := .new { queueBound := 1 } (.empty 500) (.empty {})
  [.register spec "0 2 * * *" true default,
    .tick (.ofParts 354600 0) default,
    .tick (.ofParts 441000 0) default,
    .elsewhere { pool with queue := [⟨⟨9⟩, .manual, .job spec⟩] } default]

theorem each_occurrence_is_served_once_nightly :
    let start : Dispatcher := ⟨.new {} (.empty 500) (.empty {}), default, {}⟩
    let d := start.run nightly
    d.lastTrigger "nightly" = some (.ofParts 441000 0) ∧
    (start.served "nightly" nightly).countP (within (.ofParts 439200 0)) = 1 ∧
    ∃ e, (d.run [.tick (.ofParts 527400 0) default]).scheduled? "nightly" = some e ∧
      e.lastTriggered = some (.ofParts 441000 0) ∧
      e.isDue (.ofParts 527460 0) = e.enabled := by
  intro start d
  have served : start.served "nightly" nightly =
      [(.ofParts 268200 0, .ofParts 354600 0), (.ofParts 354600 0, .ofParts 441000 0)] := by
    decide +kernel
  obtain ⟨-, last, -, once, refused, -⟩ :=
    each_occurrence_is_served_once (.new {} (.empty 500) (.empty {})) {} nightly "nightly"
  have due : (d.scheduled? "nightly").any (·.isDue (.ofParts 527400 0)) = true := by decide +kernel
  have unserved : d.served "nightly" [.tick (.ofParts 527400 0) default] = [] := by decide +kernel
  cases found : d.scheduled? "nightly" with
  | none =>
    rw [found] at due
    cases due
  | some e =>
    rw [found, Option.any_some] at due
    have triggered : d.lastTrigger "nightly" = some (.ofParts 441000 0) := by
      rw [last, served]
      rfl
    have stored : e.lastTriggered = some (.ofParts 441000 0) := by
      rwa [lastTrigger, found, Option.bind_some] at triggered
    have sound : d.schedule.Sound := sound_run Schedule.sound_default nightly
    obtain ⟨e', found', kept, still⟩ := refused e (.ofParts 527400 0) default [] (.ofParts 527460 0)
      found (by rw [stored]; rfl) ((sound.entries _ e found).isDue_iff.mp due).2 unserved nofun
      (by decide)
    refine ⟨triggered, ?_, e', found', kept.trans stored, still⟩
    rw [once (.ofParts 268200 0, .ofParts 354600 0) (.ofParts 354600 0, .ofParts 441000 0)
      (by rw [served]; rfl) (by rw [served]; rfl), if_pos (by decide)]

end Dispatcher

end DeviceWatch
