import DeviceWatch.Proofs.Cron.Occurrences
import DeviceWatch.Proofs.Pool.ScheduledRuns

/-!
# Jobs that are due

A job is due when something of its recurrence has not been served yet and does not lie in the future.
That is read off the next instant, and it is right as long as the recurrence was read from an
expression and a trigger served something.  The due jobs have different names.
-/

namespace DeviceWatch

namespace ScheduleEntry

/-- Something of the recurrence has not been served and does not lie after `at'`. -/
def HasOccurrence (e : ScheduleEntry) (at' : Instant) : Prop :=
  ∃ i, e.recurrence.includes i = true ∧ e.servedUntil at' < i ∧ i ≤ at'

/-- The recurrence was read from an expression, and nothing was served before the epoch. -/
structure Sound (e : ScheduleEntry) : Prop where
  regular : e.recurrence.Regular
  triggered : ∀ last, e.lastTriggered = some last → 0 ≤ last.unixSecs

variable {e : ScheduleEntry} {at' : Instant}

/-- The day that a job looks back is a day of seconds; a leap second makes no difference to it. -/
theorem unixSecs_sub_oneDay (t : Instant) : t.unixSecs ≤ (t.sub oneDay).unixSecs + 86401 := by
  have part : 0 ≤ t.part := Int.emod_nonneg _ (by decide)
  simp only [Instant.sub, Instant.ofNanos, Instant.ofParts, Instant.unixSecs, Instant.nanos, oneDay,
    Span.ofSecs, Instant.nanosPerSec, Instant.ticksPerSec] at part ⊢
  omega

theorem Sound.isDue_iff (sound : e.Sound) :
    e.isDue at' = true ↔ e.enabled = true ∧ e.HasOccurrence at' := by
  have near : 0 ≤ (e.servedUntil at').unixSecs ∨
      at'.unixSecs ≤ (e.servedUntil at').unixSecs + 86401 := by
    unfold servedUntil
    cases triggered : e.lastTriggered with
    | some last => exact .inl (sound.triggered last triggered)
    | none => exact .inr (unixSecs_sub_oneDay at')
  rw [HasOccurrence, ← Recurrence.exists_next_le_iff sound.regular near, isDue, Bool.and_eq_true]
  cases e.recurrence.next? (e.servedUntil at') <;> simp

theorem Sound.epoch_le (sound : e.Sound) (due : e.HasOccurrence at') : 0 ≤ at'.unixSecs := by
  obtain ⟨i, there, -, before⟩ := due
  have epoch := Recurrence.epoch_le_of_includes sound.regular there
  have order := Recurrence.unixSecs_le before
  omega

theorem HasOccurrence.servedUntil_lt (due : e.HasOccurrence at') : e.servedUntil at' < at' := by
  obtain ⟨i, -, after, before⟩ := due
  exact Int.lt_of_lt_of_le after before

theorem HasOccurrence.later {e' : ScheduleEntry} {later : Instant} (due : e.HasOccurrence at')
    (triggered : e.lastTriggered.isSome = true) (same : e'.recurrence = e.recurrence)
    (unserved : e'.lastTriggered = e.lastTriggered) (order : at' ≤ later) :
    e'.HasOccurrence later := by
  obtain ⟨last, triggered⟩ := Option.isSome_iff_exists.mp triggered
  obtain ⟨i, there, after, before⟩ := due
  rw [servedUntil, triggered, Option.getD_some] at after
  refine ⟨i, same ▸ there, ?_, Std.le_trans before order⟩
  rw [servedUntil, unserved, triggered, Option.getD_some]
  exact after

end ScheduleEntry

namespace Schedule

/-- The jobs have their own names, and each was read from an expression. -/
structure Sound (s : Schedule) : Prop where
  ownNames : s.OwnNames
  entries : ∀ name e, s.entries.find? name = some e → e.Sound

theorem sound_default : (default : Schedule).Sound :=
  ⟨fun _ _ found => (by cases found), fun _ _ found => (by cases found)⟩

variable {s : Schedule} {name : String} {at' : Instant}

theorem Sound.insert (h : s.Sound) {e : ScheduleEntry} (own : e.spec.name = name)
    (sound : e.Sound) : Sound ⟨s.entries.insert name e⟩ := by
  refine ⟨h.ownNames.insert own, fun other entry found => ?_⟩
  rw [OrderedMap.find?_insert] at found
  split at found
  · cases found
    exact sound
  · exact h.entries other entry found

theorem register_eq {spec : JobSpec} {cron : String} {enabled : Bool} {now : Instant}
    {r : ScheduledJob × Schedule} (done : s.register spec cron enabled now = .ok r) :
    ∃ e : ScheduleEntry, r.2 = ⟨s.entries.insert spec.name e⟩ ∧ e.spec = spec ∧
      Cron.parse? (Cron.normalize cron) = some e.recurrence ∧
      e.lastTriggered = (s.entries.find? spec.name).bind (·.lastTriggered) := by
  unfold Schedule.register at done
  dsimp only at done
  split at done
  · cases done
  · rename_i recurrence read
    cases done
    exact ⟨_, rfl, rfl, read, rfl⟩

theorem toggle_eq {now : Instant} {r : ScheduledJob × Schedule}
    (done : s.toggle name now = .ok r) :
    ∃ e, s.entries.find? name = some e ∧
      r.2 = ⟨s.entries.insert name { e with enabled := !e.enabled }⟩ := by
  unfold Schedule.toggle find at done
  cases stored : s.entries.find? name with
  | none => simp [stored, bind, Except.bind] at done
  | some e =>
    simp only [stored, bind, Except.bind, pure, Except.pure, Except.ok.injEq] at done
    subst done
    exact ⟨e, rfl, rfl⟩

theorem Sound.register (h : s.Sound) {spec : JobSpec} {cron : String} {enabled : Bool}
    {now : Instant} {r : ScheduledJob × Schedule}
    (done : s.register spec cron enabled now = .ok r) : r.2.Sound := by
  obtain ⟨e, written, own, read, kept⟩ := register_eq done
  rw [written]
  refine h.insert (congrArg JobSpec.name own) ⟨Cron.parse?_regular read, fun last triggered => ?_⟩
  rw [kept] at triggered
  obtain ⟨old, found, triggered⟩ := Option.bind_eq_some_iff.mp triggered
  exact (h.entries _ old found).triggered last triggered

theorem Sound.toggle (h : s.Sound) {now : Instant} {r : ScheduledJob × Schedule}
    (done : s.toggle name now = .ok r) : r.2.Sound := by
  obtain ⟨e, found, written⟩ := toggle_eq done
  rw [written]
  have sound := h.entries name e found
  exact h.insert (h.ownNames name e found) ⟨sound.regular, sound.triggered⟩

theorem find?_recordTrigger (s : Schedule) (name other : String) (at' : Instant) :
    (s.recordTrigger name at').entries.find? other =
      if other = name then
        (s.entries.find? other).map fun e => { e with lastTriggered := some at' }
      else s.entries.find? other :=
  OrderedMap.find?_modify s.entries name other _

theorem Sound.recordTrigger (h : s.Sound) (name : String) (recent : 0 ≤ at'.unixSecs) :
    (s.recordTrigger name at').Sound := by
  refine ⟨h.ownNames.recordTrigger name at', fun other entry found => ?_⟩
  rw [find?_recordTrigger] at found
  split at found
  · obtain ⟨e, stored, rfl⟩ := Option.map_eq_some_iff.mp found
    refine ⟨(h.entries other e stored).regular, fun last triggered => ?_⟩
    cases triggered
    exact recent
  · exact h.entries other entry found

theorem OwnNames.mem_due (own : s.OwnNames) {spec : JobSpec} :
    spec ∈ s.due at' ↔
      ∃ e, s.entries.find? spec.name = some e ∧ e.spec = spec ∧ e.isDue at' = true := by
  simp only [due, List.mem_map, List.mem_filter, OrderedMap.mem_values_iff]
  constructor
  · rintro ⟨e, ⟨⟨k, found⟩, ready⟩, rfl⟩
    rw [← own k e found] at found
    exact ⟨e, found, rfl, ready⟩
  · rintro ⟨e, found, rfl, ready⟩
    exact ⟨e, ⟨⟨_, found⟩, ready⟩, rfl⟩

theorem OwnNames.nodup_due (own : s.OwnNames) (at' : Instant) :
    ((s.due at').map (·.name)).Nodup := by
  rw [due, List.map_map]
  exact OrderedMap.nodup_filter_values own _

end Schedule

end DeviceWatch
