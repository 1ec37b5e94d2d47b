import DeviceWatch.Proofs.Schedule.Due

/-!
# What a tick does about a job

A tick visits the connectors first, and then each job that is due.  The visits of all others leave a
job alone, so the tick reports it exactly when something of its recurrence is due and the job is
active or its task is accepted, and then the tick is the last trigger of the job.
-/

namespace DeviceWatch

/-- The tick reports the job, as submitted or as still active. -/
def TickReport.Reports (r : TickReport) (name : String) : Prop :=
  name ∈ r.jobsDispatched ∨ name ∈ r.jobsSkippedActive

instance (r : TickReport) (name : String) : Decidable (r.Reports name) :=
  inferInstanceAs (Decidable (_ ∨ _))

namespace Dispatcher

variable {d : Dispatcher} {name : String} {at' now : Instant}

def Accepts (d : Dispatcher) : Prop :=
  d.pool.stopped = false ∧ d.pool.reserved < d.pool.config.queueBound

instance (d : Dispatcher) : Decidable d.Accepts := inferInstanceAs (Decidable (_ ∧ _))

@[simp] theorem submit_schedule (d : Dispatcher) (kind : JobKind) (payload : Payload)
    (now : Instant) : (d.submit kind payload now).2.schedule = d.schedule := rfl

theorem submit_eq_ok_iff (d : Dispatcher) (kind : JobKind) (payload : Payload) (now : Instant) :
    (∃ j, (d.submit kind payload now).1 = .ok j) ↔ d.Accepts := by
  simp only [submit, Pool.submit, Accepts]
  cases d.pool.stopped with
  | true => simp
  | false =>
    by_cases full : d.pool.config.queueBound ≤ d.pool.reserved
    · simp [if_pos full, Nat.not_lt.mpr full]
    · simp [if_neg full, Nat.lt_of_not_le full]

theorem submitPoll_schedule (d : Dispatcher) (kind : JobKind) (ticket : PollTicket)
    (snapshot : Connector) (now : Instant) :
    (d.submitPoll kind ticket snapshot now).2.schedule = d.schedule := by
  unfold submitPoll
  have kept := d.submit_schedule kind (.poll snapshot) now
  split
  · rename_i done
    rwa [done] at kept
  · rename_i failed
    rwa [failed] at kept

theorem tickConnector_jobs (at' now : Instant) (state : TickReport × Dispatcher) (c : Connector) :
    (tickConnector at' now state c).2.schedule = state.2.schedule ∧
      (tickConnector at' now state c).1.jobsDispatched = state.1.jobsDispatched ∧
      (tickConnector at' now state c).1.jobsSkippedActive = state.1.jobsSkippedActive := by
  obtain ⟨report, d⟩ := state
  simp only [tickConnector]
  split
  · exact ⟨rfl, rfl, rfl⟩
  · split
    · exact ⟨rfl, rfl, rfl⟩
    · exact ⟨rfl, rfl, rfl⟩
    · rename_i ticket snapshot r _
      have kept := (d.setRegistry r).submitPoll_schedule .poll ticket snapshot now
      split <;> rename_i done <;> rw [done] at kept <;> exact ⟨kept, rfl, rfl⟩

def afterPolls (d : Dispatcher) (at' now : Instant) : TickReport × Dispatcher :=
  (d.registry.list (some true)).foldl (tickConnector at' now) ({}, d)

theorem afterPolls_jobs (d : Dispatcher) (at' now : Instant) :
    (d.afterPolls at' now).2.schedule = d.schedule ∧
      (d.afterPolls at' now).1.jobsDispatched = [] ∧
      (d.afterPolls at' now).1.jobsSkippedActive = [] := by
  have all (cs : List Connector) (state : TickReport × Dispatcher) :
      (cs.foldl (tickConnector at' now) state).2.schedule = state.2.schedule ∧
        (cs.foldl (tickConnector at' now) state).1.jobsDispatched = state.1.jobsDispatched ∧
        (cs.foldl (tickConnector at' now) state).1.jobsSkippedActive =
          state.1.jobsSkippedActive := by
    induction cs generalizing state with
    | nil => exact ⟨rfl, rfl, rfl⟩
    | cons c cs ih =>
      obtain ⟨schedule, dispatched, skipped⟩ := tickConnector_jobs at' now state c
      obtain ⟨schedule', dispatched', skipped'⟩ := ih (tickConnector at' now state c)
      exact ⟨schedule'.trans schedule, dispatched'.trans dispatched, skipped'.trans skipped⟩
  exact all _ ({}, d)

theorem tick_eq (d : Dispatcher) (at' now : Instant) :
    d.tick at' now = (d.schedule.due at').foldl (tickJob at' now) (d.afterPolls at' now) := by
  have schedule : (d.afterPolls at' now).2.schedule = d.schedule := (d.afterPolls_jobs at' now).1
  rw [← schedule]
  rfl

theorem tickJob_eq (at' now : Instant) (report : TickReport) (d : Dispatcher) (spec : JobSpec) :
    tickJob at' now (report, d) spec =
      if d.tracker.isActive spec.name then
        ({ report with jobsSkippedActive := report.jobsSkippedActive ++ [spec.name] },
          d.recordTrigger spec.name at')
      else if d.Accepts then
        ({ report with jobsDispatched := report.jobsDispatched ++ [spec.name] },
          (d.submit .scheduled (.job spec) now).2.recordTrigger spec.name at')
      else (report, (d.submit .scheduled (.job spec) now).2) := by
  simp only [tickJob]
  split
  · rfl
  · have answered := d.submit_eq_ok_iff .scheduled (.job spec) now
    split
    · rename_i j d' done
      rw [done] at answered ⊢
      rw [if_pos (answered.mp ⟨j, rfl⟩)]
    · rename_i e d' failed
      rw [failed] at answered ⊢
      have refused : ¬d.Accepts := by
        intro accepts
        obtain ⟨j, done⟩ := answered.mpr accepts
        cases done
      rw [if_neg refused]

/-- A job is reported and recorded alike in two states of a tick. -/
structure SameJob (name : String) (a b : TickReport × Dispatcher) : Prop where
  dispatched : name ∈ b.1.jobsDispatched ↔ name ∈ a.1.jobsDispatched
  skipped : name ∈ b.1.jobsSkippedActive ↔ name ∈ a.1.jobsSkippedActive
  entry : b.2.schedule.entries.find? name = a.2.schedule.entries.find? name

theorem SameJob.reports {a b : TickReport × Dispatcher} (same : SameJob name a b) :
    b.1.Reports name ↔ a.1.Reports name :=
  or_congr same.dispatched same.skipped

theorem sameJob_tickJob {state : TickReport × Dispatcher} {spec : JobSpec}
    (other : spec.name ≠ name) : SameJob name state (tickJob at' now state spec) := by
  obtain ⟨report, d⟩ := state
  have apart : name ≠ spec.name := Ne.symm other
  have recorded := d.schedule.find?_recordTrigger spec.name name at'
  rw [if_neg apart] at recorded
  rw [tickJob_eq]
  split
  · exact ⟨Iff.rfl, by simp [apart], recorded⟩
  · split
    · exact ⟨by simp [apart], Iff.rfl, recorded⟩
    · exact ⟨Iff.rfl, Iff.rfl, rfl⟩

theorem sameJob_foldl {specs : List JobSpec} (others : ∀ spec ∈ specs, spec.name ≠ name)
    (state : TickReport × Dispatcher) :
    SameJob name state (specs.foldl (tickJob at' now) state) := by
  induction specs generalizing state with
  | nil => exact ⟨Iff.rfl, Iff.rfl, rfl⟩
  | cons spec specs ih =>
    have head : SameJob name state (tickJob at' now state spec) :=
      sameJob_tickJob (others spec List.mem_cons_self)
    have tail := ih (fun spec there => others spec (.tail _ there)) (tickJob at' now state spec)
    exact ⟨tail.dispatched.trans head.dispatched, tail.skipped.trans head.skipped,
      tail.entry.trans head.entry⟩

/-- The dispatcher as a tick finds it when it comes to a job. -/
def atJob (d : Dispatcher) (name : String) (at' now : Instant) : Dispatcher :=
  (((d.schedule.due at').takeWhile fun spec => spec.name ≠ name).foldl (tickJob at' now)
    (d.afterPolls at' now)).2

/-- What a tick does about a job: it is passed over while it is active and something is due,
submitted if something is due and the queue takes the task, and recorded just if it is reported. -/
structure Serves (d : Dispatcher) (name : String) (e : ScheduleEntry) (at' now : Instant) :
    Prop where
  skipped : name ∈ (d.tick at' now).1.jobsSkippedActive ↔
    (e.enabled = true ∧ e.HasOccurrence at') ∧ (d.atJob name at' now).tracker.isActive name = true
  dispatched : name ∈ (d.tick at' now).1.jobsDispatched ↔
    (e.enabled = true ∧ e.HasOccurrence at') ∧
      (d.atJob name at' now).tracker.isActive name = false ∧ (d.atJob name at' now).Accepts
  recorded : (d.tick at' now).2.schedule.entries.find? name =
    some (if (d.tick at' now).1.Reports name then { e with lastTriggered := some at' } else e)

theorem due_split (own : d.schedule.OwnNames) {e : ScheduleEntry}
    (found : d.schedule.entries.find? name = some e) (ready : e.isDue at' = true) :
    ∃ after, d.schedule.due at' =
        ((d.schedule.due at').takeWhile fun spec => spec.name ≠ name) ++ e.spec :: after ∧
      ∀ spec ∈ after, spec.name ≠ name := by
  have named : e.spec.name = name := own name e found
  have there : e.spec ∈ d.schedule.due at' := own.mem_due.mpr ⟨e, named.symm ▸ found, rfl, ready⟩
  have split := List.takeWhile_append_dropWhile (p := fun spec : JobSpec => spec.name ≠ name)
    (l := d.schedule.due at')
  have first := List.head?_dropWhile_not (fun spec : JobSpec => decide (spec.name ≠ name))
    (d.schedule.due at')
  cases rest : (d.schedule.due at').dropWhile fun spec => decide (spec.name ≠ name) with
  | nil =>
    rw [rest, List.append_nil] at split
    rw [← split] at there
    have other := List.all_eq_true.mp List.all_takeWhile _ there
    simp [named] at other
  | cons spec after =>
    rw [rest] at split first
    have same : spec.name = name := by simpa using first
    obtain ⟨e', found', rfl, -⟩ := own.mem_due.mp
      (split ▸ List.mem_append_right _ List.mem_cons_self : spec ∈ d.schedule.due at')
    rw [same, found] at found'
    obtain rfl := Option.some.inj found'
    have distinct := own.nodup_due at'
    rw [← split, List.map_append, List.map_cons, List.nodup_append, List.nodup_cons] at distinct
    refine ⟨after, split.symm, fun other later clash => distinct.2.1.1 ?_⟩
    exact List.mem_map.mpr ⟨other, later, clash.trans named.symm⟩

theorem serves_visit {report : TickReport} {spec : JobSpec} {e : ScheduleEntry}
    (found : d.schedule.entries.find? spec.name = some e) (unreported : ¬report.Reports spec.name)
    (at' now : Instant) :
    let after := tickJob at' now (report, d) spec
    (spec.name ∈ after.1.jobsSkippedActive ↔ d.tracker.isActive spec.name = true) ∧
      (spec.name ∈ after.1.jobsDispatched ↔ d.tracker.isActive spec.name = false ∧ d.Accepts) ∧
      after.2.schedule.entries.find? spec.name =
        some (if after.1.Reports spec.name then { e with lastTriggered := some at' } else e) := by
  intro after
  obtain ⟨notDispatched, notSkipped⟩ := not_or.mp unreported
  have recorded := d.schedule.find?_recordTrigger spec.name spec.name at'
  rw [if_pos rfl, found, Option.map_some] at recorded
  have visited : after = _ := tickJob_eq at' now report d spec
  rw [visited]
  cases active : d.tracker.isActive spec.name with
  | true =>
    have reported : ({ report with
        jobsSkippedActive := report.jobsSkippedActive ++ [spec.name] } : TickReport).Reports
        spec.name := .inr (by simp)
    refine ⟨by simp, by simp [notDispatched], ?_⟩
    rw [if_pos rfl, if_pos reported]
    exact recorded
  | false =>
    by_cases accepts : d.Accepts
    · have reported : ({ report with
          jobsDispatched := report.jobsDispatched ++ [spec.name] } : TickReport).Reports
          spec.name := .inl (by simp)
      refine ⟨by simp [accepts, notSkipped], by simp [accepts], ?_⟩
      rw [if_neg Bool.false_ne_true, if_pos accepts, if_pos reported]
      exact recorded
    · refine ⟨by simp [accepts, notSkipped], by simp [accepts, notDispatched], ?_⟩
      rw [if_neg Bool.false_ne_true, if_neg accepts, if_neg unreported]
      exact found

/-- A tick that has nothing to do for a job leaves it alone. -/
theorem sameJob_tick_of_idle (own : d.schedule.OwnNames)
    (idle : ∀ e, d.schedule.entries.find? name = some e → ¬e.isDue at' = true) (now : Instant) :
    SameJob name (d.afterPolls at' now) (d.tick at' now) := by
  rw [tick_eq]
  refine sameJob_foldl (fun spec there same => ?_) _
  obtain ⟨e, found, -, ready⟩ := own.mem_due.mp there
  exact idle e (same ▸ found) ready

theorem find?_tick_of_absent (h : d.schedule.Sound)
    (absent : d.schedule.entries.find? name = none) (at' now : Instant) :
    (d.tick at' now).2.schedule.entries.find? name = none := by
  have idle : ∀ e, d.schedule.entries.find? name = some e → ¬e.isDue at' = true := by
    simp [absent]
  rw [(sameJob_tick_of_idle h.ownNames idle now).entry, (d.afterPolls_jobs at' now).1, absent]

theorem serves_tick (h : d.schedule.Sound) {e : ScheduleEntry}
    (found : d.schedule.entries.find? name = some e) (at' now : Instant) :
    d.Serves name e at' now := by
  have due : e.isDue at' = true ↔ _ := (h.entries name e found).isDue_iff
  obtain ⟨schedule, dispatched, skipped⟩ := d.afterPolls_jobs at' now
  have unreported : ¬(d.afterPolls at' now).1.Reports name := by
    simp [TickReport.Reports, dispatched, skipped]
  by_cases ready : e.isDue at' = true
  · obtain ⟨after, split, others⟩ := due_split h.ownNames found ready
    obtain rfl : e.spec.name = name := h.ownNames name e found
    let before := (d.schedule.due at').takeWhile fun spec => spec.name ≠ e.spec.name
    let mid := before.foldl (tickJob at' now) (d.afterPolls at' now)
    have reached : SameJob e.spec.name (d.afterPolls at' now) mid :=
      sameJob_foldl (fun spec there => by simpa using List.all_eq_true.mp List.all_takeWhile _ there) _
    have left : SameJob e.spec.name (tickJob at' now mid e.spec) (d.tick at' now) := by
      have whole : d.tick at' now = after.foldl (tickJob at' now) (tickJob at' now mid e.spec) :=
        calc
          d.tick at' now = (before ++ e.spec :: after).foldl (tickJob at' now)
              (d.afterPolls at' now) :=
            (d.tick_eq at' now).trans (congrArg (List.foldl _ _) split)
          _ = _ := by rw [List.foldl_append, List.foldl_cons]
      rw [whole]
      exact sameJob_foldl others _
    have entry := reached.entry.trans (schedule ▸ found)
    obtain ⟨passed, submitted, recorded⟩ := serves_visit entry
      (mt reached.reports.mp unreported) at' now
    refine ⟨?_, ?_, ?_⟩
    · rw [left.skipped, ← due]
      exact passed.trans (and_iff_right ready).symm
    · rw [left.dispatched, ← due]
      exact submitted.trans (and_iff_right ready).symm
    · rw [left.entry]
      simp only [left.reports]
      exact recorded
  · have idle : ∀ e', d.schedule.entries.find? name = some e' → ¬e'.isDue at' = true := by
      intro e' found'
      rw [found] at found'
      exact Option.some.inj found' ▸ ready
    have quiet := sameJob_tick_of_idle h.ownNames idle now
    have unserved := mt due.mpr ready
    refine ⟨?_, ?_, ?_⟩
    · exact iff_of_false (by simp [quiet.skipped, skipped]) fun there => unserved there.1
    · exact iff_of_false (by simp [quiet.dispatched, dispatched]) fun there => unserved there.1
    · rw [if_neg (mt quiet.reports.mp unreported), quiet.entry, schedule, found]

theorem sound_foldl {specs : List JobSpec} (recent : specs ≠ [] → 0 ≤ at'.unixSecs)
    (state : TickReport × Dispatcher) (h : state.2.schedule.Sound) :
    (specs.foldl (tickJob at' now) state).2.schedule.Sound := by
  induction specs generalizing state with
  | nil => exact h
  | cons spec specs ih =>
    have epoch : 0 ≤ at'.unixSecs := recent (List.cons_ne_nil _ _)
    refine ih (fun _ => epoch) (tickJob at' now state spec) ?_
    obtain ⟨report, d⟩ := state
    rw [tickJob_eq]
    split
    · exact h.recordTrigger spec.name epoch
    · split
      · exact Schedule.Sound.recordTrigger h spec.name epoch
      · exact h

theorem sound_tick (h : d.schedule.Sound) (at' now : Instant) :
    (d.tick at' now).2.schedule.Sound := by
  rw [tick_eq]
  refine sound_foldl (fun some' => ?_) _ ((d.afterPolls_jobs at' now).1 ▸ h)
  obtain ⟨spec, there⟩ := List.exists_mem_of_ne_nil _ some'
  obtain ⟨e, found, -, ready⟩ := h.ownNames.mem_due.mp there
  have sound := h.entries spec.name e found
  exact sound.epoch_le (sound.isDue_iff.mp ready).2

end Dispatcher

end DeviceWatch
