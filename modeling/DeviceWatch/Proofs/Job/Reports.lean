import DeviceWatch.Proofs.Job.Lifecycle
import DeviceWatch.Proofs.Job.Steps

/-!
# The progress of a job only moves forward

A running job has a progress, which is empty when it starts and which nothing but reports changes.
So a property of progress holds in every state of a run if it holds at the start and every report
keeps it (`Fresh.progress_induction`).  In particular a later snapshot extends every earlier one.
-/

namespace DeviceWatch

theorem Job.Fits.running {j : Job} {p : Progress} (fits : j.Fits) (shown : j.progress = some p) :
    j.state = .running := by
  cases state : j.state with
  | running => rfl
  | _ => simp [Fits, state, shown] at fits

namespace Tracker

/-- The progress of a running job. -/
def progressOf (t : Tracker) (id : Uuid) : Option Progress := (t.jobs.find? id).bind (·.progress)

variable {t t' : Tracker} {id : Uuid} {j : Job} {now : Instant} {p q : Progress}

theorem progressOf_eq_some :
    t.progressOf id = some p ↔ ∃ j, t.jobs.find? id = some j ∧ j.progress = some p :=
  Option.bind_eq_some_iff

theorem Records.running (h : t.Records) (shown : t.progressOf id = some p) :
    t.lastState id = some .running := by
  obtain ⟨j, found, shown⟩ := progressOf_eq_some.mp shown
  rw [h.published found, (h.fits found).running shown]

theorem progressOf_publish (t : Tracker) (j : Job) (now : Instant) (id : Uuid) :
    (t.publish j now).progressOf id = if id = j.taskId then j.progress else t.progressOf id := by
  rw [progressOf, find?_publish]
  split <;> rfl

theorem progressOf_enqueue (t : Tracker) (task : Task) (now : Instant) (id : Uuid) :
    (t.enqueue task now).2.progressOf id = if id = task.id then none else t.progressOf id := by
  rw [progressOf, enqueue_find?]
  split <;> rfl

theorem progressOf_of_prune {keep : Nat} (shown : (t.prune keep).2.progressOf id = some p) :
    t.progressOf id = some p := by
  obtain ⟨j, found, shown⟩ := progressOf_eq_some.mp shown
  exact progressOf_eq_some.mpr ⟨j, (t.prune_retains keep).stored found, shown⟩

theorem progressOf_report (h : t.Records) (id : Uuid) (r : ProgressReport) (now : Instant)
    (k : Uuid) : (t.report id r now).progressOf k =
      if k = id then (t.progressOf id).map (·.apply now r) else t.progressOf k := by
  have idle (silent : t.progressOf id = none) :
      t.progressOf k = if k = id then (t.progressOf id).map (·.apply now r) else t.progressOf k := by
    split
    · rename_i same
      rw [same, silent]
      rfl
    · rfl
  have shows {j : Job} (found : t.jobs.find? id = some j) : t.progressOf id = j.progress := by
    rw [progressOf, found]
    rfl
  unfold report
  split
  · rename_i j found
    split
    · rename_i p running progress
      rw [progressOf_publish, shows found, h.ownIds found, progress]
      rfl
    · rename_i other
      apply idle
      rw [shows found, Option.eq_none_iff_forall_ne_some]
      exact fun p progress => other p ((h.fits found).running progress) progress
  · rename_i absent
    apply idle
    rw [progressOf, absent]
    rfl

theorem progressOf_perform (h : t.Records) (o : Operation)
    (shown : (t.perform o).2.progressOf id = some q) :
    t.progressOf id = some q ∨
    (∃ p r now, t.progressOf id = some p ∧ o = .report id r now ∧ q = p.apply now r) ∨
    (t.lastState id = some .queued ∧ q = {}) := by
  have closed {old : Job} {state : JobState} {error : Option String} {result : Option Json}
      {now : Instant} (shown : (t.terminate old state error result now).2.progressOf id = some q) :
      t.progressOf id = some q := by
    have before := progressOf_of_prune shown
    rw [progressOf_publish] at before
    split at before
    · cases before
    · exact before
  cases o with
  | enqueue task now =>
    simp only [perform, progressOf_enqueue] at shown
    split at shown
    · cases shown
    · exact .inl shown
  | start k worker now =>
    cases done : t.start k worker now with
    | error e =>
      simp only [perform, done, Except.map, settle] at shown
      exact .inl shown
    | ok r =>
      obtain ⟨j, t'⟩ := r
      obtain ⟨old, found, rfl, queued, rfl, rfl⟩ := start_eq h.ownIds done
      simp only [perform, done, Except.map, settle, progressOf_publish] at shown
      split at shown
      · rename_i same
        cases shown
        have published := h.published found
        rw [queued] at published
        exact .inr (.inr ⟨same ▸ published, rfl⟩)
      · exact .inl shown
  | finish k state error result now =>
    cases done : t.finish k state error result now with
    | error e =>
      simp only [perform, done, Except.map, settle] at shown
      exact .inl shown
    | ok r =>
      obtain ⟨j, t'⟩ := r
      obtain ⟨old, -, -, -, -, -, rfl⟩ := finish_eq h.ownIds done
      simp only [perform, done, Except.map, settle] at shown
      exact .inl (closed shown)
  | cancelQueued k now =>
    cases done : t.cancelQueued k now with
    | error e =>
      simp only [perform, done, settle] at shown
      exact .inl shown
    | ok r =>
      obtain ⟨cancelled, t'⟩ := r
      simp only [perform, done, settle] at shown
      rcases cancelQueued_eq h.ownIds done with ⟨-, rfl⟩ | ⟨old, -, -, -, -, rfl⟩
      · exact .inl shown
      · exact .inl (closed shown)
  | report k r now =>
    simp only [perform, progressOf_report h] at shown
    split at shown
    · rename_i same
      obtain ⟨p, before, rfl⟩ := Option.map_eq_some_iff.mp shown
      subst same
      exact .inr (.inl ⟨p, r, now, before, rfl, rfl⟩)
    · exact .inl shown
  | prune keep => exact .inl (progressOf_of_prune shown)

/-- What holds of the progress of a job, of an empty one if the job has yet to start, and is kept by
the reports of a run, holds of its progress after the run. -/
theorem Fresh.progress_induction {operations : List Operation} {P : Progress → Prop}
    (h : t.Fresh operations) (records : t.Records)
    (here : ∀ p, t.progressOf id = some p → P p)
    (start : (∀ s, t.lastState id = some s → s = .queued) → P {})
    (report : ∀ before r now after p, operations = before ++ .report id r now :: after →
      (t.run before).progressOf id = some p → P p → P (p.apply now r)) :
    ∀ q, (t.run operations).progressOf id = some q → P q := by
  induction operations generalizing t with
  | nil => exact here
  | cons o rest ih =>
    obtain ⟨⟨written, change, -⟩, fresh⟩ := h.step records
    refine ih fresh (change.records records) (fun q shown => ?_) (fun waits => start ?_) ?_
    · rcases progressOf_perform records o shown with same | ⟨p, r, now, before, rfl, rfl⟩ |
        ⟨queued, rfl⟩
      · exact here q same
      · exact report [] r now rest p rfl before (here p before)
      · refine start fun s known => ?_
        rw [queued] at known
        exact (Option.some.inj known).symm
    · intro s known
      obtain ⟨s', known', moved⟩ := change.lastState records known
      rw [waits s' known'] at moved
      exact moved.eq_queued
    · intro before r now after p split
      exact report (o :: before) r now after p (by rw [split]; rfl)

theorem Fresh.fits_progress {operations : List Operation} (h : t.Fresh operations)
    (records : t.Records) (here : ∀ p, t.progressOf id = some p → p.Fits) :
    ∀ q, (t.run operations).progressOf id = some q → q.Fits :=
  h.progress_induction records here (fun _ => Progress.fits_default)
    fun _ r now _ _ _ _ fits => fits.apply now r

theorem Fresh.extends_progress {operations : List Operation} (h : t.Fresh operations)
    (records : t.Records) (shown : t.progressOf id = some p) :
    ∀ q, (t.run operations).progressOf id = some q → q.Extends p := by
  refine h.progress_induction records (fun p' shown' => ?_) (fun waits => ?_)
    fun _ r now _ q _ _ extends' => (q.extends_apply now r).trans extends'
  · rw [shown] at shown'
    cases shown'
    exact .refl p
  · -- A job that runs does not start again.
    cases waits _ (records.running shown)

/-- Between any two states in which a job runs, the first of which operations lead to from an empty
tracker, its progress has only moved forward: each step is at its place under its name, its status
has not gone back, and it has not changed since it ended, so that new steps come after all others.
The percentage is at most 100, a running step has begun, a step with a duration has begun and
ended, and a current step is the name of one that is running. -/
theorem progress_moves_forward (limit : Nat) (first rest : List Operation)
    (once : Once (first ++ rest)) (id : Uuid) (p q : Progress)
    (shown : ((empty limit).run first).progressOf id = some p)
    (later : (((empty limit).run first).run rest).progressOf id = some q) :
    (∀ (i : Nat) (s : ProgressStep), p.steps[i]? = some s → ∃ s', q.steps[i]? = some s' ∧
        s'.name = s.name ∧ s.status.rank ≤ s'.status.rank ∧
        (s.status.isEnd = true → s' = s)) ∧
      q.percent ≤ 100 ∧
      (∀ s ∈ q.steps, (s.status = .running → s.startedAt.isSome = true) ∧
        (s.durationMillis.isSome = true → s.status.isEnd = true ∧ s.startedAt.isSome = true)) ∧
      ∀ name, q.currentStep = some name → ∃ s ∈ q.steps, s.name = name ∧ s.status = .running := by
  have whole := fresh_empty once limit
  have start := (sound_empty limit).toRecords
  have fresh := whole.run start
  have records : ((empty limit).run first).Records := (whole.left.sound (sound_empty limit)).toRecords
  have fits : ∀ p, ((empty limit).run first).progressOf id = some p → p.Fits :=
    whole.left.fits_progress start fun p shown => by cases shown
  have fits := fresh.fits_progress records fits q later
  refine ⟨fun i s there => ?_, fits.percent, fun s there => ?_, fits.current⟩
  · obtain ⟨s', there', moved⟩ := fresh.extends_progress records shown q later i s there
    exact ⟨s', there', moved.name, moved.forward, moved.final⟩
  · exact ⟨(fits.steps s there).started, (fits.steps s there).of_duration⟩

/-- Two steps are planned, and the first one begins. -/
def scanning : List Operation :=
  [.enqueue (idleTask 1) default, .start ⟨1⟩ "worker-0" default,
    .report ⟨1⟩ (.plan ["scan", "apply"]) default, .report ⟨1⟩ (.begin "scan") default]

/-- The first step ends, the second one fails and is begun again. -/
def scanned : List Operation :=
  [.report ⟨1⟩ (.complete "scan") default, .report ⟨1⟩ (.complete "scan") default,
    .report ⟨1⟩ (.begin "apply") default, .report ⟨1⟩ (.fail "apply") default,
    .report ⟨1⟩ (.begin "apply") default, .report ⟨1⟩ (.percent 250) default]

theorem progress_moves_forward_scanned :
    let t := (empty 1).run scanning
    Once (scanning ++ scanned) ∧ ∃ p q, t.progressOf ⟨1⟩ = some p ∧
      (t.run scanned).progressOf ⟨1⟩ = some q ∧
      q.steps.map (·.status) = [.completed, .failed, .running] ∧ q.percent ≤ 100 ∧
      (∀ (i : Nat) (s : ProgressStep), p.steps[i]? = some s →
        ∃ s', q.steps[i]? = some s' ∧ s'.name = s.name) ∧
      ∃ s ∈ q.steps, s.name = "apply" ∧ s.status = .running := by
  intro t
  have once : Once (scanning ++ scanned) := by decide +kernel
  have runs : (t.progressOf ⟨1⟩).isSome = true := by decide +kernel
  have shows : ((t.run scanned).progressOf ⟨1⟩).map (fun q => (q.steps.map (·.status),
      q.currentStep)) = some ([.completed, .failed, .running], some "apply") := by decide +kernel
  obtain ⟨p, shown⟩ := Option.isSome_iff_exists.mp runs
  obtain ⟨q, later, same⟩ := Option.map_eq_some_iff.mp shows
  obtain ⟨statuses, current⟩ := Prod.mk.inj same
  obtain ⟨kept, percent, -, running⟩ :=
    progress_moves_forward 1 scanning scanned once ⟨1⟩ p q shown later
  refine ⟨once, p, q, shown, later, statuses, percent, fun i s there => ?_, running _ current⟩
  obtain ⟨s', there', name, -⟩ := kept i s there
  exact ⟨s', there', name⟩

end Tracker

end DeviceWatch
