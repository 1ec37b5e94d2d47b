import DeviceWatch.Proofs.Job.ActiveRuns
import DeviceWatch.Proofs.Pool.Accounts

/-!
# Runs of scheduled jobs

Whoever wants to run a job looks whether a run of it is active, and then submits one: two steps, and
anything may happen between them.  Ticks and requests may be at work on any number of jobs at the
same time, while connectors are polled, workers work and tasks are cancelled.

The main result says exactly when two runs of one name are active: a run was submitted after a check
that another task of the name had overtaken, or a poll was submitted under a name in use.
-/

namespace DeviceWatch

namespace Schedule

def OwnNames (s : Schedule) : Prop := ∀ name e, s.entries.find? name = some e → e.spec.name = name

variable {s : Schedule} {name : String} {now : Instant}

theorem OwnNames.spec (h : s.OwnNames) {spec : JobSpec} (found : s.spec name = .ok spec) :
    spec.name = name := by
  unfold Schedule.spec find at found
  cases stored : s.entries.find? name with
  | none => simp [stored, Except.map] at found
  | some e =>
    simp only [stored, Except.map, Except.ok.injEq] at found
    exact found ▸ h name e stored

theorem OwnNames.insert (h : s.OwnNames) {e : ScheduleEntry} (own : e.spec.name = name) :
    OwnNames ⟨s.entries.insert name e⟩ := by
  intro other entry found
  rw [OrderedMap.find?_insert] at found
  by_cases same : other = name
  · rw [if_pos same] at found
    cases found
    exact own.trans same.symm
  · rw [if_neg same] at found
    exact h other entry found

theorem OwnNames.register (h : s.OwnNames) {spec : JobSpec} {cron : String} {enabled : Bool}
    {r : ScheduledJob × Schedule} (done : s.register spec cron enabled now = .ok r) :
    r.2.OwnNames := by
  unfold Schedule.register at done
  dsimp only at done
  split at done
  · cases done
  · cases done
    exact h.insert rfl

theorem OwnNames.toggle (h : s.OwnNames) {r : ScheduledJob × Schedule}
    (done : s.toggle name now = .ok r) : r.2.OwnNames := by
  unfold Schedule.toggle find at done
  cases stored : s.entries.find? name with
  | none => simp [stored, bind, Except.bind] at done
  | some e =>
    simp only [stored, bind, Except.bind, pure, Except.pure, Except.ok.injEq] at done
    subst done
    exact h.insert (h name e stored)

theorem OwnNames.recordTrigger (h : s.OwnNames) (name : String) (now : Instant) :
    (s.recordTrigger name now).OwnNames := by
  intro other entry found
  simp only [Schedule.recordTrigger, OrderedMap.find?_modify] at found
  by_cases same : other = name
  · rw [if_pos same] at found
    obtain ⟨e, stored, rfl⟩ := Option.map_eq_some_iff.mp found
    exact h other e stored
  · rw [if_neg same] at found
    exact h other entry found

end Schedule

namespace MeteredPool

def Accepts (s : MeteredPool) (t : Task) (now : Instant) : Prop :=
  t.id ∉ s.accepted ∧ ∃ j, (s.pool.submit t now).1 = .ok j

variable {workers : WorkerConfig} {s : MeteredPool} {t : Task} {now : Instant}

theorem submit_of_accepts (h : s.Accepts t now) :
    (s.submit t now).pool.tracker = (s.pool.tracker.enqueue t now).2 ∧
      (s.submit t now).accepted = t.id :: s.accepted := by
  obtain ⟨unused, j, answered⟩ := h
  have fresh : ¬s.accepted.contains t.id = true := by simpa using unused
  unfold MeteredPool.submit
  rw [if_neg fresh]
  split
  · rename_i done
    rw [Pool.submit_eq_ok done]
    exact ⟨rfl, rfl⟩
  · rename_i failed
    rw [failed] at answered
    cases answered

theorem submit_of_not_accepts (h : ¬s.Accepts t now) :
    (s.submit t now).pool.tracker = s.pool.tracker ∧ (s.submit t now).accepted = s.accepted := by
  unfold MeteredPool.submit
  split
  · exact ⟨rfl, rfl⟩
  · rename_i fresh
    have unused : t.id ∉ s.accepted := by simpa using fresh
    split
    · rename_i j p done
      exact absurd ⟨unused, j, by rw [done]⟩ h
    · rename_i failed
      obtain ⟨metrics, same⟩ := Pool.submit_eq_error failed
      rw [same]
      exact ⟨rfl, rfl⟩

theorem Sound.step_proceeds (h : s.Sound workers) {event : PoolEvent}
    (other : ∀ t now, event ≠ .submit t now) :
    s.pool.tracker.Proceeds (s.step event).pool.tracker ∧
      (s.step event).accepted = s.accepted := by
  have performs := Tracker.perform_proceeds h.files.ownIds
  cases event with
  | submit t now => exact absurd rfl (other t now)
  | cancel task now =>
    refine ⟨?_, rfl⟩
    obtain ⟨-, -, -, -, tracker⟩ := s.pool.cancel_frame task now
    show s.pool.tracker.Proceeds (s.pool.cancel task now).2.tracker
    rcases tracker with same | ⟨j, done⟩
    · rw [same]
      exact .refl _
    · simpa [Tracker.perform, done, Tracker.settle] using performs (.cancelQueued task now) rfl
  | take i worker course now =>
    cases here : s.pool.queue[i]? with
    | none => simpa [MeteredPool.step, here] using Tracker.Proceeds.refl s.pool.tracker
    | some t =>
      simp only [MeteredPool.step, here, Option.elim_some, MeteredPool.take]
      split
      · unfold Pool.take
        cases started : s.pool.tracker.start t.id (Pool.workerName worker) now with
        | ok r =>
          refine ⟨?_, by simp [started, MeteredPool.setPool]⟩
          simpa [Tracker.perform, started, Tracker.settle, Except.map, MeteredPool.setPool] using
            performs (.start t.id (Pool.workerName worker) now) rfl
        | error problem =>
          simpa [started, MeteredPool.setPool] using Tracker.Proceeds.refl s.pool.tracker
      · exact ⟨.refl _, rfl⟩
  | conclude i ending problem now =>
    cases here : s.pool.running[i]? with
    | none => simpa [MeteredPool.step, here] using Tracker.Proceeds.refl s.pool.tracker
    | some e =>
      simp only [MeteredPool.step, here, Option.elim_some]
      refine ⟨?_, rfl⟩
      obtain ⟨-, -, -, -, tracker⟩ := s.pool.conclude_frame e ending problem now
      show s.pool.tracker.Proceeds (s.pool.conclude e ending problem now).tracker
      cases done : s.pool.tracker.finish e.task.id ending.state (ending.error e.task)
          ending.result now with
      | ok r =>
        simp only [done] at tracker
        rw [tracker]
        simpa [Tracker.perform, done, Tracker.settle, Except.map] using
          performs (.finish e.task.id ending.state (ending.error e.task) ending.result now) rfl
      | error failed =>
        simp only [done] at tracker
        rw [tracker]
        exact .refl _
  | report task r now => exact ⟨performs (.report task r now) rfl, rfl⟩
  | prune keep => exact ⟨performs (.prune keep) rfl, rfl⟩
  | configure r => exact ⟨.refl _, rfl⟩
  | limit limiter => exact ⟨.refl _, rfl⟩

end MeteredPool

/-- A run of a scheduled job that somebody is about to submit. -/
structure PendingRun where
  kind : JobKind
  spec : JobSpec
  /-- Once no active run was found: the tasks that had been accepted by then. -/
  seen : Option (List Uuid) := none

structure RunTraffic where
  metered : MeteredPool
  schedule : Schedule := default
  pending : List PendingRun := []

inductive RunEvent where
  | register (spec : JobSpec) (cron : String) (enabled : Bool) (now : Instant)
  | toggle (name : String) (now : Instant)
  | trigger (name : String) (at' : Instant)
  /-- A tick or a request looks up a registered job. -/
  | call (kind : JobKind) (name : String)
  | check (run : Nat)
  | submit (run : Nat) (task : Uuid) (now : Instant)
  /-- Anything else that happens to the pool: polls are submitted, workers work, tasks are
  cancelled. -/
  | pool (event : PoolEvent)

namespace RunTraffic

def tracker (s : RunTraffic) : Tracker := s.metered.pool.tracker

def configure (s : RunTraffic) : Outcome (ScheduledJob × Schedule) → RunTraffic
  | .ok (_, schedule) => { s with schedule := schedule }
  | .error _ => s

def call (s : RunTraffic) (kind : JobKind) (name : String) : RunTraffic :=
  match s.schedule.spec name with
  | .ok spec => { s with pending := s.pending ++ [{ kind := kind, spec := spec }] }
  | .error _ => s

/-- The run is given up if another one is active. -/
def check (s : RunTraffic) (i : Nat) (r : PendingRun) : RunTraffic :=
  if s.tracker.isActive r.spec.name then { s with pending := s.pending.eraseIdx i }
  else { s with pending := s.pending.set i { r with seen := some s.metered.accepted } }

def submit (s : RunTraffic) (i : Nat) (r : PendingRun) (task : Uuid) (now : Instant) : RunTraffic :=
  if r.seen.isSome then
    { s with
      metered := s.metered.submit ⟨task, r.kind, .job r.spec⟩ now
      pending := s.pending.eraseIdx i }
  else s

/-- Runs of scheduled jobs are submitted after a check only. -/
def proceed (s : RunTraffic) : PoolEvent → RunTraffic
  | .submit t now =>
    if t.connectorId.isSome then { s with metered := s.metered.submit t now } else s
  | event => { s with metered := s.metered.step event }

def step (s : RunTraffic) : RunEvent → RunTraffic
  | .register spec cron enabled now => s.configure (s.schedule.register spec cron enabled now)
  | .toggle name now => s.configure (s.schedule.toggle name now)
  | .trigger name at' => { s with schedule := s.schedule.recordTrigger name at' }
  | .call kind name => s.call kind name
  | .check i => (s.pending[i]?).elim s fun r => s.check i r
  | .submit i task now => (s.pending[i]?).elim s fun r => s.submit i r task now
  | .pool event => s.proceed event

def run (s : RunTraffic) (events : List RunEvent) : RunTraffic := events.foldl step s

def initial (workers : WorkerConfig) (historyLimit : Nat) (dispatch : DispatchConfig) :
    RunTraffic where
  metered := .initial workers historyLimit dispatch

/-- A second run of the name is submitted and accepted: since the check of the first kind another
task of the name was accepted, which is still active; the second kind is a poll, for which there is
no such check. -/
inductive Doubles (s : RunTraffic) (name : String) : RunEvent → Prop
  | overtaken (i : Nat) (r : PendingRun) (seen : List Uuid) (task : Uuid) (now : Instant)
    (here : s.pending[i]? = some r) (checked : r.seen = some seen) (named : r.spec.name = name)
    (accepts : s.metered.Accepts ⟨task, r.kind, .job r.spec⟩ now) (other : Uuid)
    (since : other ∈ s.metered.accepted ∧ other ∉ seen) (active : s.tracker.IsRun other name) :
    s.Doubles name (.submit i task now)
  | polled (t : Task) (now : Instant) (poll : t.connectorId.isSome = true)
    (named : t.jobName = name) (accepts : s.metered.Accepts t now) (other : Uuid)
    (active : s.tracker.IsRun other name) : s.Doubles name (.pool (.submit t now))

/-- Jobs are registered under their names, and no task that a check had seen is an active run of the
name that it looked for. -/
structure Sound (workers : WorkerConfig) (s : RunTraffic) : Prop where
  metered : s.metered.Sound workers
  ownNames : s.schedule.OwnNames
  unseen : ∀ r ∈ s.pending, ∀ seen, r.seen = some seen →
    (∀ id ∈ seen, id ∈ s.metered.accepted) ∧ ∀ id ∈ seen, ¬s.tracker.IsRun id r.spec.name

variable {workers : WorkerConfig} {s : RunTraffic} {name : String}

theorem sound_initial (workers : WorkerConfig) (historyLimit : Nat) (dispatch : DispatchConfig) :
    (initial workers historyLimit dispatch).Sound workers where
  metered := MeteredPool.sound_initial workers historyLimit dispatch
  ownNames := fun _ _ found => nomatch found
  unseen := nofun

theorem Sound.proceeds (h : s.Sound workers) {m : MeteredPool} (metered : m.Sound workers)
    (proceeds : s.tracker.Proceeds m.pool.tracker) (accepted : m.accepted = s.metered.accepted) :
    ({ s with metered := m } : RunTraffic).Sound workers where
  metered := metered
  ownNames := h.ownNames
  unseen := by
    intro r there seen checked
    obtain ⟨known, inactive⟩ := h.unseen r there seen checked
    refine ⟨fun id before => accepted ▸ known id before, fun id before active => ?_⟩
    exact inactive id before (proceeds.isRun active)

theorem Sound.accept (h : s.Sound workers) (t : Task) (now : Instant) :
    ({ s with metered := s.metered.submit t now } : RunTraffic).Sound workers := by
  have metered := h.metered.submit t now
  by_cases accepts : s.metered.Accepts t now
  · obtain ⟨tracker, accepted⟩ := MeteredPool.submit_of_accepts accepts
    refine ⟨metered, h.ownNames, ?_⟩
    intro r there seen checked
    obtain ⟨known, inactive⟩ := h.unseen r there seen checked
    constructor
    · intro id before
      show id ∈ (s.metered.submit t now).accepted
      rw [accepted]
      exact List.mem_cons_of_mem _ (known id before)
    · intro id before active
      have active : (s.metered.submit t now).pool.tracker.IsRun id r.spec.name := active
      rw [tracker] at active
      rcases active.of_enqueue with own | old
      · exact accepts.1 (own ▸ known id before)
      · exact inactive id before old
  · obtain ⟨tracker, accepted⟩ := MeteredPool.submit_of_not_accepts accepts
    apply h.proceeds metered ?_ accepted
    rw [tracker]
    exact .refl _

theorem Sound.forget (h : s.Sound workers) (i : Nat) :
    ({ s with pending := s.pending.eraseIdx i } : RunTraffic).Sound workers where
  metered := h.metered
  ownNames := h.ownNames
  unseen := fun r there => h.unseen r (List.mem_of_mem_eraseIdx there)

theorem Sound.check (h : s.Sound workers) (i : Nat) (r : PendingRun) :
    (s.check i r).Sound workers := by
  unfold RunTraffic.check
  by_cases active : s.tracker.isActive r.spec.name = true
  · rw [if_pos active]
    exact h.forget i
  · rw [if_neg active]
    refine ⟨h.metered, h.ownNames, ?_⟩
    intro q there seen checked
    rcases List.mem_or_eq_of_mem_set there with other | rfl
    · exact h.unseen q other seen checked
    · cases checked
      refine ⟨fun id before => before, fun id before isRun => active ?_⟩
      rw [Tracker.isActive_eq]
      exact decide_eq_true (Tracker.activeRuns_pos.mpr ⟨id, isRun⟩)

theorem Sound.step (h : s.Sound workers) (event : RunEvent) : (s.step event).Sound workers := by
  have configured {outcome : Outcome (ScheduledJob × Schedule)}
      (ownNames : ∀ r, outcome = .ok r → r.2.OwnNames) : (s.configure outcome).Sound workers := by
    cases outcome with
    | ok r => exact ⟨h.metered, ownNames r rfl, h.unseen⟩
    | error e => exact h
  cases event with
  | register spec cron enabled now =>
    rw [RunTraffic.step]
    exact configured fun r done => h.ownNames.register done
  | toggle job now =>
    rw [RunTraffic.step]
    exact configured fun r done => h.ownNames.toggle done
  | trigger job at' => exact ⟨h.metered, h.ownNames.recordTrigger job at', h.unseen⟩
  | call kind name =>
    simp only [RunTraffic.step, RunTraffic.call]
    cases s.schedule.spec name with
    | ok spec =>
      refine ⟨h.metered, h.ownNames, fun r there seen checked => ?_⟩
      rcases List.mem_append.mp there with before | last
      · exact h.unseen r before seen checked
      · rw [List.mem_singleton.mp last] at checked
        cases checked
    | error e => exact h
  | check i =>
    cases here : s.pending[i]? with
    | none => simpa [RunTraffic.step, here] using h
    | some r => simpa [RunTraffic.step, here] using h.check i r
  | submit i task now =>
    cases here : s.pending[i]? with
    | none => simpa [RunTraffic.step, here] using h
    | some r =>
      simp only [RunTraffic.step, here, Option.elim_some, RunTraffic.submit]
      split
      · exact (h.accept ⟨task, r.kind, .job r.spec⟩ now).forget i
      · exact h
  | pool event =>
    have other (differs : ∀ t now, event ≠ .submit t now) :
        ({ s with metered := s.metered.step event } : RunTraffic).Sound workers := by
      obtain ⟨proceeds, accepted⟩ := h.metered.step_proceeds differs
      exact h.proceeds (h.metered.step event) proceeds accepted
    cases event with
    | submit t now =>
      simp only [RunTraffic.step, RunTraffic.proceed]
      split
      · exact h.accept t now
      · exact h
    | _ => exact other (by simp)

theorem Sound.run (h : s.Sound workers) (events : List RunEvent) : (s.run events).Sound workers := by
  induction events generalizing s with
  | nil => exact h
  | cons event rest ih => exact ih (h.step event)

/-- A call that is checked at once. -/
theorem run_check {spec : JobSpec} (found : s.schedule.spec name = .ok spec) (kind : JobKind) :
    s.run [.call kind name, .check s.pending.length] =
      if s.tracker.isActive spec.name then s
      else
        let r : PendingRun := { kind := kind, spec := spec, seen := some s.metered.accepted }
        { s with pending := s.pending ++ [r] } := by
  let r : PendingRun := { kind := kind, spec := spec }
  have called : s.step (.call kind name) = { s with pending := s.pending ++ [r] } := by
    simp only [RunTraffic.step, RunTraffic.call, found]
    rfl
  have here : (s.pending ++ [r])[s.pending.length]? = some r := List.getElem?_concat_length
  show (s.step (.call kind name)).step (.check s.pending.length) = _
  rw [called]
  simp only [RunTraffic.step, here, Option.elim_some, RunTraffic.check, eraseIdx_concat]
  by_cases active : s.tracker.isActive spec.name = true
  · rw [if_pos active]
    exact if_pos active
  · rw [if_neg active]
    refine (if_neg active).trans ?_
    simp [r]

/-- A call that is checked and submitted at once: nothing happens if a run is active. -/
theorem run_call {spec : JobSpec} (found : s.schedule.spec name = .ok spec) (kind : JobKind)
    (task : Uuid) (now : Instant) :
    let k := s.pending.length
    s.run [.call kind name, .check k, .submit k task now] =
      if s.tracker.isActive spec.name then s
      else { s with metered := s.metered.submit ⟨task, kind, .job spec⟩ now } := by
  intro k
  let r : PendingRun := { kind := kind, spec := spec, seen := some s.metered.accepted }
  show (s.run [.call kind name, .check k]).step (.submit k task now) = _
  rw [run_check found kind]
  by_cases active : s.tracker.isActive spec.name = true
  · rw [if_pos active, if_pos active]
    simp [RunTraffic.step, k]
  · have here : (s.pending ++ [r])[k]? = some r := List.getElem?_concat_length
    rw [if_neg active, if_neg active]
    simp [RunTraffic.step, RunTraffic.submit, k, eraseIdx_concat]

/-- When a run is submitted right after its check, it is the only one. -/
theorem not_doubles_of_undisturbed (s : RunTraffic) (kind : JobKind) (job : String) (task : Uuid)
    (now : Instant) (name : String) :
    ¬(s.run [.call kind job, .check s.pending.length]).Doubles name
      (.submit s.pending.length task now) := by
  have noneLeft : s.pending[s.pending.length]? = none := List.getElem?_eq_none (Nat.le_refl _)
  intro doubles
  cases found : s.schedule.spec job with
  | error e =>
    have nothing : s.run [.call kind job, .check s.pending.length] = s := by
      show (s.step (.call kind job)).step (.check s.pending.length) = s
      simp [RunTraffic.step, RunTraffic.call, found]
    rw [nothing] at doubles
    cases doubles with
    | overtaken i r seen task now here =>
      rw [noneLeft] at here
      cases here
  | ok spec =>
    rw [run_check found kind] at doubles
    by_cases active : s.tracker.isActive spec.name = true
    · rw [if_pos active] at doubles
      cases doubles with
      | overtaken i r seen task now here =>
        rw [noneLeft] at here
        cases here
    · rw [if_neg active] at doubles
      cases doubles with
      | overtaken i r seen task now here checked named accepts other since =>
        simp only [List.getElem?_concat_length, Option.some.injEq] at here
        rw [← here] at checked
        cases checked
        exact since.2 since.1

theorem Sound.exists_run_runJobNow (h : s.Sound workers) {d : Dispatcher}
    (pool : s.metered.pool = d.pool) (schedule : s.schedule = d.schedule)
    (unused : d.ids.draw.1 ∉ s.metered.accepted) (name : String) (now : Instant) :
    ∃ events, (s.run events).metered.pool = (d.runJobNow name now).2.pool := by
  have sameTracker : s.tracker = d.tracker := congrArg Pool.tracker pool
  unfold Dispatcher.runJobNow
  cases found : d.schedule.spec name with
  | error e => exact ⟨[], pool⟩
  | ok spec =>
    rw [← schedule] at found
    obtain rfl : spec.name = name := h.ownNames.spec found
    refine ⟨_, congrArg (·.metered.pool) (run_call found .manual d.ids.draw.1 now) |>.trans ?_⟩
    rw [sameTracker]
    by_cases active : d.tracker.isActive spec.name = true
    · simp only [if_pos active]
      exact pool
    · simp only [if_neg active]
      exact MeteredPool.step_submit_pool pool unused .manual (.job spec) now

/-- What a tick does for a job is a call, and then the occurrence counts as served. -/
theorem exists_run_tickJob {d : Dispatcher} (pool : s.metered.pool = d.pool) {spec : JobSpec}
    (registered : s.schedule.spec spec.name = .ok spec)
    (unused : d.ids.draw.1 ∉ s.metered.accepted) (at' now : Instant) (report : TickReport) :
    ∃ events, (s.run events).metered.pool = (Dispatcher.tickJob at' now (report, d) spec).2.pool := by
  have sameTracker : s.tracker = d.tracker := congrArg Pool.tracker pool
  refine ⟨_, congrArg (·.metered.pool) (run_call registered .scheduled d.ids.draw.1 now) |>.trans ?_⟩
  unfold Dispatcher.tickJob
  rw [sameTracker]
  by_cases active : d.tracker.isActive spec.name = true
  · simp only [if_pos active]
    exact pool
  · simp only [if_neg active]
    have submitted := MeteredPool.step_submit_pool pool unused .scheduled (.job spec) now
    refine Eq.trans submitted ?_
    rcases done : d.submit .scheduled (.job spec) now with ⟨answer, d'⟩
    cases answer <;> rfl

theorem Sound.activeRuns_of_accepts (h : s.Sound workers) {t : Task} {now : Instant}
    (accepts : s.metered.Accepts t now) (name : String) :
    (s.metered.submit t now).pool.tracker.activeRuns name =
      s.tracker.activeRuns name + if t.jobName = name then 1 else 0 := by
  rw [(MeteredPool.submit_of_accepts accepts).1]
  exact Tracker.activeRuns_enqueue (h.metered.files.fresh accepts.1) now

theorem Sound.two_of_doubles (h : s.Sound workers) {event : RunEvent}
    (doubles : s.Doubles name event) : 2 ≤ (s.step event).tracker.activeRuns name := by
  have two {t : Task} {now : Instant} (accepts : s.metered.Accepts t now)
      (named : t.jobName = name) {other : Uuid} (active : s.tracker.IsRun other name) :
      2 ≤ (s.metered.submit t now).pool.tracker.activeRuns name := by
    have added := h.activeRuns_of_accepts accepts name
    rw [if_pos named] at added
    have one := Tracker.activeRuns_pos.mpr ⟨other, active⟩
    omega
  cases doubles with
  | overtaken i r seen task now here checked named accepts other since active =>
    have ready : r.seen.isSome = true := by rw [checked]; rfl
    simp only [RunTraffic.step, here, Option.elim_some, RunTraffic.submit, if_pos ready]
    exact two accepts named active
  | polled t now poll named accepts other active =>
    simp only [RunTraffic.step, RunTraffic.proceed, if_pos poll]
    exact two accepts named active

theorem Sound.activeRuns_submit_le_one (h : s.Sound workers)
    (one : s.tracker.activeRuns name ≤ 1) (t : Task) (now : Instant)
    (alone : s.metered.Accepts t now → t.jobName = name → ∀ other, ¬s.tracker.IsRun other name) :
    (s.metered.submit t now).pool.tracker.activeRuns name ≤ 1 := by
  by_cases accepts : s.metered.Accepts t now
  · rw [h.activeRuns_of_accepts accepts name]
    by_cases named : t.jobName = name
    · have none' : ¬0 < s.tracker.activeRuns name := by
        intro pos
        obtain ⟨other, active⟩ := Tracker.activeRuns_pos.mp pos
        exact alone accepts named other active
      rw [if_pos named]
      omega
    · rw [if_neg named]
      exact one
  · rw [(MeteredPool.submit_of_not_accepts accepts).1]
    exact one

theorem Sound.one_of_not_doubles (h : s.Sound workers) (one : s.tracker.activeRuns name ≤ 1)
    {event : RunEvent} (single : ¬s.Doubles name event) :
    (s.step event).tracker.activeRuns name ≤ 1 := by
  have configured (outcome : Outcome (ScheduledJob × Schedule)) :
      (s.configure outcome).tracker.activeRuns name ≤ 1 := by
    cases outcome <;> exact one
  cases event with
  | register spec cron enabled now =>
    rw [RunTraffic.step]
    exact configured _
  | toggle job now =>
    rw [RunTraffic.step]
    exact configured _
  | trigger job at' => exact one
  | call kind job =>
    simp only [RunTraffic.step, RunTraffic.call]
    split <;> exact one
  | check i =>
    simp only [RunTraffic.step, RunTraffic.check]
    cases s.pending[i]? with
    | none => exact one
    | some r =>
      simp only [Option.elim_some]
      split <;> exact one
  | submit i task now =>
    cases here : s.pending[i]? with
    | none => simpa [RunTraffic.step, here] using one
    | some r =>
      simp only [RunTraffic.step, here, Option.elim_some, RunTraffic.submit]
      cases checked : r.seen with
      | none => exact one
      | some seen =>
        apply h.activeRuns_submit_le_one one
        intro accepts named other active
        apply single
        -- What is active now was accepted at some time, but not before the check.
        obtain ⟨j, found, isRun⟩ := active
        have named : r.spec.name = name := named
        have accepted := h.metered.files.known other j found
        have since : other ∉ seen := by
          intro before
          have inactive := (h.unseen r (List.mem_of_getElem? here) seen checked).2 other before
          exact inactive ⟨j, found, named ▸ isRun⟩
        exact .overtaken i r seen task now here checked named accepts other ⟨accepted, since⟩
          ⟨j, found, isRun⟩
  | pool event =>
    have other (differs : ∀ t now, event ≠ .submit t now) :
        (s.metered.step event).pool.tracker.activeRuns name ≤ 1 :=
      Nat.le_trans (h.metered.step_proceeds differs).1.activeRuns_le one
    cases event with
    | submit t now =>
      simp only [RunTraffic.step, RunTraffic.proceed]
      split
      · rename_i poll
        apply h.activeRuns_submit_le_one one
        intro accepts named other active
        exact single (.polled t now poll named accepts other active)
      · exact one
    | _ => exact other (by simp)

/-- Throughout a run, at most one task of a name is queued or running if and only if nothing doubles
it: no run is submitted after a check that another task of the name has overtaken, and no poll is
submitted under the name while a task of the name is active. -/
theorem atMostOneActive_throughout_iff (workers : WorkerConfig) (historyLimit : Nat)
    (dispatch : DispatchConfig) (events : List RunEvent) (name : String) :
    (∀ n, ((initial workers historyLimit dispatch).run (events.take n)).tracker.activeRuns name ≤
        1) ↔
      ∀ n event, events[n]? = some event →
        ¬((initial workers historyLimit dispatch).run (events.take n)).Doubles name event := by
  have sound (n : Nat) : ((initial workers historyLimit dispatch).run (events.take n)).Sound
      workers := (sound_initial workers historyLimit dispatch).run _
  have next {n : Nat} {event : RunEvent} (there : events[n]? = some event) :
      (initial workers historyLimit dispatch).run (events.take (n + 1)) =
        ((initial workers historyLimit dispatch).run (events.take n)).step event := by
    rw [List.take_add_one, there, RunTraffic.run, List.foldl_append]
    rfl
  constructor
  · intro one n event there doubles
    have still := one (n + 1)
    rw [next there] at still
    have two := (sound n).two_of_doubles doubles
    omega
  · intro single n
    induction n with
    | zero => exact Nat.zero_le 1
    | succ n ih =>
      cases there : events[n]? with
      | none =>
        rw [List.take_add_one, there, Option.toList_none, List.append_nil]
        exact ih
      | some event =>
        rw [next there]
        exact (sound n).one_of_not_doubles ih (single n event there)

/-- Two requests to run a job look before either of them has submitted its run. -/
def twoRequests : List RunEvent :=
  [.register ⟨"nightly", "snmp", .null, none⟩ "0 0 2 * * *" true default,
    .call .manual "nightly", .call .manual "nightly", .check 0, .check 1,
    .submit 0 ⟨1⟩ default, .submit 0 ⟨2⟩ default]

theorem not_atMostOneActive_twoRequests :
    let s := (initial {} 500 {}).run twoRequests
    ¬∀ name, s.schedule.entries.contains name = true → s.tracker.activeRuns name ≤ 1 := by
  intro s one
  have registered : s.schedule.entries.contains "nightly" = true := by decide +kernel
  have two : s.tracker.activeRuns "nightly" = 2 := by decide +kernel
  have atMost := one "nightly" registered
  omega

end RunTraffic

end DeviceWatch
