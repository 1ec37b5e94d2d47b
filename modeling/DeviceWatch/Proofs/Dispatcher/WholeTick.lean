import DeviceWatch.Proofs.Dispatcher.Polls
import DeviceWatch.Proofs.Schedule.Triggers

/-!
# A whole tick

Polls come first, then the jobs that are due.  A job is skipped while a task of its name is active,
which may be a poll of the same tick; the others are started while the queue has room.  All that a
tick does is told by the state that it finds.
-/

namespace DeviceWatch

namespace Dispatcher

variable {d : Dispatcher} {spec : JobSpec} {specs : List JobSpec} {at' now : Instant}

def activeJobs (d : Dispatcher) (specs : List JobSpec) : List JobSpec :=
  specs.filter fun spec => d.tracker.isActive spec.name

def idleJobs (d : Dispatcher) (specs : List JobSpec) : List JobSpec :=
  specs.filter fun spec => !d.tracker.isActive spec.name

/-- What the visits of due jobs do to the report and to the queue; connectors are left alone. -/
structure Starts (now : Instant) (specs : List JobSpec) (before after : TickReport × Dispatcher) :
    Prop where
  report : after.1 = { before.1 with
    jobsDispatched := before.1.jobsDispatched ++
      ((before.2.idleJobs specs).take before.2.room).map (·.name)
    jobsSkippedActive := before.1.jobsSkippedActive ++ (before.2.activeJobs specs).map (·.name) }
  registry : after.2.registry = before.2.registry
  admits : ∃ runs, before.2.Admits after.2 runs now ∧
    runs.map (fun t => (t.kind, t.payload)) =
      ((before.2.idleJobs specs).take before.2.room).map fun spec => (.scheduled, .job spec)

namespace Starts

variable {report : TickReport} {after : TickReport × Dispatcher} {rest : List JobSpec}

theorem nothing (state : TickReport × Dispatcher) : Starts now [] state state where
  report := by simp [activeJobs, idleJobs]
  registry := rfl
  admits := ⟨[], admits_nothing _ _, by simp [idleJobs]⟩

theorem skip (active : d.tracker.isActive spec.name = true)
    (h : Starts now rest ({ report with
      jobsSkippedActive := report.jobsSkippedActive ++ [spec.name] },
      d.recordTrigger spec.name at') after) : Starts now (spec :: rest) (report, d) after := by
  have idle : d.idleJobs (spec :: rest) = d.idleJobs rest := by simp [idleJobs, active]
  have passed : d.activeJobs (spec :: rest) = spec :: d.activeJobs rest := by
    simp [activeJobs, active]
  constructor
  · rw [idle, passed, h.report]
    simp [recordTrigger, idleJobs, activeJobs, tracker, room]
  · exact h.registry
  · obtain ⟨runs, more, payloads⟩ := h.admits
    rw [idle]
    exact ⟨runs, ((admits_nothing d now).recordTrigger spec.name at').trans more, payloads⟩

/-- The jobs after the first one have other names, so that it does not make them active. -/
theorem start (fresh : d.Fresh) (idle : d.tracker.isActive spec.name = false)
    (accepts : d.Accepts) (others : ∀ other ∈ rest, spec.name ≠ other.name)
    (h : Starts now rest
      ({ report with jobsDispatched := report.jobsDispatched ++ [spec.name] },
        (d.submit .scheduled (.job spec) now).2.recordTrigger spec.name at') after) :
    Starts now (spec :: rest) (report, d) after := by
  let started := (d.submit .scheduled (.job spec) now).2.recordTrigger spec.name at'
  have admits : d.Admits started [⟨d.ids.draw.1, .scheduled, .job spec⟩] now :=
    (admits_of_accepts accepts _ _ now).recordTrigger spec.name at'
  have same (other : JobSpec) (there : other ∈ rest) :
      started.tracker.isActive other.name = d.tracker.isActive other.name := by
    rw [admits.isActive fresh]
    simp [Task.jobName, others other there]
  have ready : d.idleJobs (spec :: rest) = spec :: started.idleJobs rest := by
    rw [idleJobs, List.filter_cons_of_pos (by simp [idle])]
    exact congrArg (spec :: ·) (List.filter_congr fun other there => by rw [same other there])
  have passed : d.activeJobs (spec :: rest) = started.activeJobs rest := by
    rw [activeJobs, List.filter_cons_of_neg (by simp [idle])]
    exact List.filter_congr fun other there => by rw [same other there]
  have room : d.room = started.room + 1 := by
    have some' := (accepts_iff accepts.1).mp accepts
    have less : started.room = d.room - 1 := admits.room
    omega
  constructor
  · rw [ready, passed, room, h.report]
    simp [started]
  · rw [h.registry]
    exact submit_registry d _ _ now
  · obtain ⟨runs, more, payloads⟩ := h.admits
    rw [ready, room]
    exact ⟨_, admits.trans more, congrArg (_ :: ·) payloads⟩

theorem leave (working : d.pool.stopped = false) (idle : d.tracker.isActive spec.name = false)
    (full : ¬d.Accepts)
    (h : Starts now rest (report, (d.submit .scheduled (.job spec) now).2) after) :
    Starts now (spec :: rest) (report, d) after := by
  let refused := (d.submit .scheduled (.job spec) now).2
  have admits : d.Admits refused [] now := admits_of_full working full _ _ now
  have tracker : refused.tracker = d.tracker := admits.tracker
  have passed : d.activeJobs (spec :: rest) = refused.activeJobs rest := by
    rw [activeJobs, List.filter_cons_of_neg (by simp [idle]), activeJobs, tracker]
  have room : d.room = 0 := Nat.eq_zero_of_not_pos (mt (accepts_iff working).mpr full)
  have room' : refused.room = 0 := admits.room.trans room
  obtain ⟨counts, registry, runs, more, payloads⟩ := h
  simp only [show (d.submit .scheduled (.job spec) now).2.room = 0 from room', List.take_zero]
    at counts payloads
  constructor
  · rw [passed, room, counts]
    simp [refused]
  · rw [registry]
    exact submit_registry d _ _ now
  · rw [room]
    exact ⟨runs, admits.trans more, payloads⟩

end Starts

theorem starts_foldl (state : TickReport × Dispatcher) (working : state.2.pool.stopped = false)
    (fresh : state.2.Fresh) (distinct : (specs.map (·.name)).Nodup) :
    Starts now specs state (specs.foldl (tickJob at' now) state) := by
  induction specs generalizing state with
  | nil => exact .nothing state
  | cons spec rest ih =>
    obtain ⟨report, d⟩ := state
    obtain ⟨first, distinct⟩ := List.nodup_cons.mp distinct
    have others (other : JobSpec) (there : other ∈ rest) : spec.name ≠ other.name := fun same =>
      first (List.mem_map.mpr ⟨other, there, same.symm⟩)
    rw [List.foldl_cons, tickJob_eq]
    cases active : d.tracker.isActive spec.name with
    | true =>
      rw [if_pos rfl]
      exact .skip active (ih _ working fresh distinct)
    | false =>
      rw [if_neg (by simp)]
      by_cases accepts : d.Accepts
      · rw [if_pos accepts]
        have admits := admits_of_accepts accepts .scheduled (.job spec) now
        refine .start fresh active accepts others (ih _ ?_ ?_ distinct)
        · exact admits.stopped.trans working
        · exact admits.fresh fresh
      · rw [if_neg accepts]
        have admits := admits_of_full working accepts .scheduled (.job spec) now
        exact .leave working active accepts
          (ih _ (admits.stopped.trans working) (admits.fresh fresh) distinct)

/-- The enabled connectors that are due, in order of creation. -/
def dueConnectors (d : Dispatcher) (at' : Instant) : List Connector :=
  (d.registry.list (some true)).filter (·.isDue at')

/-- Those of them that are not in flight. -/
def readyConnectors (d : Dispatcher) (at' : Instant) : List Connector :=
  (d.dueConnectors at').filter fun c => !d.registry.isInFlight c.id

/-- The first of those, as many as the queue has room for. -/
def polled (d : Dispatcher) (at' : Instant) : List Connector :=
  (d.readyConnectors at').take (min (d.readyConnectors at').length d.room)

/-- A task of the name is active, or the tick polls a connector under it. -/
def blocked (d : Dispatcher) (at' : Instant) (name : String) : Bool :=
  d.tracker.isActive name || (d.polled at').any fun c => "poll:" ++ c.id == name

/-- The first due jobs that are not blocked, as many as the polls leave room for. -/
def started (d : Dispatcher) (at' : Instant) : List JobSpec :=
  ((d.schedule.due at').filter fun spec => !d.blocked at' spec.name).take
    (d.room - (d.polled at').length)

/-- What a tick reports and leaves behind, by what it finds. -/
structure TickEffect (d : Dispatcher) (at' now : Instant) (report : TickReport)
    (after : Dispatcher) : Prop where
  skipped : report.skippedInFlight =
    ((d.dueConnectors at').filter fun c => d.registry.isInFlight c.id).map (·.id)
  inOrder : report.dispatched ++ report.deferredBackpressure =
    (d.readyConnectors at').map (·.id)
  dispatched : report.dispatched = (d.polled at').map (·.id)
  jobsSkipped : report.jobsSkippedActive =
    ((d.schedule.due at').filter fun spec => d.blocked at' spec.name).map (·.name)
  jobsDispatched : report.jobsDispatched = (d.started at').map (·.name)
  /-- What is deferred or left untouched has found a full queue. -/
  full : report.deferredBackpressure ≠ [] ∨
      (∃ spec ∈ d.schedule.due at', ¬report.Reports spec.name) →
    d.pool.config.queueBound ≤ after.pool.reserved
  /-- The new tasks wait in the queue, and each has a record. -/
  tasks : ∃ tasks : List Task,
    tasks.map (fun t => (t.kind, t.payload)) =
      (d.polled at').map (fun c => (.poll, .poll (c.claimed at'))) ++
        (d.started at').map (fun spec => (.scheduled, .job spec)) ∧
    after.pool.queue = d.pool.queue ++ tasks ∧
    after.tracker.jobs.entries = d.tracker.jobs.entries ++ tasks.map fun t => (t.id, t.toJob now)
  /-- Of the new records, one belongs to each connector that is polled. -/
  onePoll : ∀ c ∈ d.polled at', ∃ j,
    (after.tracker.jobs.values.drop d.tracker.jobs.size).filter (·.connectorId = some c.id) = [j] ∧
      j.kind = .poll ∧ j.state = .queued ∧ j.config = c.settings.toJson
  queued : after.pool.reserved =
    d.pool.reserved + report.dispatched.length + report.jobsDispatched.length
  connector : ∀ id, after.registry.connectors.find? id =
    if id ∈ report.dispatched then (d.registry.connectors.find? id).map (·.claimed at')
    else d.registry.connectors.find? id
  claim : ∀ id, after.registry.inFlight.find? id =
    if id ∈ report.dispatched then (d.registry.connectors.find? id).map (·.status)
    else d.registry.inFlight.find? id
  entry : ∀ name, after.schedule.entries.find? name =
    if report.Reports name then
      (d.schedule.entries.find? name).map fun e => { e with lastTriggered := some at' }
    else d.schedule.entries.find? name
  kept : after.registry.connectors.keys = d.registry.connectors.keys ∧
    after.pool.config = d.pool.config ∧ after.pool.limiter = d.pool.limiter ∧
    after.pool.running = d.pool.running ∧ after.pool.stopped = d.pool.stopped

theorem pollable_list (d : Dispatcher) (at' : Instant) :
    d.pollable at' (d.registry.list (some true)) = d.readyConnectors at' := by
  rw [readyConnectors, dueConnectors, List.filter_filter]
  exact List.filter_congr fun c _ => Bool.and_comm _ _

theorem occupied_list (d : Dispatcher) (at' : Instant) :
    d.occupied at' (d.registry.list (some true)) =
      (d.dueConnectors at').filter fun c => d.registry.isInFlight c.id := by
  rw [dueConnectors, List.filter_filter]
  exact List.filter_congr fun c _ => Bool.and_comm _ _

theorem take_room (d : Dispatcher) (at' : Instant) :
    (d.readyConnectors at').take d.room = d.polled at' := by
  rw [polled, Nat.min_comm]
  exact List.take_eq_take_min

theorem polled_sublist (d : Dispatcher) (at' : Instant) :
    (d.polled at').Sublist (d.registry.list (some true)) :=
  (List.take_sublist _ _).trans (List.filter_sublist.trans List.filter_sublist)

theorem exists_poll {cs : List Connector} {polls : List Task}
    (payloads : polls.map (fun t => (t.kind, t.payload)) =
      cs.map fun c => (JobKind.poll, Payload.poll (c.claimed at')))
    (distinct : (cs.map (·.id)).Nodup) {c : Connector} (there : c ∈ cs) :
    ∃ t, polls.filter (·.connectorId = some c.id) = [t] ∧ t.kind = .poll ∧
      t.payload = .poll (c.claimed at') := by
  let ofIt (p : JobKind × Payload) : Bool :=
    (Task.mk default p.1 p.2).connectorId = some c.id
  have found : (polls.filter (·.connectorId = some c.id)).map (fun t => (t.kind, t.payload)) =
      [(JobKind.poll, Payload.poll (c.claimed at'))] :=
    calc
      _ = (polls.map fun t => (t.kind, t.payload)).filter ofIt := List.filter_map.symm
      _ = (cs.filter fun other => other.id = c.id).map
          fun other => (JobKind.poll, Payload.poll (other.claimed at')) := by
        rw [payloads, List.filter_map]
        simp [ofIt, Function.comp_def, Task.connectorId, Connector.claimed]
      _ = _ := by rw [filter_key_eq distinct there]; rfl
  obtain ⟨t, only, same⟩ := List.map_eq_singleton_iff.mp found
  obtain ⟨kind, payload⟩ := Prod.mk.inj same
  exact ⟨t, only, kind, payload⟩

theorem any_of_payloads {tasks : List Task} {payloads : List (JobKind × Payload)}
    (same : tasks.map (fun t => (t.kind, t.payload)) = payloads) (name : String) :
    (tasks.any fun t => t.jobName == name) =
      payloads.any fun p => (Task.mk default p.1 p.2).jobName == name := by
  rw [← same, List.any_map]
  rfl

/-- The pool comes about in some traffic, and the table of jobs in some run. -/
structure Reachable (d : Dispatcher) : Prop where
  pool : ∃ workers historyLimit dispatch events,
    (PollTraffic.run (.initial workers historyLimit dispatch) events).Stands d
  schedule : ∃ pool ids history, d.schedule = (run ⟨pool, default, ids⟩ history).schedule

theorem reachable_new (workers : WorkerConfig) (historyLimit : Nat) (dispatch : DispatchConfig) :
    Reachable ⟨.new workers (.empty historyLimit) (.empty dispatch), default, {}⟩ where
  pool := ⟨workers, historyLimit, dispatch, [], rfl, fun _ _ => List.not_mem_nil⟩
  schedule := ⟨.new workers (.empty historyLimit) (.empty dispatch), {}, [], rfl⟩

namespace Reachable

theorem sound (h : d.Reachable) : d.registry.OwnIds ∧ d.Fresh ∧ d.schedule.Sound := by
  obtain ⟨workers, historyLimit, dispatch, events, stands⟩ := h.pool
  obtain ⟨pool, ids, history, schedule⟩ := h.schedule
  have traffic : (PollTraffic.run (.initial workers historyLimit dispatch) events).Sound :=
    PollTraffic.run_induction (PollTraffic.sound_initial workers historyLimit dispatch)
      (fun _ e sound => sound.step e) events
  refine ⟨?_, stands.fresh_records traffic, ?_⟩
  · have own := traffic.registered
    rwa [stands.pool] at own
  · rw [schedule]
    exact sound_run Schedule.sound_default history

theorem tick (h : d.Reachable) (at' now : Instant) : (d.tick at' now).2.Reachable := by
  constructor
  · obtain ⟨workers, historyLimit, dispatch, events, stands⟩ := h.pool
    obtain ⟨more, stands', -, -⟩ := stands.tick at' now
    exact ⟨workers, historyLimit, dispatch, events ++ more, PollTraffic.run_append _ _ _ ▸ stands'⟩
  · obtain ⟨pool, ids, history, schedule⟩ := h.schedule
    refine ⟨pool, ids, history ++ [.elsewhere d.pool d.ids, .tick at' now], ?_⟩
    have ran : run ⟨pool, default, ids⟩ (history ++ [.elsewhere d.pool d.ids]) = d :=
      calc
        _ = (run ⟨pool, default, ids⟩ history).step (.elsewhere d.pool d.ids) := List.foldl_append
        _ = ⟨d.pool, (run ⟨pool, default, ids⟩ history).schedule, d.ids⟩ := rfl
        _ = d := by rw [← schedule]
    have ticked : run ⟨pool, default, ids⟩ (history ++ [.elsewhere d.pool d.ids, .tick at' now]) =
        (d.tick at' now).2 :=
      calc
        _ = (run ⟨pool, default, ids⟩ (history ++ [.elsewhere d.pool d.ids])).step
            (.tick at' now) := by simp [run]
        _ = _ := by rw [ran, step_tick]
    rw [ticked]

end Reachable

def told (d : Dispatcher) (at' : Instant) : TickReport where
  dispatched := (d.polled at').map (·.id)
  skippedInFlight := ((d.dueConnectors at').filter fun c => d.registry.isInFlight c.id).map (·.id)
  deferredBackpressure := ((d.readyConnectors at').drop d.room).map (·.id)
  jobsDispatched := (d.started at').map (·.name)
  jobsSkippedActive :=
    ((d.schedule.due at').filter fun spec => d.blocked at' spec.name).map (·.name)

/-- The polls come first, then the jobs; of those some have become active meanwhile, and there is
less room for them. -/
theorem exists_tasks (own : d.registry.OwnIds) (fresh : d.Fresh) (scheduled : d.schedule.Sound)
    (working : d.pool.stopped = false) (at' now : Instant) :
    ∃ polls runs, d.Admits (d.tick at' now).2 (polls ++ runs) now ∧
      (polls.map fun t => (t.kind, t.payload)) =
        (d.polled at').map (fun c => (.poll, .poll (c.claimed at'))) ∧
      (runs.map fun t => (t.kind, t.payload)) =
        (d.started at').map (fun spec => (.scheduled, .job spec)) ∧
      (d.tick at' now).1 = d.told at' ∧
      (d.tick at' now).2.registry = d.registry.claimAll at' (d.polled at') := by
  let listed := d.registry.list (some true)
  let due := d.schedule.due at'
  let before := d.afterPolls at' now
  have visits : Visits at' now listed ({}, d) before :=
    visits_foldl ({}, d) working (own.nodup_list _) fun c there => own.mem_list.mp there
  have ready : (({}, d) : TickReport × Dispatcher).2.pollable at' listed = d.readyConnectors at' :=
    d.pollable_list at'
  have held : (({}, d) : TickReport × Dispatcher).2.occupied at' listed = _ := d.occupied_list at'
  obtain ⟨counts, claims, polls, sent, pollPayloads⟩ := visits
  rw [ready, d.take_room at'] at claims pollPayloads
  rw [ready, held, d.take_room at'] at counts
  have lengthPolls : polls.length = (d.polled at').length := by
    simpa using congrArg List.length pollPayloads
  have starts : Starts now due before (d.tick at' now) := by
    rw [tick_eq]
    exact starts_foldl before (sent.stopped.trans working) (sent.fresh fresh)
      (scheduled.ownNames.nodup_due at')
  have active (name : String) : before.2.tracker.isActive name = d.blocked at' name := by
    rw [sent.isActive fresh, any_of_payloads pollPayloads, List.any_map]
    rfl
  have room : before.2.room = d.room - (d.polled at').length := lengthPolls ▸ sent.room
  have started : (before.2.idleJobs due).take before.2.room = d.started at' := by
    simp only [idleJobs, active, room, Dispatcher.started, due]
  have passed : before.2.activeJobs due = due.filter fun spec => d.blocked at' spec.name := by
    simp only [activeJobs, active]
  obtain ⟨counts', registry, runs, submitted, runPayloads⟩ := starts
  rw [started] at counts' runPayloads
  rw [passed] at counts'
  refine ⟨polls, runs, sent.trans submitted, pollPayloads, runPayloads, ?_, registry.trans claims⟩
  rw [counts', counts]
  rfl

theorem room_le_of_left (d : Dispatcher) (at' : Instant)
    (left : (d.told at').deferredBackpressure ≠ [] ∨
      ∃ spec ∈ d.schedule.due at', ¬(d.told at').Reports spec.name) :
    d.room ≤ (d.polled at').length + (d.started at').length := by
  rcases left with deferred | ⟨spec, there, unreported⟩
  · have beyond : d.room < (d.readyConnectors at').length := by
      refine Nat.lt_of_not_le fun fits => deferred ?_
      simp only [told, List.drop_of_length_le fits, List.map_nil]
    rw [polled, List.length_take]
    omega
  · obtain ⟨notStarted, notSkipped⟩ := not_or.mp unreported
    let idle := (d.schedule.due at').filter fun spec => !d.blocked at' spec.name
    have free : d.blocked at' spec.name = false := by
      refine Bool.eq_false_iff.mpr fun blocked => notSkipped ?_
      exact List.mem_map.mpr ⟨spec, List.mem_filter.mpr ⟨there, blocked⟩, rfl⟩
    have waits : spec ∈ idle := List.mem_filter.mpr ⟨there, by simp [free]⟩
    have beyond : d.room - (d.polled at').length < idle.length := by
      refine Nat.lt_of_not_le fun fits => notStarted (List.mem_map.mpr ⟨spec, ?_, rfl⟩)
      rwa [started, List.take_of_length_le fits]
    have filled : (d.started at').length = d.room - (d.polled at').length := by
      rw [started, List.length_take]
      exact Nat.min_eq_left (Nat.le_of_lt beyond)
    omega

theorem filter_runs {specs : List JobSpec} {runs : List Task} (payloads :
      runs.map (fun t => (t.kind, t.payload)) =
        specs.map fun spec => (JobKind.scheduled, Payload.job spec)) (id : String) :
    runs.filter (·.connectorId = some id) = [] := by
  refine List.filter_eq_nil_iff.mpr fun t there => ?_
  have run := List.mem_map_of_mem (f := fun t : Task => (t.kind, t.payload)) there
  rw [payloads] at run
  obtain ⟨spec, -, same⟩ := List.mem_map.mp run
  simp [Task.connectorId, ← (Prod.mk.inj same).2]

/-- In every state that can be reached, unless the pool was stopped, a tick reports and does what is
told of the state that it finds. -/
theorem tick_effect (reachable : d.Reachable) (working : d.pool.stopped = false)
    (at' now : Instant) : d.TickEffect at' now (d.tick at' now).1 (d.tick at' now).2 := by
  obtain ⟨own, fresh, scheduled⟩ := reachable.sound
  obtain ⟨polls, runs, admits, pollPayloads, runPayloads, report, registry⟩ :=
    exists_tasks own fresh scheduled working at' now
  have lengthPolls : polls.length = (d.polled at').length := by
    simpa using congrArg List.length pollPayloads
  have lengthRuns : runs.length = (d.started at').length := by
    simpa using congrArg List.length runPayloads
  have reserved : (d.tick at' now).2.pool.reserved =
      d.pool.reserved + (d.polled at').length + (d.started at').length := by
    rw [admits.reserved, List.length_append, lengthPolls, lengthRuns, Nat.add_assoc]
  have within := d.polled_sublist at'
  have distinct : ((d.polled at').map (·.id)).Nodup :=
    (own.nodup_list (some true)).sublist (within.map _)
  have claimed := Registry.find?_claimAll distinct
    (fun c there => own.mem_list.mp (within.subset there)) at'
  rw [← registry] at claimed
  have entries := admits.entries fresh
  constructor
  case skipped => rw [report]; rfl
  case inOrder =>
    rw [report]
    simp only [told]
    rw [← d.take_room at', ← List.map_append, List.take_append_drop]
  case dispatched => rw [report]; rfl
  case jobsSkipped => rw [report]; rfl
  case jobsDispatched => rw [report]; rfl
  case full =>
    intro left
    rw [report] at left
    have none' := d.room_le_of_left at' left
    rw [room] at none'
    omega
  case tasks =>
    refine ⟨polls ++ runs, ?_, admits.queue, entries⟩
    rw [List.map_append, pollPayloads, runPayloads]
  case onePoll =>
    intro c there
    obtain ⟨t, only, kind, payload⟩ := exists_poll pollPayloads distinct there
    have added : (d.tick at' now).2.tracker.jobs.values.drop d.tracker.jobs.size =
        (polls ++ runs).map (·.toJob now) := by
      simp only [OrderedMap.values, entries, OrderedMap.size, List.map_append, List.map_map,
        Function.comp_def]
      exact List.drop_left' (List.length_map _)
    refine ⟨t.toJob now, ?_, kind, rfl, ?_⟩
    · rw [added, List.filter_map]
      show ((polls ++ runs).filter (·.connectorId = some c.id)).map (·.toJob now) = _
      rw [List.filter_append, only, filter_runs runPayloads]
      rfl
    · simp [Task.toJob, Task.config, payload, Connector.claimed]
  case queued =>
    rw [reserved, report]
    simp [told]
  case connector =>
    intro id
    rw [(claimed id).1, report]
    rfl
  case claim =>
    intro id
    rw [(claimed id).2, report]
    rfl
  case entry =>
    intro name
    cases found : d.schedule.entries.find? name with
    | none => rw [find?_tick_of_absent scheduled found, Option.map_none, ite_self]
    | some e =>
      rw [(serves_tick scheduled found at' now).recorded]
      split <;> rfl
  case kept =>
    refine ⟨?_, admits.config, admits.limiter, admits.running, admits.stopped⟩
    rw [registry]
    refine Registry.keys_claimAll (fun c there => ?_) at'
    exact OrderedMap.mem_keys_iff.mpr ⟨c, (own.mem_list.mp (within.subset there)).1⟩

/-- One of five connectors is polled by hand, and one is disabled. -/
def atHand : List PollEvent :=
  let ping (enabled : Bool) : ConnectorInput := ⟨none, .ping { host := "10.1.1.1" }, enabled, none⟩
  [.upsert "edge-1" (ping true) default, .upsert "edge-2" (ping false) default,
    .upsert "edge-3" (ping true) default, .upsert "edge-4" (ping true) default,
    .upsert "edge-5" (ping true) default, .claim "edge-1" .manual default, .submit 0 ⟨1⟩ default]

/-- The queue has three places.  One of two jobs has the name of a poll. -/
def atNight : Dispatcher :=
  let start : PollTraffic := .initial { queueBound := 3 } 500 {}
  let jobs : List DispatchEvent := [
    .register ⟨"nightly", "maintenance", .null, none⟩ "0 2 * * *" true default,
    .register ⟨"poll:edge-3", "maintenance", .null, none⟩ "0 2 * * *" true default]
  ⟨(start.run atHand).pool, (run ⟨start.pool, default, {}⟩ jobs).schedule, {}⟩

/-- Two connectors are polled and a third one is deferred; one job is skipped for a poll of this
tick, and the other one finds a full queue. -/
theorem tick_effect_atNight :
    let at' : Instant := .ofParts 354600 0
    let after := atNight.tick at' default
    atNight.Reachable ∧ atNight.pool.stopped = false ∧
      after.1 = ⟨["edge-3", "edge-4"], ["edge-1"], ["edge-5"], [], ["poll:edge-3"]⟩ ∧
      after.2.pool.reserved = 3 ∧ atNight.TickEffect at' default after.1 after.2 := by
  intro at' after
  have reachable : atNight.Reachable := by
    refine ⟨⟨{ queueBound := 3 }, 500, {}, atHand, rfl, fun n _ taken => ?_⟩, _, _, _, rfl⟩
    have accepted :
        (PollTraffic.run (.initial { queueBound := 3 } 500 {}) atHand).accepted = [⟨1⟩] := by
      decide +kernel
    rw [accepted, List.mem_singleton] at taken
    have small := congrArg Uuid.value taken
    simp only [IdSupply.nth] at small
    omega
  exact ⟨reachable, rfl, by decide +kernel, by decide +kernel,
    tick_effect reachable rfl at' default⟩

end Dispatcher

end DeviceWatch
