import DeviceWatch.Proofs.Job.Lifecycle
import DeviceWatch.Proofs.Pool.Frames

/-!
# Findings that are handed on

An execution that closes its record first has its findings handed on, if it was a poll and there are
any.  Whatever happens in poll traffic is at most one change of the tracker, so that what was
published of a task only moves on; and findings wait to be handed on from the moment at which the
record was closed.
-/

namespace DeviceWatch

/-- The findings of one poll, on their way to the correlation. -/
structure Handover where
  task : Uuid
  connectorId : String
  findings : List Finding

/-- What is handed on after the task has ended so. -/
def Ending.handover? (ending : Ending) (t : Task) : Option Handover :=
  match t.connectorId with
  | some id => if ending.findings.isEmpty then none else some ⟨t.id, id, ending.findings⟩
  | none => none

def Closing.handover? : Closing → Option Handover
  | concluded e ending => ending.handover? e.task
  | _ => none

theorem Ending.handover?_eq_some {ending : Ending} {t : Task} {d : Handover}
    (handed : ending.handover? t = some d) :
    d.task = t.id ∧ d.findings = ending.findings ∧ ending.state = .succeeded := by
  unfold handover? at handed
  split at handed
  · split at handed
    · cases handed
    · rename_i some'
      cases handed
      refine ⟨rfl, rfl, ?_⟩
      cases ending with
      | completed output => rfl
      | _ => exact absurd rfl some'
  · cases handed

namespace Tracker

variable {t t' : Tracker} {id : Uuid} {j : Job} {now : Instant}

theorem start_lastState {worker : String} (h : t.Records)
    (done : t.start id worker now = .ok (j, t')) :
    t.lastState id = some .queued ∧ t'.lastState id = some .running := by
  obtain ⟨old, found, rfl, queued, rfl, rfl⟩ := start_eq h.ownIds done
  have known := h.published found
  exact ⟨queued ▸ known,
    (lastState_publish (j := started old worker now) known now old.taskId).trans (if_pos rfl)⟩

theorem finish_lastState {state : JobState} {error : Option String} {result : Option Json}
    (h : t.Records) (done : t.finish id state error result now = .ok (j, t')) :
    (∃ before, t.lastState id = some before ∧ before.isTerminal = false) ∧
      t'.lastState id = some state := by
  obtain ⟨old, found, rfl, live, -, rfl, rfl⟩ := finish_eq h.ownIds done
  have known := h.published found
  refine ⟨⟨_, known, live⟩, ?_⟩
  let closed := terminated old state error result now
  calc
    ((t.publish closed now).prune _).2.lastState old.taskId
      = (t.publish closed now).lastState old.taskId := lastState_prune _ _ _
    _ = some state := (lastState_publish (j := closed) known now old.taskId).trans (if_pos rfl)

end Tracker

namespace PollTraffic

def lastState (s : PollTraffic) (id : Uuid) : Option JobState := s.pool.tracker.lastState id

def owed (s : PollTraffic) : List Handover := s.closings.filterMap (·.handover?)

/-- Records are in order, and nothing was published of a task that was not accepted. -/
structure Filed (s : PollTraffic) : Prop where
  records : s.pool.tracker.Records
  unknown : ∀ {id}, id ∉ s.accepted → s.lastState id = none

/-- Whatever runs was running or has left the queue. -/
def Staffed (s s' : PollTraffic) : Prop :=
  ∀ e ∈ s'.pool.running, (∃ e' ∈ s.pool.running, e'.task = e.task) ∨
    s.lastState e.task.id = some .queued ∧ s'.lastState e.task.id = some .running

/-- One step of the records and of the executions: the tracker changes once at most. -/
structure Follows (s s' : PollTraffic) : Prop where
  filed : s'.Filed
  change : ∃ written, s.pool.tracker.Change written s'.pool.tracker
  running : s.Staffed s'

variable {s s' : PollTraffic}

theorem Staffed.of_running (same : s'.pool.running = s.pool.running) : s.Staffed s' := by
  intro e there
  rw [same] at there
  exact .inl ⟨e, there, rfl⟩

theorem filed_initial (workers : WorkerConfig) (historyLimit : Nat) (dispatch : DispatchConfig) :
    (initial workers historyLimit dispatch).Filed :=
  ⟨(Tracker.sound_empty historyLimit).toRecords, fun _ => rfl⟩

theorem Follows.lastState (f : s.Follows s') (h : s.Filed) {id : Uuid} {state : JobState}
    (known : s.lastState id = some state) :
    ∃ state', s'.lastState id = some state' ∧ state.MayBecome state' := by
  obtain ⟨written, change⟩ := f.change
  exact change.lastState h.records known

theorem Follows.ended (f : s.Follows s') (h : s.Filed) {id : Uuid} {state : JobState}
    (known : s.lastState id = some state) (ended : state.isTerminal = true) :
    s'.lastState id = some state := by
  obtain ⟨state', shown, moved⟩ := f.lastState h known
  rw [shown, moved.eq_of_ended ended]

theorem Filed.perform (h : s.Filed) (o : Tracker.Operation) (old : o.enqueued? = none)
    (tracker : s'.pool.tracker = (s.pool.tracker.perform o).2) (accepted : s'.accepted = s.accepted)
    (running : s.Staffed s') : s.Follows s' := by
  obtain ⟨written, change, wrote⟩ :=
    Tracker.perform_change h.records.ownIds o fun id submitted => by simp [old] at submitted
  rw [← tracker] at change
  refine ⟨⟨change.records h.records, fun {id} foreign => ?_⟩, ⟨written, change⟩, running⟩
  rw [accepted] at foreign
  refine change.unknown (h.unknown foreign) fun j w queued => ?_
  have submitted := (wrote j w).1 queued
  rw [old] at submitted
  cases submitted

theorem Filed.rest (h : s.Filed) (tracker : s'.pool.tracker = s.pool.tracker)
    (accepted : s'.accepted = s.accepted) (running : s.Staffed s') : s.Follows s' := by
  refine ⟨⟨tracker ▸ h.records, fun {id} foreign => ?_⟩, ⟨none, tracker ▸ .idle⟩, running⟩
  rw [accepted] at foreign
  rw [PollTraffic.lastState, tracker]
  exact h.unknown foreign

theorem Filed.refl (h : s.Filed) : s.Follows s :=
  h.rest rfl rfl (.of_running rfl)

theorem Filed.accept (h : s.Filed) (t : Task) (now : Instant) (unused : t.id ∉ s.accepted)
    (tracker : s'.pool.tracker = (s.pool.tracker.enqueue t now).2)
    (accepted : s'.accepted = t.id :: s.accepted) (running : s'.pool.running = s.pool.running) :
    s.Follows s' := by
  have unknown : s.pool.tracker.feeds.find? t.id = none :=
    Tracker.lastState_eq_none.mp (h.unknown unused)
  have change := Tracker.Change.filed t now unknown
  rw [← tracker] at change
  refine ⟨⟨change.records h.records, fun {id} foreign => ?_⟩, ⟨_, change⟩, .of_running running⟩
  rw [accepted, List.mem_cons, not_or] at foreign
  rw [PollTraffic.lastState, tracker, Tracker.lastState_enqueue, if_neg foreign.1]
  exact h.unknown foreign.2

theorem Filed.configure (h : s.Filed) (outcome : Outcome (Connector × Registry)) :
    s.Follows (s.configure outcome) := by
  cases outcome with
  | ok r => exact h.rest rfl rfl (.of_running rfl)
  | error e => exact h.refl

theorem Filed.claim (h : s.Filed) (id : String) (kind : JobKind) (now : Instant) :
    s.Follows (s.claim id kind now) := by
  unfold PollTraffic.claim
  split
  · exact h.rest rfl rfl (.of_running rfl)
  · exact h.refl

theorem Filed.submit (h : s.Filed) (i : Nat) (c : Claim) (task : Uuid) (now : Instant) :
    s.Follows (s.submit i c task now) := by
  unfold PollTraffic.submit
  split
  · exact h.refl
  · rename_i admissible
    have unused : task ∉ s.accepted := by simp_all
    split
    · rename_i j p done
      rw [Pool.submit_eq_ok done]
      exact h.accept ⟨task, c.kind, .poll c.snapshot⟩ now unused rfl rfl rfl
    · rename_i e p failed
      obtain ⟨metrics, rfl⟩ := Pool.submit_eq_error failed
      exact h.rest rfl rfl (.of_running rfl)

theorem Filed.submitJob (h : s.Filed) (kind : JobKind) (spec : JobSpec) (task : Uuid)
    (now : Instant) : s.Follows (s.submitJob kind spec task now) := by
  unfold PollTraffic.submitJob
  split
  · exact h.refl
  · rename_i admissible
    have unused : task ∉ s.accepted := by simpa using admissible
    split
    · rename_i j p done
      rw [Pool.submit_eq_ok done]
      exact h.accept ⟨task, kind, .job spec⟩ now unused rfl rfl rfl
    · rename_i e p failed
      obtain ⟨metrics, rfl⟩ := Pool.submit_eq_error failed
      exact h.rest rfl rfl (.of_running rfl)

theorem Filed.abort (h : s.Filed) (i : Nat) (c : Claim) : s.Follows (s.abort i c) := by
  unfold PollTraffic.abort
  split
  · exact h.rest rfl rfl (.of_running rfl)
  · exact h.refl

theorem Filed.cancelQueued (h : s.Filed) (task : Uuid) (now : Instant) :
    s.Follows (s.cancelQueued task now) := by
  unfold PollTraffic.cancelQueued
  split
  · rename_i j tracker done
    refine h.perform (.cancelQueued task now) rfl ?_ rfl (.of_running rfl)
    simp [Tracker.perform, done, Tracker.settle, setTracker, setPool]
  · exact h.refl

theorem Filed.start (h : s.Filed) (i : Nat) (t : Task) (worker : Nat) (course : Course)
    (now : Instant) : s.Follows (s.start i t worker course now) := by
  unfold PollTraffic.start
  split
  · split
    · rename_i j tracker done
      refine h.perform (.start t.id (Pool.workerName worker) now) rfl ?_ rfl fun e there => ?_
      · simp [Tracker.perform, done, Tracker.settle, Except.map, setPool]
      · rcases List.mem_append.mp there with before | last
        · exact .inl ⟨e, before, rfl⟩
        · obtain rfl := List.mem_singleton.mp last
          exact .inr (Tracker.start_lastState h.records done)
    · exact h.rest rfl rfl (.of_running rfl)
  · exact h.refl

theorem Filed.finish (h : s.Filed) (e : Execution) (ending : Ending) (now : Instant) :
    s.Follows (s.finish e ending now) := by
  unfold PollTraffic.finish
  split
  · exact h.refl
  · split
    · rename_i j tracker done
      refine h.perform (.finish e.task.id ending.state (ending.error e.task) ending.result now) rfl
        ?_ rfl (.of_running rfl)
      simp [Tracker.perform, done, Tracker.settle, Except.map, setPool, Pool.recordExecution]
    · exact h.rest rfl rfl (.of_running rfl)

theorem Filed.proceed (h : s.Filed) (i : Nat) (problem : Option String) (now : Instant)
    (c : Closing) : s.Follows (s.proceed i problem now c) := by
  cases c with
  | cancelled j =>
    obtain ⟨r, released, -⟩ := s.pool.release_eq j.connectorId .cancelled now
    simp only [PollTraffic.proceed, released]
    exact h.rest rfl rfl (.of_running rfl)
  | concluded e ending =>
    obtain ⟨r, released, -⟩ :=
      s.pool.release_eq e.task.connectorId (ending.pollOutcome e.task problem) now
    simp only [PollTraffic.proceed, released]
    exact h.rest rfl rfl (.of_running rfl)
  | dropped e =>
    obtain ⟨r, released, -⟩ := s.pool.release_eq e.task.connectorId .cancelled now
    simp only [PollTraffic.proceed, released]
    exact h.rest rfl rfl (.of_running rfl)
  | leaving e =>
    exact h.rest rfl rfl fun e' there => .inl ⟨e', (List.mem_filter.mp there).1, rfl⟩

/-- Whatever happens is one step of the records and of the executions. -/
theorem Filed.step (h : s.Filed) (event : PollEvent) : s.Follows (s.step event) := by
  cases event with
  | upsert id input now => exact h.configure _
  | setEnabled id enabled now => exact h.configure _
  | remove id => exact h.configure _
  | claim id kind now => exact h.claim id kind now
  | submit i task now =>
    cases here : s.claims[i]? with
    | none => simpa [PollTraffic.step, here] using h.refl
    | some c => simpa [PollTraffic.step, here] using h.submit i c task now
  | refuse i =>
    cases here : s.claims[i]? with
    | none => simpa [PollTraffic.step, here] using h.refl
    | some c =>
      simp only [PollTraffic.step, here, Option.elim_some]
      exact h.rest rfl rfl (.of_running rfl)
  | abort i =>
    cases here : s.claims[i]? with
    | none => simpa [PollTraffic.step, here] using h.refl
    | some c => simpa [PollTraffic.step, here] using h.abort i c
  | submitJob kind spec task now => exact h.submitJob kind spec task now
  | signal task now =>
    refine h.rest rfl rfl fun e there => ?_
    obtain ⟨e', there', signalled⟩ := List.mem_map.mp there
    refine .inl ⟨e', there', ?_⟩
    rw [← signalled]
    split <;> rfl
  | cancelQueued task now => exact h.cancelQueued task now
  | limit limiter => exact h.rest rfl rfl (.of_running rfl)
  | start i worker course now =>
    cases here : s.pool.queue[i]? with
    | none => simpa [PollTraffic.step, here] using h.refl
    | some t => simpa [PollTraffic.step, here] using h.start i t worker course now
  | report task r now =>
    exact h.perform (.report task r now) rfl rfl rfl (.of_running rfl)
  | finish i ending now =>
    cases here : s.pool.running[i]? with
    | none => simpa [PollTraffic.step, here] using h.refl
    | some e => simpa [PollTraffic.step, here] using h.finish e ending now
  | proceed i problem now =>
    cases here : s.closings[i]? with
    | none => simpa [PollTraffic.step, here] using h.refl
    | some c => simpa [PollTraffic.step, here] using h.proceed i problem now c
  | prune keep => exact h.perform (.prune keep) rfl rfl rfl (.of_running rfl)

/-- Only the end of an execution adds to what is owed, and only a closing that is proceeded with
takes from it. -/
theorem owed_step {event : PollEvent} (goesOn : ∀ i ending now, event ≠ .finish i ending now)
    (noClosing : ∀ i problem now, event ≠ .proceed i problem now) :
    (s.step event).owed = s.owed := by
  cases written : event.writesClosings with
  | false => rw [owed, step_closings written, owed]
  | true =>
    cases event with
    | cancelQueued task now =>
      simp only [PollTraffic.step, PollTraffic.cancelQueued]
      split
      · simp [owed, Closing.handover?]
      · rfl
    | finish i ending now => exact absurd rfl (goesOn i ending now)
    | proceed i problem now => exact absurd rfl (noClosing i problem now)
    | _ => cases written

theorem Filed.owed_finish (h : s.Filed) (e : Execution) (ending : Ending) (now : Instant) :
    ((s.finish e ending now).owed = s.owed ∧
      (s.finish e ending now).lastState e.task.id = s.lastState e.task.id) ∨
    ((s.finish e ending now).owed = s.owed ++ (ending.handover? e.task).toList ∧
      (∃ before, s.lastState e.task.id = some before ∧ before.isTerminal = false) ∧
      (s.finish e ending now).lastState e.task.id = some ending.state) := by
  unfold PollTraffic.finish
  split
  · exact .inl ⟨rfl, rfl⟩
  · split
    · rename_i j tracker done
      refine .inr ⟨?_, Tracker.finish_lastState h.records done⟩
      simp only [owed, List.filterMap_append]
      cases handed : ending.handover? e.task <;> simp [Closing.handover?, handed]
    · exact .inl ⟨by simp [owed, Closing.handover?], rfl⟩

/-- The closing that is proceeded with hands on what it owes. -/
theorem owed_proceed {i : Nat} {c : Closing} (here : s.closings[i]? = some c)
    (problem : Option String) (now : Instant) :
    ∃ before after, s.owed = before ++ c.handover?.toList ++ after ∧
      (s.proceed i problem now c).owed = before ++ after := by
  obtain ⟨before, after, split, erased, replaced⟩ := exists_split_of_getElem? here
  refine ⟨before.filterMap (·.handover?), after.filterMap (·.handover?), ?_, ?_⟩
  · rw [owed, split]
    cases handed : c.handover? <;> simp [handed]
  · cases c with
    | cancelled j => simp [PollTraffic.proceed, owed, erased]
    | concluded e ending => simp [PollTraffic.proceed, owed, replaced, Closing.handover?]
    | dropped e => simp [PollTraffic.proceed, owed, replaced, Closing.handover?]
    | leaving e => simp [PollTraffic.proceed, owed, erased]

end PollTraffic

end DeviceWatch
