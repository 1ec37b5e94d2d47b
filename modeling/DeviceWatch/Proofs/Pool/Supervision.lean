import DeviceWatch.Proofs.Pool.Handover
import DeviceWatch.Timeline

/-!
# Cancelled work is never handed on

An execution waits for its driver, for the timeout and for a cancel at the same time.  Once it has
noticed a cancel, it gives the driver some grace and then ends as cancelled, whatever the driver
says.  The ending goes into the record, and the findings are handed on if nobody had closed the
record before.  Cancels come at any time, also before the start, and whoever holds the tracker may
close a record.

The main result is `handed_on_once_after_success`: in any run, the findings of a task are handed on
once at most, after the success of that task was accepted; and work that was cancelled while it was
queued is not even begun.
-/

namespace DeviceWatch

/-- How far an execution has come. -/
inductive Phase where
  | starting
  /-- The driver was invoked and has not answered. -/
  | working
  /-- The cancel was noticed, and the driver is given some grace. -/
  | told
  | ended (ending : Ending)

instance (p : Phase) : Decidable (p = .told) :=
  match p with
  | .told => isTrue rfl
  | .starting | .working | .ended _ => isFalse nofun

/-- What an execution waits for. -/
inductive Occurrence where
  | resolved
  | answered (result : DriverResult)
  | timedOut
  /-- The cancel is noticed. -/
  | noticed
  | graceOver

/-- What an occurrence means to an execution; none if it was not waited for. -/
def Phase.next? (p : Phase) (e : Execution) (config : WorkerConfig) (signalled : Bool)
    (o : Occurrence) : Option Phase :=
  match p, o with
  | starting, .resolved =>
    match e.course with
    | .missing => some (ended (.failed ("no driver registered for '" ++ e.task.driverKind ++ "'")))
    | _ => some working
  | working, .answered result => some (ended (.ofResult result))
  | working, .timedOut => some (ended (.timedOut (e.timeoutSecs config)))
  | working, .noticed => if signalled then some told else none
  | told, .answered _ => some (ended .cancelled)
  | told, .graceOver => some (ended .cancelled)
  | _, _ => none

namespace Phase

variable {e : Execution} {config : WorkerConfig} {signalled : Bool} {o : Occurrence} {p : Phase}

theorem next?_told (next : told.next? e config signalled o = some p) : p = ended .cancelled := by
  cases o with
  | answered result => exact (Option.some.inj next).symm
  | graceOver => exact (Option.some.inj next).symm
  | _ => cases next

theorem next?_ended (ending : Ending) : (ended ending).next? e config signalled o = none := by
  cases o <;> rfl

end Phase

structure Supervision where
  traffic : PollTraffic
  /-- The tasks whose cancel was signalled, whether they were running or not. -/
  signalled : List Uuid := []
  phase : Uuid → Phase := fun _ => .starting
  /-- The tasks whose drivers were invoked. -/
  invoked : List Uuid := []
  /-- What was handed on. -/
  handedOn : List Handover := []

namespace Supervision

inductive Event where
  /-- Something happens in the traffic.  Executions do not end this way. -/
  | traffic (event : PollEvent)
  /-- Somebody who runs no execution closes a record. -/
  | close (task : Uuid) (state : JobState) (error : Option String) (result : Option Json)
    (now : Instant)
  | occur (place : Nat) (o : Occurrence)
  /-- An execution that is over closes its record. -/
  | conclude (place : Nat) (now : Instant)

def setTraffic (s : Supervision) (t : PollTraffic) : Supervision := { s with traffic := t }

def pass (s : Supervision) : PollEvent → Supervision
  | .finish _ _ _ => s
  | .signal task now =>
    { s with traffic := s.traffic.step (.signal task now), signalled := task :: s.signalled }
  | event => s.setTraffic (s.traffic.step event)

def close (s : Supervision) (task : Uuid) (state : JobState) (error : Option String)
    (result : Option Json) (now : Instant) : Supervision :=
  s.setTraffic (s.traffic.setTracker
    (s.traffic.pool.tracker.perform (.finish task state error result now)).2)

def enter (s : Supervision) (task : Uuid) (p : Phase) : Supervision :=
  { s with
    phase := fun id => if id = task then p else s.phase id
    invoked := match p with
      | .working => task :: s.invoked
      | _ => s.invoked }

def occur (s : Supervision) (e : Execution) (o : Occurrence) : Supervision :=
  let next := (s.phase e.task.id).next? e s.traffic.pool.config (s.signalled.contains e.task.id) o
  next.elim s (s.enter e.task.id)

def conclude (s : Supervision) (e : Execution) (now : Instant) : Supervision :=
  match s.phase e.task.id with
  | .ended ending => s.setTraffic (s.traffic.finish e ending now)
  | _ => s

/-- What an event hands on. -/
def handsOn (s : Supervision) : Event → List Handover
  | .traffic (.proceed i _ _) => ((s.traffic.closings[i]?).bind (·.handover?)).toList
  | _ => []

def act (s : Supervision) : Event → Supervision
  | .traffic event => s.pass event
  | .close task state error result now => s.close task state error result now
  | .occur i o => (s.traffic.pool.running[i]?).elim s fun e => s.occur e o
  | .conclude i now => (s.traffic.pool.running[i]?).elim s fun e => s.conclude e now

def step (s : Supervision) (event : Event) : Supervision :=
  { s.act event with handedOn := s.handedOn ++ s.handsOn event }

def run (s : Supervision) (events : List Event) : Supervision := events.foldl step s

theorem run_cons (s : Supervision) (event : Event) (rest : List Event) :
    s.run (event :: rest) = (s.step event).run rest := rfl

def initial (workers : WorkerConfig) (historyLimit : Nat) (dispatch : DispatchConfig) :
    Supervision where
  traffic := .initial workers historyLimit dispatch

def lastState (s : Supervision) (task : Uuid) : Option JobState := s.traffic.lastState task

/-- What was handed on, and what is still to be handed on. -/
def handovers (s : Supervision) : List Handover := s.handedOn ++ s.traffic.owed

/-- The event is the accepted success of the execution to which the findings belong. -/
def Concludes (s : Supervision) (event : Event) (d : Handover) : Prop :=
  ∃ i now e ending, event = .conclude i now ∧ s.traffic.pool.running[i]? = some e ∧
    s.phase e.task.id = .ended ending ∧ ending.handover? e.task = some d ∧
    s.lastState d.task = some .running ∧ (s.step event).lastState d.task = some .succeeded

def WasStarted (s : Supervision) (task : Uuid) : Prop :=
  ∃ state, s.lastState task = some state ∧ state ≠ .queued

/-- The findings are those of an execution that succeeded. -/
structure Earned (s : Supervision) (d : Handover) : Prop where
  succeeded : s.lastState d.task = some .succeeded
  ending : ∃ ending, s.phase d.task = .ended ending ∧ ending.state = .succeeded ∧
    d.findings = ending.findings

structure Sound (s : Supervision) : Prop where
  filed : s.traffic.Filed
  running : ∀ e ∈ s.traffic.pool.running, s.WasStarted e.task.id
  invoked : ∀ task ∈ s.invoked, s.WasStarted task
  earned : ∀ d ∈ s.handovers, s.Earned d
  once : ∀ task, s.handovers.countP (·.task == task) ≤ 1

variable {s : Supervision}

theorem sound_initial (workers : WorkerConfig) (historyLimit : Nat) (dispatch : DispatchConfig) :
    (initial workers historyLimit dispatch).Sound := by
  constructor
  · exact PollTraffic.filed_initial workers historyLimit dispatch
  · intro e there
    cases there
  · intro task there
    cases there
  · intro d there
    cases there
  · intro task
    exact Nat.zero_le 1

theorem pass_traffic (s : Supervision) {event : PollEvent}
    (goesOn : ∀ i ending now, event ≠ .finish i ending now) :
    (s.pass event).traffic = s.traffic.step event := by
  cases event with
  | finish i ending now => exact absurd rfl (goesOn i ending now)
  | _ => rfl

theorem pass_phase (s : Supervision) (event : PollEvent) :
    (s.pass event).phase = s.phase ∧ (s.pass event).invoked = s.invoked := by
  cases event <;> exact ⟨rfl, rfl⟩

theorem occur_eq (s : Supervision) (e : Execution) (o : Occurrence) :
    s.occur e o = s ∨ ∃ p, (s.phase e.task.id).next? e s.traffic.pool.config
      (s.signalled.contains e.task.id) o = some p ∧ s.occur e o = s.enter e.task.id p := by
  unfold occur
  cases next : (s.phase e.task.id).next? e s.traffic.pool.config
      (s.signalled.contains e.task.id) o with
  | none => exact .inl rfl
  | some p => exact .inr ⟨p, rfl, rfl⟩

theorem conclude_eq (s : Supervision) (e : Execution) (now : Instant) :
    s.conclude e now = s ∨ ∃ ending, s.phase e.task.id = .ended ending ∧
      s.conclude e now = s.setTraffic (s.traffic.finish e ending now) := by
  unfold conclude
  split
  · rename_i ending settled
    exact .inr ⟨ending, settled, rfl⟩
  · exact .inl rfl

/-- A phase is entered by an execution, and the driver of no other task is invoked. -/
theorem step_phase (s : Supervision) (event : Event) :
    ((s.step event).phase = s.phase ∧ (s.step event).invoked = s.invoked) ∨
    ∃ e ∈ s.traffic.pool.running, ∃ signalled o p,
      (s.phase e.task.id).next? e s.traffic.pool.config signalled o = some p ∧
      (∀ id, (s.step event).phase id = if id = e.task.id then p else s.phase id) ∧
      ∀ task ∈ (s.step event).invoked, task ∈ s.invoked ∨ task = e.task.id := by
  cases event with
  | traffic event => exact .inl (s.pass_phase event)
  | close task state error result now => exact .inl ⟨rfl, rfl⟩
  | conclude i now =>
    left
    cases here : s.traffic.pool.running[i]? with
    | none => simp [step, act, here]
    | some e =>
      simp only [step, act, here, Option.elim_some]
      rcases s.conclude_eq e now with same | ⟨ending, -, concluded⟩
      · rw [same]
        exact ⟨rfl, rfl⟩
      · rw [concluded]
        exact ⟨rfl, rfl⟩
  | occur i o =>
    cases here : s.traffic.pool.running[i]? with
    | none => exact .inl (by simp [step, act, here])
    | some e =>
      simp only [step, act, here, Option.elim_some]
      rcases s.occur_eq e o with same | ⟨p, next, entered⟩
      · rw [same]
        exact .inl ⟨rfl, rfl⟩
      · rw [entered]
        refine .inr ⟨e, List.mem_of_getElem? here, _, o, p, next, fun id => rfl, ?_⟩
        intro task there
        cases p with
        | working => exact (List.mem_cons.mp there).symm
        | _ => exact .inl there

theorem Sound.follows (h : s.Sound) (event : Event) :
    s.traffic.Follows (s.step event).traffic := by
  cases event with
  | traffic event =>
    show s.traffic.Follows (s.pass event).traffic
    cases event with
    | finish i ending now => exact h.filed.refl
    | _ =>
      rw [s.pass_traffic (by simp)]
      exact h.filed.step _
  | close task state error result now =>
    exact h.filed.perform (.finish task state error result now) rfl rfl rfl (.of_running rfl)
  | occur i o =>
    cases here : s.traffic.pool.running[i]? with
    | none => simpa [step, act, here] using h.filed.refl
    | some e =>
      simp only [step, act, here, Option.elim_some]
      rcases s.occur_eq e o with same | ⟨p, -, entered⟩
      · rw [same]
        exact h.filed.refl
      · rw [entered]
        exact h.filed.refl
  | conclude i now =>
    cases here : s.traffic.pool.running[i]? with
    | none => simpa [step, act, here] using h.filed.refl
    | some e =>
      simp only [step, act, here, Option.elim_some]
      rcases s.conclude_eq e now with same | ⟨ending, -, concluded⟩
      · rw [same]
        exact h.filed.refl
      · rw [concluded]
        exact h.filed.finish e ending now

theorem handovers_proceed (s : Supervision) (i : Nat) (problem : Option String) (now : Instant) :
    (s.step (.traffic (.proceed i problem now))).handovers.Perm s.handovers := by
  cases here : s.traffic.closings[i]? with
  | none => simp [handovers, step, act, pass, PollTraffic.step, handsOn, setTraffic, here]
  | some c =>
    obtain ⟨before, after, owed, owed'⟩ := PollTraffic.owed_proceed here problem now
    have traffic : (s.step (.traffic (.proceed i problem now))).traffic =
        s.traffic.proceed i problem now c := by
      simp [step, act, pass, PollTraffic.step, setTraffic, here]
    have handedOn : (s.step (.traffic (.proceed i problem now))).handedOn =
        s.handedOn ++ c.handover?.toList := by
      simp [step, handsOn, here]
    rw [handovers, handovers, traffic, handedOn, owed, owed', List.append_assoc]
    apply List.Perm.append_left
    rw [← List.append_assoc]
    exact List.perm_append_comm.append_right after

theorem WasStarted.running {task : Uuid} (started : s.WasStarted task) {state : JobState}
    (known : s.lastState task = some state) (live : state.isTerminal = false) :
    s.lastState task = some .running := by
  obtain ⟨state', known', notQueued⟩ := started
  rw [known] at known'
  cases known'
  cases state with
  | queued => exact absurd rfl notQueued
  | running => exact known
  | _ => cases live

theorem Sound.handovers_conclude (h : s.Sound) {i : Nat} {e : Execution}
    (here : s.traffic.pool.running[i]? = some e) (now : Instant) :
    (s.step (.conclude i now)).handovers.Perm s.handovers ∨
    ∃ d, s.Concludes (.conclude i now) d ∧
      (s.step (.conclude i now)).handovers.Perm (d :: s.handovers) := by
  have handedOn : (s.step (.conclude i now)).handedOn = s.handedOn := List.append_nil _
  have stepped : (s.step (.conclude i now)).traffic = (s.conclude e now).traffic := by
    simp [step, act, here]
  rcases s.conclude_eq e now with unchanged | ⟨ending, settled, concluded⟩
  · left
    rw [handovers, stepped, unchanged, handedOn]
    exact .refl _
  · rw [concluded] at stepped
    rcases h.filed.owed_finish e ending now with
      ⟨owed, -⟩ | ⟨owed, ⟨before, known, live⟩, closed⟩
    · left
      rw [handovers, stepped, handedOn]
      simp [handovers, setTraffic, owed]
    · cases handed : ending.handover? e.task with
      | none =>
        left
        rw [handovers, stepped, handedOn]
        simp [handovers, setTraffic, owed, handed]
      | some d =>
        right
        obtain ⟨sameTask, -, succeeded⟩ := Ending.handover?_eq_some handed
        have running : s.lastState d.task = some .running := by
          rw [sameTask]
          exact (h.running e (List.mem_of_getElem? here)).running known live
        have success : (s.step (.conclude i now)).lastState d.task = some .succeeded := by
          rw [lastState, stepped, sameTask, ← succeeded]
          exact closed
        refine ⟨d, ⟨i, now, e, ending, rfl, here, settled, handed, running, success⟩, ?_⟩
        rw [handovers, stepped, handedOn, setTraffic, owed, handed, ← List.append_assoc]
        exact List.perm_append_singleton d _

/-- An accepted success adds to what is handed on.  Nothing else adds to it, and nothing is lost. -/
theorem Sound.handovers_step (h : s.Sound) (event : Event) :
    (s.step event).handovers.Perm s.handovers ∨
    ∃ d, s.Concludes event d ∧ (s.step event).handovers.Perm (d :: s.handovers) := by
  have same {event : Event} (owed : (s.step event).traffic.owed = s.traffic.owed)
      (nothing : s.handsOn event = []) : (s.step event).handovers.Perm s.handovers := by
    have handedOn : (s.step event).handedOn = s.handedOn ++ s.handsOn event := rfl
    rw [handovers, owed, handedOn, nothing, List.append_nil]
    exact .refl _
  cases event with
  | traffic event =>
    left
    cases event with
    | finish i ending now => exact same rfl rfl
    | proceed i problem now => exact s.handovers_proceed i problem now
    | _ => exact same (PollTraffic.owed_step (by simp) (by simp)) rfl
  | close task state error result now => exact .inl (same rfl rfl)
  | occur i o =>
    left
    apply same ?_ rfl
    cases here : s.traffic.pool.running[i]? with
    | none => simp [step, act, here]
    | some e =>
      simp only [step, act, here, Option.elim_some]
      rcases s.occur_eq e o with unchanged | ⟨p, -, entered⟩
      · rw [unchanged]
      · rw [entered]
        rfl
  | conclude i now =>
    cases here : s.traffic.pool.running[i]? with
    | none => exact .inl (same (by simp [step, act, here]) rfl)
    | some e => exact h.handovers_conclude here now

/-- An accepted success whose poll has found something is handed on or still to be handed on. -/
theorem Sound.mem_of_concludes (h : s.Sound) {event : Event} {d : Handover}
    (concludes : s.Concludes event d) : d ∈ (s.step event).handovers := by
  obtain ⟨i, now, e, ending, rfl, here, settled, handed, running, success⟩ := concludes
  have stepped : (s.step (.conclude i now)).traffic = s.traffic.finish e ending now := by
    simp [step, act, here, conclude, settled, setTraffic]
  have sameTask := (Ending.handover?_eq_some handed).1
  apply List.mem_append_right
  rw [stepped]
  rcases h.filed.owed_finish e ending now with ⟨-, unchanged⟩ | ⟨owed, -⟩
  · rw [lastState, stepped, sameTask, unchanged, ← sameTask, ← lastState, running] at success
    cases success
  · rw [owed, handed]
    simp

theorem Sound.wasStarted_step (h : s.Sound) {task : Uuid} (started : s.WasStarted task)
    (event : Event) : (s.step event).WasStarted task := by
  obtain ⟨state, known, notQueued⟩ := started
  obtain ⟨state', known', moved⟩ := (h.follows event).lastState h.filed known
  refine ⟨state', known', ?_⟩
  rintro rfl
  exact notQueued moved.eq_queued

theorem Sound.ended_step (h : s.Sound) {task : Uuid} {state : JobState}
    (known : s.lastState task = some state) (ended : state.isTerminal = true) (event : Event) :
    (s.step event).lastState task = some state :=
  (h.follows event).ended h.filed known ended

theorem phase_ended_step {task : Uuid} {ending : Ending} (settled : s.phase task = .ended ending)
    (event : Event) : (s.step event).phase task = .ended ending := by
  rcases s.step_phase event with ⟨same, -⟩ | ⟨e, -, signalled, o, p, next, entered, -⟩
  · rw [same, settled]
  · rw [entered]
    split
    · rename_i same
      rw [← same, settled, Phase.next?_ended] at next
      cases next
    · exact settled

theorem Sound.earned_step (h : s.Sound) {d : Handover} (earned : s.Earned d) (event : Event) :
    (s.step event).Earned d := by
  obtain ⟨ending, settled, found⟩ := earned.ending
  constructor
  · exact h.ended_step earned.succeeded rfl event
  · exact ⟨ending, phase_ended_step settled event, found⟩

theorem Concludes.earned {event : Event} {d : Handover} (concludes : s.Concludes event d) :
    (s.step event).Earned d := by
  obtain ⟨i, now, e, ending, -, -, settled, handed, -, success⟩ := concludes
  obtain ⟨sameTask, found, succeeded⟩ := Ending.handover?_eq_some handed
  rw [← sameTask] at settled
  exact ⟨success, ending, phase_ended_step settled event, succeeded, found⟩

theorem Sound.step (h : s.Sound) (event : Event) : (s.step event).Sound := by
  have follows := h.follows event
  constructor
  · exact follows.filed
  · intro e there
    rcases follows.running e there with ⟨e', there', same⟩ | ⟨-, running⟩
    · rw [← same]
      exact h.wasStarted_step (h.running e' there') event
    · exact ⟨.running, running, by simp⟩
  · intro task there
    rcases s.step_phase event with ⟨-, same⟩ | ⟨e, running, -, -, -, -, -, invoked⟩
    · rw [same] at there
      exact h.wasStarted_step (h.invoked task there) event
    · rcases invoked task there with before | rfl
      · exact h.wasStarted_step (h.invoked task before) event
      · exact h.wasStarted_step (h.running e running) event
  · intro d there
    rcases h.handovers_step event with same | ⟨d', concludes, oneMore⟩
    · exact h.earned_step (h.earned d (same.mem_iff.mp there)) event
    · rcases List.mem_cons.mp (oneMore.mem_iff.mp there) with rfl | before
      · exact concludes.earned
      · exact h.earned_step (h.earned d before) event
  · intro task
    have once := h.once task
    rcases h.handovers_step event with same | ⟨d, concludes, oneMore⟩
    · rw [same.countP_eq]
      exact once
    · rw [oneMore.countP_eq, List.countP_cons]
      split
      · rename_i forIt
        -- The task was running until now, so that nothing of it was handed on.
        obtain ⟨-, -, -, -, -, -, -, -, running, -⟩ := concludes
        have none' : s.handovers.countP (·.task == task) = 0 := by
          apply List.countP_eq_zero.mpr
          intro d' there same
          have succeeded := (h.earned d' there).succeeded
          rw [eq_of_beq same, ← eq_of_beq forIt, running] at succeeded
          cases succeeded
        omega
      · exact once

theorem mem_owed_of_handsOn {event : Event} {d : Handover} (there : d ∈ s.handsOn event) :
    d ∈ s.traffic.owed := by
  cases event with
  | traffic event =>
    cases event with
    | proceed i problem now =>
      obtain ⟨c, here, handed⟩ := Option.bind_eq_some_iff.mp (Option.mem_toList.mp there)
      exact List.mem_filterMap.mpr ⟨c, List.mem_of_getElem? here, handed⟩
    | _ => cases there
  | _ => cases there

theorem Sound.run (h : s.Sound) (events : List Event) : (s.run events).Sound := by
  induction events generalizing s with
  | nil => exact h
  | cons event rest ih => exact ih (h.step event)

theorem Sound.ended_run (h : s.Sound) {task : Uuid} {state : JobState}
    (known : s.lastState task = some state) (ended : state.isTerminal = true)
    (events : List Event) : (s.run events).lastState task = some state := by
  induction events generalizing s with
  | nil => exact known
  | cons event rest ih => exact ih (h.step event) (h.ended_step known ended event)

/-- Whatever is or will be handed on was so from the start, or a success of the run has added it. -/
theorem Sound.exists_concludes (h : s.Sound) {events : List Event} {d : Handover}
    (there : d ∈ (s.run events).handovers) :
    d ∈ s.handovers ∨ ∃ before event after, events = before ++ event :: after ∧
      (s.run before).Concludes event d := by
  induction events generalizing s with
  | nil => exact .inl there
  | cons event rest ih =>
    rcases ih (h.step event) there with early | ⟨before, event', after, rfl, concludes⟩
    · rcases h.handovers_step event with same | ⟨d', concludes, oneMore⟩
      · exact .inl (same.mem_iff.mp early)
      · rcases List.mem_cons.mp (oneMore.mem_iff.mp early) with rfl | earlier
        · exact .inr ⟨[], event, rest, rfl, concludes⟩
        · exact .inl earlier
    · exact .inr ⟨event :: before, event', after, rfl, concludes⟩

theorem Sound.mem_handovers_run (h : s.Sound) {d : Handover} (there : d ∈ s.handovers)
    (events : List Event) : d ∈ (s.run events).handovers := by
  induction events generalizing s with
  | nil => exact there
  | cons event rest ih =>
    apply ih (h.step event)
    rcases h.handovers_step event with same | ⟨d', -, oneMore⟩
    · exact same.mem_iff.mpr there
    · exact oneMore.mem_iff.mpr (List.mem_cons_of_mem d' there)

/-- The execution has noticed a cancel, or has ended as cancelled. -/
def IsCancelled (s : Supervision) (task : Uuid) : Prop :=
  s.phase task = .told ∨ s.phase task = .ended .cancelled

/-- An execution that has noticed a cancel ends as cancelled and in no other way. -/
theorem isCancelled_run {task : Uuid} (cancelled : s.IsCancelled task) (events : List Event) :
    (s.run events).IsCancelled task := by
  induction events generalizing s with
  | nil => exact cancelled
  | cons event rest ih =>
    apply ih
    rcases cancelled with told | settled
    · rcases s.step_phase event with ⟨same, -⟩ | ⟨e, -, signalled, o, p, next, entered, -⟩
      · exact .inl (by rw [same, told])
      · by_cases own : task = e.task.id
        · rw [← own, told] at next
          exact .inr (by rw [entered, if_pos own, Phase.next?_told next])
        · exact .inl (by rw [entered, if_neg own, told])
    · exact .inr (phase_ended_step settled event)

/-- Cancelled and failed work is not handed on, at any time. -/
theorem Sound.task_ne_of_closed (h : s.Sound) {task : Uuid}
    (closed : s.lastState task = some .cancelled ∨ s.lastState task = some .failed ∨
      s.phase task = .told) (events : List Event) {d : Handover}
    (there : d ∈ (s.run events).handedOn) : d.task ≠ task := by
  intro own
  obtain ⟨succeeded, ending, settled, completed, -⟩ :=
    (h.run events).earned d (List.mem_append_left _ there)
  rw [own] at succeeded settled
  rcases closed with cancelled | failed | told
  · rw [h.ended_run cancelled rfl events] at succeeded
    cases succeeded
  · rw [h.ended_run failed rfl events] at succeeded
    cases succeeded
  · rcases isCancelled_run (.inl told) events with told' | cancelled
    · rw [settled] at told'
      cases told'
    · rw [settled] at cancelled
      cases cancelled
      cases completed

structure Withdrawn (s : Supervision) (task : Uuid) : Prop where
  cancelled : s.lastState task = some .cancelled
  idle : ∀ e ∈ s.traffic.pool.running, e.task.id ≠ task
  uncalled : task ∉ s.invoked

theorem Sound.withdrawn (h : s.Sound) {task : Uuid} {event : Event}
    (idle : ∀ e ∈ s.traffic.pool.running, e.task.id ≠ task) (uncalled : task ∉ s.invoked)
    (cancelled : (s.step event).lastState task = some .cancelled) :
    (s.step event).Withdrawn task := by
  constructor
  · exact cancelled
  · intro e there own
    rcases (h.follows event).running e there with ⟨e', there', same⟩ | ⟨-, running⟩
    · exact idle e' there' (same ▸ own)
    · rw [own, ← lastState, cancelled] at running
      cases running
  · intro there
    rcases s.step_phase event with ⟨-, same⟩ | ⟨e, running, -, -, -, -, -, invoked⟩
    · exact uncalled (same ▸ there)
    · rcases invoked task there with before | own
      · exact uncalled before
      · exact idle e running own.symm

/-- A cancel of a queued task withdraws it, since nobody has started the task. -/
theorem Sound.withdrawn_of_queued (h : s.Sound) {task : Uuid} {event : Event}
    (queued : s.lastState task = some .queued)
    (cancelled : (s.step event).lastState task = some .cancelled) :
    (s.step event).Withdrawn task := by
  have notStarted : ¬ s.WasStarted task := by
    rintro ⟨state, known, notQueued⟩
    rw [queued] at known
    cases known
    exact notQueued rfl
  apply h.withdrawn _ _ cancelled
  · intro e there own
    exact notStarted (own ▸ h.running e there)
  · intro there
    exact notStarted (h.invoked task there)

theorem Withdrawn.run {task : Uuid} (w : s.Withdrawn task) (h : s.Sound) (events : List Event) :
    (s.run events).Withdrawn task := by
  induction events generalizing s with
  | nil => exact w
  | cons event rest ih =>
    apply ih ?_ (h.step event)
    exact h.withdrawn w.idle w.uncalled (h.ended_step w.cancelled rfl event)

/-- In any run, in the state after `first` and then after `rest`: the findings of a task are handed
on once at most, and only after an execution of that task has succeeded and the tracker has accepted
this; then they are handed on, or a closing still owes them.  A task that was recorded as cancelled
or as failed has nothing handed on, at any time, nor has one whose execution has noticed a cancel.
And the driver of a task that was cancelled while it was queued is not invoked, at any time. -/
theorem handed_on_once_after_success (workers : WorkerConfig) (historyLimit : Nat)
    (dispatch : DispatchConfig) (first rest : List Event) :
    let start := initial workers historyLimit dispatch
    let s := start.run first
    let s' := s.run rest
    (∀ task, s'.handedOn.countP (·.task == task) ≤ 1) ∧
      (∀ event, ∀ d ∈ s.handsOn event, ∃ before conclusion after,
        first = before ++ conclusion :: after ∧ (start.run before).Concludes conclusion d) ∧
      (∀ event d, s.Concludes event d →
        d ∈ ((s.step event).run rest).handedOn ++ ((s.step event).run rest).traffic.owed) ∧
      (∀ task, s.lastState task = some .cancelled ∨ s.lastState task = some .failed ∨
        s.phase task = .told → ∀ d ∈ s'.handedOn, d.task ≠ task) ∧
      ∀ task event, s.lastState task = some .queued →
        (s.step event).lastState task = some .cancelled →
          task ∉ ((s.step event).run rest).invoked := by
  intro start s s'
  have begin := sound_initial workers historyLimit dispatch
  have sound : s.Sound := begin.run first
  have sound' : s'.Sound := sound.run rest
  refine ⟨?_, ?_, ?_, ?_, ?_⟩
  · intro task
    have once := sound'.once task
    rw [handovers, List.countP_append] at once
    omega
  · intro event d there
    have owed : d ∈ s.handovers := List.mem_append_right _ (mem_owed_of_handsOn there)
    rcases begin.exists_concludes owed with early | concludes
    · cases early
    · exact concludes
  · intro event d concludes
    exact (sound.step event).mem_handovers_run (sound.mem_of_concludes concludes) rest
  · intro task closed d there
    exact sound.task_ne_of_closed closed rest there
  · intro task event queued cancelled
    have withdrawn := sound.withdrawn_of_queued queued cancelled
    exact (withdrawn.run (sound.step event) rest).uncalled

/-- A poll of a connector of its own is accepted. -/
def accepted (n : Nat) : List Event :=
  let id := "edge-" ++ toString n
  [.traffic (.upsert id ⟨none, .ping { host := "10.1.1.1" }, true, none⟩ default),
    .traffic (.claim id .manual default), .traffic (.submit 0 ⟨n⟩ default)]

/-- A worker starts the task that waits first, and its driver is invoked. -/
def begun (place : Nat) : List Event :=
  [.traffic (.start 0 0 (.external "lab" Timeline.uneventful) default), .occur place .resolved]

/-- Of three polls the third is still queued, and the second has noticed that it was cancelled. -/
def threePolls : List Event :=
  accepted 1 ++ accepted 2 ++ accepted 3 ++ begun 0 ++ begun 1 ++
    [.traffic (.signal ⟨2⟩ default), .occur 1 .noticed]

/-- Two drivers find something, and a worker takes the task that was cancelled in the queue. -/
def lateAnswers : List Event :=
  [.occur 1 (.answered (.ok (.findings [default]))), .conclude 1 default,
    .occur 0 (.answered (.ok (.findings [default]))), .conclude 0 default,
    .traffic (.start 0 0 (.external "lab" Timeline.uneventful) default), .occur 2 .resolved,
    .traffic (.proceed 0 none default), .traffic (.proceed 1 none default),
    .traffic (.proceed 2 none default)]

theorem handed_on_lateAnswers :
    let s := (initial {} 0 {}).run threePolls
    let cancel := Event.traffic (.cancelQueued ⟨3⟩ default)
    let s' := (s.step cancel).run lateAnswers
    s.phase ⟨2⟩ = .told ∧ s.lastState ⟨3⟩ = some .queued ∧
      (s.step cancel).lastState ⟨3⟩ = some .cancelled ∧ s'.handedOn.map (·.task) = [⟨1⟩] ∧
      (∀ d ∈ s'.handedOn, d.task ≠ ⟨2⟩) ∧ ⟨3⟩ ∉ s'.invoked := by
  intro s cancel s'
  obtain ⟨-, -, -, barred, -⟩ :=
    handed_on_once_after_success {} 0 {} threePolls (cancel :: lateAnswers)
  obtain ⟨-, -, -, -, uncalled⟩ := handed_on_once_after_success {} 0 {} threePolls lateAnswers
  have told : s.phase ⟨2⟩ = .told := by decide +kernel
  have queued : s.lastState ⟨3⟩ = some .queued := by decide +kernel
  have cancelled : (s.step cancel).lastState ⟨3⟩ = some .cancelled := by decide +kernel
  refine ⟨told, queued, cancelled, by decide +kernel, ?_, ?_⟩
  · have barred := barred ⟨2⟩ (.inr (.inr told))
    rw [run_cons] at barred
    exact barred
  · exact uncalled ⟨3⟩ cancel queued cancelled

end Supervision

end DeviceWatch
