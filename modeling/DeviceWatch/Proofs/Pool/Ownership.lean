import DeviceWatch.Proofs.Connector.InFlight
import DeviceWatch.Proofs.Lists
import DeviceWatch.Proofs.Pool.Records
import DeviceWatch.Proofs.Pool.Traffic

/-!
# Who owns a poll in flight

A claim is handed from the submitter to the task, and from the task to whoever closes its record,
until it is released.  In any state of any traffic a connector in flight has exactly one such owner,
and one that is not in flight has none.  The count of owners is kept by every event, since tasks and
executions agree with their records about the connector, and the record of an execution stays open
until the execution has ended.
-/

namespace DeviceWatch

namespace Pool

variable {p p' : Pool} {t : Task} {now : Instant}

theorem submit_eq_ok {j : Job} (done : p.submit t now = (.ok j, p')) :
    p' = { p with tracker := (p.tracker.enqueue t now).2, queue := p.queue ++ [t] } := by
  unfold submit at done
  split at done
  · cases done
  · split at done
    · cases done
    · cases done
      rfl

theorem submit_eq_error {e : ServiceError} (failed : p.submit t now = (.error e, p')) :
    ∃ metrics, p' = { p with metrics := metrics } := by
  unfold submit at failed
  split at failed
  · cases failed
    exact ⟨p.metrics, rfl⟩
  · split at failed
    · cases failed
      exact ⟨_, rfl⟩
    · cases failed

theorem release_eq (p : Pool) (connectorId : Option String) (outcome : PollOutcome)
    (now : Instant) :
    ∃ r, p.release connectorId outcome now = { p with registry := r } ∧
      (p.registry.OwnIds → r.OwnIds) ∧
      ∀ k, r.isInFlight k = (connectorId ≠ some k && p.registry.isInFlight k) := by
  cases connectorId with
  | none => exact ⟨p.registry, rfl, id, fun k => by simp⟩
  | some id =>
    refine ⟨_, rfl, fun h => h.markPollResult id outcome now, fun k => ?_⟩
    rw [Registry.markPollResult_isInFlight]
    by_cases same : k = id
    · simp [same]
    · simp [same, Ne.symm same]

end Pool

def Claim.isFor (c : Claim) (id : String) : Bool := c.ticket.connectorId = id

def Closing.isFor (c : Closing) (id : String) : Bool := c.owes = some id

namespace PollTraffic

/-- How many own the poll of a connector: claims that were neither submitted nor undone, queued or
running tasks, and closed tasks whose claim is still to be released. -/
def owners (s : PollTraffic) (id : String) : Nat :=
  s.claims.countP (·.isFor id) + (s.pool.tracker.openPolls id).length +
    s.closings.countP (·.isFor id)

structure Sound (s : PollTraffic) : Prop where
  registered : s.pool.registry.OwnIds
  files : s.pool.tracker.Files s.accepted s.pool.queue
  runs : s.pool.tracker.Runs s.past s.pool.running
  snapshots : ∀ c ∈ s.claims, c.snapshot.id = c.ticket.connectorId
  balanced : ∀ id, s.owners id = if s.pool.registry.isInFlight id then 1 else 0

variable {s : PollTraffic}

theorem Sound.configure (h : s.Sound) {outcome : Outcome (Connector × Registry)}
    (kept : ∀ c r, outcome = .ok (c, r) →
      r.inFlight = s.pool.registry.inFlight ∧ (s.pool.registry.OwnIds → r.OwnIds)) :
    (s.configure outcome).Sound := by
  cases outcome with
  | error e => exact h
  | ok result =>
    obtain ⟨c, r⟩ := result
    obtain ⟨inFlight, ownIds⟩ := kept c r rfl
    refine { h with registered := ownIds h.registered, balanced := fun id => ?_ }
    have sameFlight : r.isInFlight id = s.pool.registry.isInFlight id :=
      congrArg (OrderedMap.contains · id) inFlight
    show s.owners id = if r.isInFlight id then 1 else 0
    rw [sameFlight]
    exact h.balanced id

theorem Sound.claim (h : s.Sound) (id : String) (kind : JobKind) (now : Instant) :
    (s.claim id kind now).Sound := by
  unfold PollTraffic.claim
  split
  · rename_i ticket snapshot r done
    obtain ⟨free, ticketId, ownIds, inFlight⟩ := Registry.markPollStart_eq_ok done
    obtain ⟨snapshotId, registered⟩ := ownIds h.registered
    refine
      { h with registered := registered, snapshots := fun c there => ?_, balanced := fun k => ?_ }
    · rcases List.mem_append.mp there with old | new
      · exact h.snapshots c old
      · obtain rfl := List.mem_singleton.mp new
        exact snapshotId.trans ticketId.symm
    · have before := h.balanced k
      unfold owners at before
      let c : Claim := ⟨ticket, snapshot, kind, false⟩
      have forIt : c.isFor k = decide (id = k) := congrArg (decide <| · = k) ticketId
      show (s.claims ++ [c]).countP (·.isFor k) + (s.pool.tracker.openPolls k).length +
        s.closings.countP (·.isFor k) = if r.isInFlight k then 1 else 0
      rw [inFlight k, List.countP_append, List.countP_singleton, forIt]
      by_cases same : k = id
      · subst same
        simp only [free, Bool.false_eq_true, if_false] at before
        simp
        omega
      · simp [same, Ne.symm same]
        omega
  · exact h

theorem Sound.refuse (h : s.Sound) {i : Nat} {c : Claim} (here : s.claims[i]? = some c) :
    (s.refuse i c).Sound := by
  refine { h with snapshots := fun d there => ?_, balanced := fun k => ?_ }
  · rcases List.mem_or_eq_of_mem_set there with old | rfl
    · exact h.snapshots d old
    · exact h.snapshots c (List.mem_of_getElem? here)
  · have before := h.balanced k
    have claims := countP_set_add here (·.isFor k) { c with refused := true }
    rw [show ({ c with refused := true } : Claim).isFor k = c.isFor k from rfl] at claims
    unfold owners at before
    show (s.claims.set i { c with refused := true }).countP (·.isFor k) +
      (s.pool.tracker.openPolls k).length + s.closings.countP (·.isFor k) =
        if s.pool.registry.isInFlight k then 1 else 0
    omega

theorem Sound.adjust (h : s.Sound) {p : Pool} (registry : p.registry = s.pool.registry)
    (tracker : p.tracker = s.pool.tracker) (queue : ∀ t ∈ p.queue, t ∈ s.pool.queue)
    (running : ∀ e ∈ p.running, ∃ e' ∈ s.pool.running, e'.task = e.task) : (s.setPool p).Sound where
  registered := by
    show p.registry.OwnIds
    rw [registry]
    exact h.registered
  files := by
    show p.tracker.Files s.accepted p.queue
    rw [tracker]
    exact h.files.dequeue queue
  runs := by
    show p.tracker.Runs s.past p.running
    rw [tracker]
    exact h.runs.fewer running
  snapshots := h.snapshots
  balanced := fun k => by
    show s.claims.countP (·.isFor k) + (p.tracker.openPolls k).length +
      s.closings.countP (·.isFor k) = if p.registry.isInFlight k then 1 else 0
    rw [registry, tracker]
    exact h.balanced k

theorem Sound.submit (h : s.Sound) {i : Nat} {c : Claim} (here : s.claims[i]? = some c)
    (task : Uuid) (now : Instant) : (s.submit i c task now).Sound := by
  unfold PollTraffic.submit
  split
  · exact h
  · rename_i admissible
    have unused : task ∉ s.accepted := by simp_all
    split
    · rename_i j p done
      let t : Task := ⟨task, c.kind, .poll c.snapshot⟩
      have fresh : s.pool.tracker.jobs.find? t.id = none := h.files.fresh unused
      have forIt (k : String) : t.connectorId = some k ↔ c.isFor k = true := by
        have sameId := h.snapshots c (List.mem_of_getElem? here)
        simp [t, Task.connectorId, Claim.isFor, sameId]
      rw [Pool.submit_eq_ok done]
      refine ⟨h.registered, h.files.enqueue unused now, h.runs.enqueue fresh now, ?_, ?_⟩
      · exact fun d there => h.snapshots d (List.mem_of_mem_eraseIdx there)
      · intro k
        have before := h.balanced k
        have claims := countP_eraseIdx_add here (·.isFor k)
        have polls := Tracker.enqueue_openPolls fresh now k
        unfold owners at before
        show (s.claims.eraseIdx i).countP (·.isFor k) +
          ((s.pool.tracker.enqueue t now).2.openPolls k).length + s.closings.countP (·.isFor k) =
            if s.pool.registry.isInFlight k then 1 else 0
        simp only [forIt] at polls
        omega
    · rename_i e p failed
      obtain ⟨metrics, rfl⟩ := Pool.submit_eq_error failed
      have adjusted : (s.setPool { s.pool with metrics := metrics }).Sound :=
        h.adjust rfl rfl (fun _ there => there) fun e there => ⟨e, there, rfl⟩
      exact adjusted.refuse here

theorem Sound.submitJob (h : s.Sound) (kind : JobKind) (spec : JobSpec) (task : Uuid)
    (now : Instant) : (s.submitJob kind spec task now).Sound := by
  unfold PollTraffic.submitJob
  split
  · exact h
  · rename_i admissible
    have unused : task ∉ s.accepted := by simp_all
    split
    · rename_i j p done
      let t : Task := ⟨task, kind, .job spec⟩
      have fresh : s.pool.tracker.jobs.find? t.id = none := h.files.fresh unused
      rw [Pool.submit_eq_ok done]
      refine ⟨h.registered, h.files.enqueue unused now, h.runs.enqueue fresh now, h.snapshots, ?_⟩
      intro k
      have before := h.balanced k
      have polls := Tracker.enqueue_openPolls fresh now k
      unfold owners at before
      show s.claims.countP (·.isFor k) +
        ((s.pool.tracker.enqueue t now).2.openPolls k).length + s.closings.countP (·.isFor k) =
          if s.pool.registry.isInFlight k then 1 else 0
      have notPoll : t.connectorId ≠ some k := by simp [t, Task.connectorId]
      rw [if_neg notPoll] at polls
      omega
    · rename_i e p failed
      obtain ⟨metrics, rfl⟩ := Pool.submit_eq_error failed
      exact h.adjust rfl rfl (fun _ there => there) fun e there => ⟨e, there, rfl⟩

theorem Sound.abort (h : s.Sound) {i : Nat} {c : Claim} (here : s.claims[i]? = some c) :
    (s.abort i c).Sound := by
  unfold PollTraffic.abort
  split
  · refine
      { h with registered := h.registered.abortPollStart c.ticket, snapshots := ?_, balanced := ?_ }
    · exact fun d there => h.snapshots d (List.mem_of_mem_eraseIdx there)
    · intro k
      have before := h.balanced k
      have claims := countP_eraseIdx_add here (·.isFor k)
      unfold owners at before
      show (s.claims.eraseIdx i).countP (·.isFor k) + (s.pool.tracker.openPolls k).length +
        s.closings.countP (·.isFor k) =
          if (s.pool.registry.abortPollStart c.ticket).isInFlight k then 1 else 0
      rw [Registry.abortPollStart_isInFlight]
      by_cases own : k = c.ticket.connectorId
      · have forIt : c.isFor k = true := by simp [Claim.isFor, own]
        simp only [forIt, if_true] at claims
        rw [if_neg (by simp [own])]
        split at before <;> omega
      · have other : c.isFor k = false := by simp [Claim.isFor, Ne.symm own]
        simp only [other, Bool.false_eq_true, if_false] at claims
        simp [own]
        omega
  · exact h

theorem Sound.move (h : s.Sound) {tracker : Tracker} {old new : Job}
    (moves : s.pool.tracker.Moves tracker old new)
    (sameLife : new.state.isTerminal = old.state.isTerminal)
    (runsOn : old.state = .running → new.state = .running) : (s.setTracker tracker).Sound := by
  refine { h with files := h.files.moves moves, runs := ?_, balanced := fun k => ?_ }
  · exact h.runs.moves moves (fun _ ended => ended) fun running => .inl (runsOn running)
  · have before := h.balanced k
    have polls := moves.openPolls k
    have sameOpen : new.isOpenPoll k = old.isOpenPoll k := by
      simp only [Job.isOpenPoll, sameLife, moves.sameConnector]
    rw [sameOpen] at polls
    unfold owners at before
    show s.claims.countP (·.isFor k) + (tracker.openPolls k).length +
        s.closings.countP (·.isFor k) =
      if s.pool.registry.isInFlight k then 1 else 0
    omega

theorem Sound.retain (h : s.Sound) {tracker : Tracker} (retains : s.pool.tracker.Retains tracker) :
    (s.setTracker tracker).Sound := by
  refine { h with files := h.files.retains retains, runs := h.runs.retains retains, balanced := ?_ }
  intro k
  show s.claims.countP (·.isFor k) + (tracker.openPolls k).length + s.closings.countP (·.isFor k) =
    if s.pool.registry.isInFlight k then 1 else 0
  rw [retains.openPolls k]
  exact h.balanced k

theorem Sound.report (h : s.Sound) (task : Uuid) (r : ProgressReport) (now : Instant) :
    (s.setTracker (s.pool.tracker.report task r now)).Sound := by
  rcases Tracker.report_eq h.files.ownIds task r now with same | ⟨old, new, state, moves⟩
  · rw [same]
    exact h
  · exact h.move moves (by rw [state]) fun running => state.trans running

theorem Sound.start (h : s.Sound) {i : Nat} {t : Task} (here : s.pool.queue[i]? = some t)
    (worker : Nat) (course : Course) (now : Instant) : (s.start i t worker course now).Sound := by
  have fewer : ∀ x ∈ s.pool.queue.eraseIdx i, x ∈ s.pool.queue :=
    fun x there => List.mem_of_mem_eraseIdx there
  unfold PollTraffic.start
  split
  · split
    · rename_i j tracker done
      obtain ⟨old, ownId, queued, running, moves⟩ := Tracker.start_eq_ok h.files.ownIds done
      have moved := h.move moves (by rw [queued, running]; rfl) (by simp [queued])
      refine { moved with files := moved.files.dequeue fewer, runs := fun e there working => ?_ }
      rcases List.mem_append.mp there with before | last
      · exact moved.runs e before working
      · obtain rfl := List.mem_singleton.mp last
        have stored := moves.stored
        rw [ownId] at stored
        have agrees := (h.files.queued t (List.mem_of_getElem? here)).2 old stored
        refine ⟨j, ?_, running, moves.sameConnector.trans agrees⟩
        rw [← ownId]
        exact moves.moved (by rw [running]; rfl)
    · exact h.adjust rfl rfl fewer fun e there => ⟨e, there, rfl⟩
  · exact h

/-- Whoever closes a record owes the release of the claim that its task owned. -/
theorem Sound.close (h : s.Sound) {tracker : Tracker} {old new : Job}
    (moves : s.pool.tracker.Moves tracker old new) (live : old.state.isTerminal = false)
    (ended : new.state.isTerminal = true) {past : List Uuid} (grows : ∀ id ∈ s.past, id ∈ past)
    (stops : old.state = .running → old.taskId ∈ past) {c : Closing}
    (owes : c.owes = old.connectorId) :
    ({ s.setTracker tracker with closings := s.closings ++ [c], past := past } :
      PollTraffic).Sound := by
  refine { h with files := h.files.moves moves, runs := ?_, balanced := fun k => ?_ }
  · exact h.runs.moves moves grows fun running => .inr (stops running)
  · have before := h.balanced k
    have polls := moves.openPolls k
    have handedOn : c.isFor k = old.isOpenPoll k := by
      simp [Closing.isFor, owes, Job.isOpenPoll, live]
    rw [Job.isOpenPoll_of_ended ended, ← handedOn] at polls
    unfold owners at before
    show s.claims.countP (·.isFor k) + (tracker.openPolls k).length +
      (s.closings ++ [c]).countP (·.isFor k) = if s.pool.registry.isInFlight k then 1 else 0
    rw [List.countP_append, List.countP_singleton]
    simp only [Bool.false_eq_true, if_false] at polls
    omega

theorem Sound.cancelQueued (h : s.Sound) (task : Uuid) (now : Instant) :
    (s.cancelQueued task now).Sound := by
  unfold PollTraffic.cancelQueued
  split
  · rename_i j tracker done
    rcases Tracker.cancelQueued_eq_ok h.files.ownIds done with ⟨nothing, -⟩ |
      ⟨old, new, closed, ownId, queued, ended, moves⟩
    · cases nothing
    · cases closed
      exact h.close moves (by rw [queued]; rfl) ended (fun _ past => past) (by simp [queued])
        moves.sameConnector
  · exact h

theorem Sound.finish_eq (h : s.Sound) {e : Execution} (there : e ∈ s.pool.running)
    (ending : Ending) (now : Instant) :
    s.finish e ending now = s ∨
      ∃ old j tracker, s.pool.tracker.jobs.find? e.task.id = some old ∧
        old.connectorId = e.task.connectorId ∧
        s.pool.tracker.finish e.task.id ending.state (ending.error e.task) ending.result now =
          .ok (j, tracker) ∧
        ∃ metrics, s.finish e ending now =
          { s.setPool { s.pool with tracker := tracker, metrics := metrics } with
            closings := s.closings ++ [.concluded e ending]
            past := e.task.id :: s.past } := by
  unfold PollTraffic.finish
  split
  · exact .inl rfl
  · rename_i working
    obtain ⟨old, found, running, connector⟩ := h.runs e there (by simpa using working)
    have live : old.state.isTerminal = false := by
      rw [running]
      rfl
    obtain ⟨⟨j, tracker⟩, done⟩ := Tracker.exists_finish ending.isTerminal_state found live
      (ending.error e.task) ending.result now
    refine .inr ⟨old, j, tracker, found, connector, done, ?_⟩
    rw [done]
    exact ⟨_, rfl⟩

theorem Sound.finish (h : s.Sound) {i : Nat} {e : Execution} (here : s.pool.running[i]? = some e)
    (ending : Ending) (now : Instant) : (s.finish e ending now).Sound := by
  rcases h.finish_eq (List.mem_of_getElem? here) ending now with same |
    ⟨old, j, tracker, found, connector, done, metrics, finished⟩
  · rw [same]
    exact h
  · rw [finished]
    obtain ⟨moved, ownId, live, ended, moves⟩ := Tracker.finish_eq_ok h.files.ownIds done
    have stored := moves.stored
    rw [ownId, found] at stored
    cases stored
    have stops : old.state = .running → old.taskId ∈ e.task.id :: s.past :=
      fun _ => ownId ▸ List.mem_cons_self
    have owes : (Closing.concluded e ending).owes = old.connectorId := connector.symm
    have closed := h.close moves live ended (fun _ past => List.mem_cons_of_mem _ past) stops owes
    exact ⟨closed.registered, closed.files, closed.runs, closed.snapshots, closed.balanced⟩

theorem Sound.release (h : s.Sound) {c : Closing} {p : Pool} {outcome : PollOutcome}
    {now : Instant} (released : p = s.pool.release c.owes outcome now) {closings : List Closing}
    (without : ∀ k, closings.countP (·.isFor k) + (if c.isFor k then 1 else 0) =
      s.closings.countP (·.isFor k)) :
    ({ s.setPool p with closings := closings } : PollTraffic).Sound := by
  obtain ⟨r, released', ownIds, inFlight⟩ := s.pool.release_eq c.owes outcome now
  rw [released'] at released
  subst released
  refine { h with registered := ownIds h.registered, balanced := fun k => ?_ }
  have before := h.balanced k
  have closing := without k
  unfold owners at before
  show s.claims.countP (·.isFor k) + (s.pool.tracker.openPolls k).length +
    closings.countP (·.isFor k) = if r.isInFlight k then 1 else 0
  rw [inFlight k]
  by_cases own : c.owes = some k
  · have forIt : c.isFor k = true := by simp [Closing.isFor, own]
    simp only [forIt, if_true] at closing
    rw [if_neg (by simp [own])]
    split at before <;> omega
  · have other : c.isFor k = false := by simp [Closing.isFor, own]
    simp only [other, Bool.false_eq_true, if_false] at closing
    simp [own]
    omega

theorem Sound.proceed (h : s.Sound) {i : Nat} {c : Closing} (here : s.closings[i]? = some c)
    (problem : Option String) (now : Instant) : (s.proceed i problem now c).Sound := by
  have gone (k : String) := countP_eraseIdx_add here (·.isFor k)
  have left (e : Execution) (k : String) := countP_set_add here (·.isFor k) (.leaving e)
  cases c with
  | cancelled j =>
    have released :=
      h.release (c := .cancelled j) (p := s.pool.release j.connectorId .cancelled now) rfl gone
    exact ⟨released.registered, released.files, released.runs, released.snapshots,
      released.balanced⟩
  | concluded e ending => exact h.release rfl (left e)
  | dropped e => exact h.release rfl (left e)
  | leaving e =>
    have fewer : ∀ e' ∈ (s.pool.vacate e).running, ∃ e'' ∈ s.pool.running, e''.task = e'.task :=
      fun e' there => ⟨e', (List.mem_filter.mp there).1, rfl⟩
    have vacated := h.adjust (p := s.pool.vacate e) rfl rfl (fun _ there => there) fewer
    refine { vacated with balanced := fun k => ?_ }
    have closing : (s.closings.eraseIdx i).countP (·.isFor k) = s.closings.countP (·.isFor k) :=
      gone k
    show s.claims.countP (·.isFor k) + (s.pool.tracker.openPolls k).length +
      (s.closings.eraseIdx i).countP (·.isFor k) = if s.pool.registry.isInFlight k then 1 else 0
    rw [closing]
    exact h.balanced k

theorem Sound.step (h : s.Sound) (e : PollEvent) : (s.step e).Sound := by
  cases e with
  | upsert id input now => exact h.configure fun c r done => Registry.upsert_eq_ok done
  | setEnabled id enabled now => exact h.configure fun c r done => Registry.setEnabled_eq_ok done
  | remove id => exact h.configure fun c r done => Registry.remove_eq_ok done
  | claim id kind now => exact h.claim id kind now
  | submit i task now =>
    cases here : s.claims[i]? with
    | none => simpa [PollTraffic.step, here] using h
    | some c => simpa [PollTraffic.step, here] using h.submit here task now
  | refuse i =>
    cases here : s.claims[i]? with
    | none => simpa [PollTraffic.step, here] using h
    | some c => simpa [PollTraffic.step, here] using h.refuse here
  | abort i =>
    cases here : s.claims[i]? with
    | none => simpa [PollTraffic.step, here] using h
    | some c => simpa [PollTraffic.step, here] using h.abort here
  | submitJob kind spec task now => exact h.submitJob kind spec task now
  | signal task now =>
    refine h.adjust rfl rfl (fun _ there => there) fun e there => ?_
    obtain ⟨e', there', signalled⟩ := List.mem_map.mp there
    refine ⟨e', there', ?_⟩
    rw [← signalled]
    split <;> rfl
  | cancelQueued task now => exact h.cancelQueued task now
  | limit limiter => exact h.adjust rfl rfl (fun _ there => there) fun e there => ⟨e, there, rfl⟩
  | start i worker course now =>
    cases here : s.pool.queue[i]? with
    | none => simpa [PollTraffic.step, here] using h
    | some t => simpa [PollTraffic.step, here] using h.start here worker course now
  | report task r now => exact h.report task r now
  | finish i ending now =>
    cases here : s.pool.running[i]? with
    | none => simpa [PollTraffic.step, here] using h
    | some e => simpa [PollTraffic.step, here] using h.finish here ending now
  | proceed i problem now =>
    cases here : s.closings[i]? with
    | none => simpa [PollTraffic.step, here] using h
    | some c => simpa [PollTraffic.step, here] using h.proceed here problem now
  | prune keep => exact h.retain (s.pool.tracker.prune_retains keep)

theorem sound_initial (workers : WorkerConfig) (historyLimit : Nat) (dispatch : DispatchConfig) :
    (initial workers historyLimit dispatch).Sound := by
  refine ⟨Registry.ownIds_empty dispatch, ⟨?_, ?_, ?_⟩, ?_, ?_, fun k => ?_⟩
  · intro id j found
    simp [initial, Pool.new, Tracker.empty] at found
  · intro id j found
    simp [initial, Pool.new, Tracker.empty] at found
  · intro x there
    cases there
  · intro e there
    cases there
  · intro c there
    cases there
  · simp [owners, initial, Pool.new, Tracker.empty, Tracker.openPolls, OrderedMap.values]

/-- In any state of any traffic, a connector in flight has exactly one owner and any other connector
has none; so at most one of its polls is queued or running, and then it is in flight. -/
theorem one_owner_in_flight (workers : WorkerConfig) (historyLimit : Nat)
    (dispatch : DispatchConfig) (events : List PollEvent) (id : String) :
    let s := run (initial workers historyLimit dispatch) events
    (s.pool.tracker.openPolls id).length ≤ 1 ∧
      (s.pool.tracker.openPolls id ≠ [] → s.pool.registry.isInFlight id = true) ∧
      s.owners id = if s.pool.registry.isInFlight id then 1 else 0 := by
  intro s
  have sound : s.Sound :=
    run_induction (sound_initial workers historyLimit dispatch) (fun _ e h => h.step e) events
  have balanced := sound.balanced id
  have parts : (s.pool.tracker.openPolls id).length ≤ s.owners id := by
    unfold owners
    omega
  refine ⟨?_, fun held => ?_, balanced⟩
  · split at balanced <;> omega
  · have some' := List.length_pos_iff.mpr held
    split at balanced
    · assumption
    · omega

/-- A cancel has closed the record of a queued poll and has not released its claim yet. -/
def halfCancelled : List PollEvent :=
  [.upsert "edge-1" ⟨none, .ping { host := "10.1.1.1" }, true, none⟩ default,
    .claim "edge-1" .manual default, .submit 0 ⟨1⟩ default, .cancelQueued ⟨1⟩ default]

example :
    let s := run (initial {} 500 {}) halfCancelled
    s.pool.tracker.openPolls "edge-1" = [] ∧ s.owners "edge-1" = 1 ∧
      (s.step (.proceed 0 none default)).owners "edge-1" = 0 := by
  decide +kernel

end PollTraffic

end DeviceWatch
