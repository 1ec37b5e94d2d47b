import DeviceWatch.Proofs.Lists
import DeviceWatch.Proofs.Pool.Traffic

/-!
# Poll traffic that nothing disturbs

What a tick, a request to poll, a cancel, a worker or an execution that ends does in one go is a run
of events that leaves no claim pending and no closing undone.
-/

namespace DeviceWatch

namespace PollTraffic

/-- The traffic is at the pool of a dispatcher whose next identifiers were not used. -/
structure Stands (s : PollTraffic) (d : Dispatcher) : Prop where
  pool : s.pool = d.pool
  fresh : ∀ n, d.ids.drawn ≤ n → IdSupply.nth n ∉ s.accepted

/-- Some events lead to the pool of the dispatcher and leave nothing undone. -/
def Reaches (s : PollTraffic) (d : Dispatcher) : Prop :=
  ∃ events, (run s events).Stands d ∧ (run s events).claims = s.claims ∧
    (run s events).closings = s.closings

theorem Stands.reaches {s : PollTraffic} {d : Dispatcher} (h : s.Stands d) : s.Reaches d :=
  ⟨[], h, rfl, rfl⟩

theorem Reaches.trans {s : PollTraffic} {d d' : Dispatcher} (h : s.Reaches d)
    (onward : ∀ t : PollTraffic, t.Stands d → t.Reaches d') : s.Reaches d' := by
  obtain ⟨first, stands, claims, closings⟩ := h
  obtain ⟨second, stands', claims', closings'⟩ := onward _ stands
  refine ⟨first ++ second, ?_⟩
  rw [run_append]
  exact ⟨stands', claims'.trans claims, closings'.trans closings⟩

/-- A fold of operations that are runs of events is a run of events. -/
theorem Stands.foldl {ρ α : Type} {f : ρ × Dispatcher → α → ρ × Dispatcher}
    (each : ∀ (t : PollTraffic) (state : ρ × Dispatcher) (a : α), t.Stands state.2 →
      t.Reaches (f state a).2) (l : List α) :
    ∀ {s : PollTraffic} {state : ρ × Dispatcher},
      s.Stands state.2 → s.Reaches (l.foldl f state).2 := by
  induction l with
  | nil => exact fun h => h.reaches
  | cons a rest ih => exact fun {s state} h => (each s state a h).trans fun t stands => ih stands

theorem nth_ne {m n : Nat} (differ : m ≠ n) : IdSupply.nth m ≠ IdSupply.nth n := by
  intro same
  have values := congrArg Uuid.value same
  simp only [IdSupply.nth] at values
  omega

section Undisturbed

variable {s : PollTraffic} {d : Dispatcher}

theorem submit_of_ok {i : Nat} {c : Claim} {task : Uuid} {now : Instant} {j : Job} {p : Pool}
    (pending : c.refused = false) (fresh : task ∉ s.accepted)
    (done : s.pool.submit ⟨task, c.kind, .poll c.snapshot⟩ now = (.ok j, p)) :
    s.submit i c task now =
      { s with pool := p, claims := s.claims.eraseIdx i, accepted := task :: s.accepted } := by
  unfold PollTraffic.submit
  rw [if_neg (by simp [pending, fresh]), done]

theorem submit_of_error {i : Nat} {c : Claim} {task : Uuid} {now : Instant} {e : ServiceError}
    {p : Pool} (pending : c.refused = false) (fresh : task ∉ s.accepted)
    (failed : s.pool.submit ⟨task, c.kind, .poll c.snapshot⟩ now = (.error e, p)) :
    s.submit i c task now = (s.setPool p).refuse i c := by
  unfold PollTraffic.submit
  rw [if_neg (by simp [pending, fresh]), failed]

theorem Stands.draw (h : s.Stands d) : d.ids.draw.1 ∉ s.accepted :=
  h.fresh d.ids.drawn (Nat.le_refl _)

theorem Stands.drawn (h : s.Stands d) {t : PollTraffic} {d' : Dispatcher} (pool : t.pool = d'.pool)
    (ids : d'.ids = d.ids.draw.2)
    (accepted : t.accepted = s.accepted ∨ t.accepted = d.ids.draw.1 :: s.accepted) :
    t.Stands d' := by
  refine ⟨pool, fun n later => ?_⟩
  rw [ids] at later
  have unused := h.fresh n (Nat.le_of_succ_le later)
  rcases accepted with same | oneMore
  · rwa [same]
  · rw [oneMore]
    have differ : IdSupply.nth n ≠ d.ids.draw.1 := nth_ne (Nat.ne_of_gt later)
    simp [differ, unused]

/-- A claim with its submission, and if that is refused its undoing, is a run of three events.  The
poll is accepted by the second of them or not at all. -/
theorem Stands.submitPoll_run (h : s.Stands d) (kind : JobKind) {id : String} {at' : Instant}
    {ticket : PollTicket} {snapshot : Connector} {r : Registry}
    (claimed : d.registry.markPollStart id at' = .ok (ticket, snapshot, r)) (now : Instant) :
    let i := s.claims.length
    let claimant := s.step (.claim id kind at')
    let submitter := claimant.step (.submit i d.ids.draw.1 now)
    let done := submitter.step (.abort i)
    let outcome := (d.setRegistry r).submitPoll kind ticket snapshot now
    claimant.claims = s.claims ++ [⟨ticket, snapshot, kind, false⟩] ∧
      d.ids.draw.1 ∉ claimant.accepted ∧
      (d.ids.draw.1 ∈ submitter.accepted ↔ outcome.1.isOk = true) ∧
      done.Stands outcome.2 ∧ done.claims = s.claims ∧ done.closings = s.closings := by
  intro i claimant submitter done outcome
  let c : Claim := ⟨ticket, snapshot, kind, false⟩
  let task := d.ids.draw.1
  have claimStep : claimant = { s.setRegistry r with claims := s.claims ++ [c] } := by
    have claimed' : s.pool.registry.markPollStart id at' = .ok (ticket, snapshot, r) := by
      rw [h.pool]
      exact claimed
    simp [claimant, step, PollTraffic.claim, claimed', c]
  have samePool : claimant.pool = (d.setRegistry r).pool := by
    rw [claimStep]
    show { s.pool with registry := r } = { d.pool with registry := r }
    rw [h.pool]
  have claims : claimant.claims = s.claims ++ [c] := by rw [claimStep]
  have accepted : claimant.accepted = s.accepted := by rw [claimStep]; rfl
  have pending : c.refused = false := rfl
  have unused : task ∉ claimant.accepted := accepted ▸ h.draw
  have submitStep : submitter = claimant.submit i c task now := by
    simp [submitter, step, claims, i, task]
  refine ⟨claims, unused, ?_⟩
  rcases submitted : (d.setRegistry r).pool.submit ⟨task, kind, .poll snapshot⟩ now with ⟨answer, p⟩
  have submitted' : claimant.pool.submit ⟨task, c.kind, .poll c.snapshot⟩ now = (answer, p) := by
    rw [samePool]
    exact submitted
  cases answer with
  | ok j =>
    have taken : submitter = { s with pool := p, accepted := task :: s.accepted } := by
      rw [submitStep, submit_of_ok pending unused submitted', claimStep]
      simp [i, eraseIdx_concat, setRegistry, setPool]
    have nothingLeft : done = { s with pool := p, accepted := task :: s.accepted } := by
      rw [show done = submitter.step (.abort i) from rfl, taken]
      simp [step, i]
    have dispatched : outcome = (.ok j, { d with pool := p, ids := d.ids.draw.2 }) := by
      simp only [outcome, Dispatcher.submitPoll, Dispatcher.submit]
      rw [show (d.setRegistry r).ids = d.ids from rfl, submitted]
      rfl
    rw [taken, nothingLeft, dispatched]
    exact ⟨iff_of_true List.mem_cons_self rfl, h.drawn rfl rfl (.inr rfl), rfl, rfl⟩
  | error e =>
    have refused : submitter =
        { s with pool := p, claims := s.claims ++ [{ c with refused := true }] } := by
      rw [submitStep, submit_of_error pending unused submitted', claimStep]
      simp [refuse, i, setRegistry, setPool]
    have undone : done =
        { s with pool := { p with registry := p.registry.abortPollStart ticket } } := by
      rw [show done = submitter.step (.abort i) from rfl, refused]
      simp [step, abort, i, eraseIdx_concat, setRegistry, setPool, c]
    have dispatched : outcome = (.error e,
        { d with
          pool := { p with registry := p.registry.abortPollStart ticket }
          ids := d.ids.draw.2 }) := by
      simp only [outcome, Dispatcher.submitPoll, Dispatcher.submit]
      rw [show (d.setRegistry r).ids = d.ids from rfl, submitted]
      rfl
    rw [refused, undone, dispatched]
    exact ⟨iff_of_false h.draw Bool.false_ne_true, h.drawn rfl rfl (.inl rfl), rfl, rfl⟩

theorem Stands.submitPoll (h : s.Stands d) (kind : JobKind) {id : String} {at' : Instant}
    {ticket : PollTicket} {snapshot : Connector} {r : Registry}
    (claimed : d.registry.markPollStart id at' = .ok (ticket, snapshot, r)) (now : Instant) :
    s.Reaches ((d.setRegistry r).submitPoll kind ticket snapshot now).2 := by
  obtain ⟨-, -, -, reached⟩ := h.submitPoll_run kind claimed now
  exact ⟨[.claim id kind at', .submit s.claims.length d.ids.draw.1 now, .abort s.claims.length],
    reached⟩

theorem Stands.pollNow (h : s.Stands d) (id : String) (now : Instant) :
    s.Reaches (d.pollNow id now).2 := by
  unfold Dispatcher.pollNow
  split
  · exact h.reaches
  · rename_i ticket snapshot r claimed
    exact h.submitPoll .manual claimed now

theorem Stands.tickConnector (h : s.Stands d) (at' now : Instant) (report : TickReport)
    (c : Connector) : s.Reaches (Dispatcher.tickConnector at' now (report, d) c).2 := by
  simp only [Dispatcher.tickConnector]
  split
  · exact h.reaches
  · split
    · exact h.reaches
    · exact h.reaches
    · rename_i ticket snapshot r claimed
      have submitted := h.submitPoll .poll claimed now
      split <;> rename_i outcome <;> rw [outcome] at submitted <;> exact submitted

theorem Stands.submitJob_run (h : s.Stands d) (kind : JobKind) (spec : JobSpec) (now : Instant) :
    let done := s.step (.submitJob kind spec d.ids.draw.1 now)
    done.Stands (d.submit kind (.job spec) now).2 ∧ done.claims = s.claims ∧
      done.closings = s.closings := by
  intro done
  let task := d.ids.draw.1
  have unused : s.accepted.contains task = false := by simpa using h.draw
  have submitStep : done = s.submitJob kind spec task now := rfl
  rw [submitStep]
  unfold PollTraffic.submitJob
  rw [unused, h.pool]
  rcases submitted : d.pool.submit ⟨task, kind, .job spec⟩ now with ⟨outcome, p⟩
  have dispatched :
      (d.submit kind (.job spec) now).2 = { d with pool := p, ids := d.ids.draw.2 } := by
    simp only [Dispatcher.submit]
    rw [submitted]
  rw [dispatched]
  cases outcome with
  | ok j => exact ⟨h.drawn rfl rfl (.inr rfl), rfl, rfl⟩
  | error e => exact ⟨h.drawn rfl rfl (.inl rfl), rfl, rfl⟩

theorem Stands.submitJob (h : s.Stands d) (kind : JobKind) (spec : JobSpec) (now : Instant) :
    s.Reaches (d.submit kind (.job spec) now).2 :=
  ⟨[.submitJob kind spec d.ids.draw.1 now], h.submitJob_run kind spec now⟩

theorem Reaches.recordTrigger (h : s.Reaches d) (name : String) (at' : Instant) :
    s.Reaches (d.recordTrigger name at') :=
  h.trans fun _ stands => Stands.reaches ⟨stands.pool, stands.fresh⟩

theorem Stands.tickJob (h : s.Stands d) (at' now : Instant) (report : TickReport)
    (spec : JobSpec) : s.Reaches (Dispatcher.tickJob at' now (report, d) spec).2 := by
  simp only [Dispatcher.tickJob]
  split
  · exact h.reaches.recordTrigger spec.name at'
  · have submitted := h.submitJob .scheduled spec now
    split
    · rename_i outcome
      rw [outcome] at submitted
      exact submitted.recordTrigger spec.name at'
    · rename_i outcome
      rw [outcome] at submitted
      exact submitted

theorem Stands.tick (h : s.Stands d) (at' now : Instant) : s.Reaches (d.tick at' now).2 := by
  have start : s.Stands (({}, d) : TickReport × Dispatcher).2 := h
  have polls := Stands.foldl (f := Dispatcher.tickConnector at' now)
    (fun t state c stands => stands.tickConnector at' now state.1 c) (d.registry.list (some true))
    start
  refine polls.trans fun t stands => ?_
  exact Stands.foldl (f := Dispatcher.tickJob at' now)
    (fun t state spec stands => stands.tickJob at' now state.1 spec) _ stands

theorem Stands.setPool (h : s.Stands d) (p : Pool) : (s.setPool p).Stands { d with pool := p } :=
  ⟨rfl, h.fresh⟩

theorem Stands.cancel (h : s.Stands d) (id : Uuid) (now : Instant) :
    s.Reaches { d with pool := (d.pool.cancel id now).2 } := by
  let signalled := d.pool.signal (·.id == id) now
  have signalStep : step s (.signal id now) = s.setPool signalled := by
    simp only [step, h.pool, signalled]
  have signalOnly : s.Reaches { d with pool := signalled } := by
    refine ⟨[.signal id now], ?_⟩
    rw [run_cons, signalStep]
    exact ⟨h.setPool signalled, rfl, rfl⟩
  unfold Pool.cancel
  split
  · exact h.reaches
  · split
    · exact h.reaches
    · cases cancelled : signalled.tracker.cancelQueued id now with
      | error e => simpa [signalled, cancelled] using signalOnly
      | ok result =>
        obtain ⟨closed, tracker⟩ := result
        cases closed with
        | none => simpa [signalled, cancelled] using signalOnly
        | some j =>
          let p : Pool := { signalled with tracker := tracker }
          let released := (p.release j.connectorId .cancelled now).recordExecution j ⟨0⟩ now
          have closeStep : step (s.setPool signalled) (.cancelQueued id now) =
              { s.setPool p with closings := s.closings ++ [.cancelled j] } := by
            simp [step, cancelQueued, PollTraffic.setPool, setTracker, cancelled, p]
          have releaseStep (t : PollTraffic) (pool : t.pool = p)
              (closings : t.closings = s.closings ++ [.cancelled j]) :
              step t (.proceed s.closings.length none now) =
                { t.setPool released with closings := s.closings } := by
            simp [step, proceed, closings, pool, released, eraseIdx_concat]
          have whole : s.Reaches { d with pool := released } := by
            refine ⟨[.signal id now, .cancelQueued id now, .proceed s.closings.length none now], ?_⟩
            rw [run_cons, run_cons, run_cons, signalStep, closeStep, releaseStep _ rfl rfl]
            exact ⟨h.setPool released, rfl, rfl⟩
          simpa [signalled, cancelled, released, p] using whole

theorem Stands.turn (h : s.Stands d) (course : Task → Course) (now : Instant) {p : Pool}
    (turned : d.pool.turn course now = .passed p ∨ ∃ e, d.pool.turn course now = .started e p) :
    s.Reaches { d with pool := p } := by
  unfold Pool.turn at turned
  split at turned
  · rename_i t queue w waiting free
    have within := List.find?_some free
    have known := List.mem_range.mp (List.mem_of_find?_eq_some free)
    split at turned
    · simp at turned
    · split at turned
      · simp at turned
      · rename_i limiter granted
        let limited : Pool := { d.pool with limiter := limiter }
        have limitStep : step s (.limit limiter) = s.setPool limited := by
          simp only [step, h.pool, limited]
        have startStep : step (s.setPool limited) (.start 0 w (course t) now) =
            (s.setPool limited).start 0 t w (course t) now := by
          simp [step, PollTraffic.setPool, limited, waiting]
        have hasPlace : w < (s.setPool limited).pool.config.workerCount ∧
            (s.setPool limited).pool.load w < (s.setPool limited).pool.config.workerConcurrency :=
          ⟨known, of_decide_eq_true within⟩
        have started : (s.setPool limited).start 0 t w (course t) now = s.setPool p := by
          unfold PollTraffic.start
          rw [if_pos hasPlace]
          cases tracked : d.pool.tracker.start t.id (Pool.workerName w) now with
          | ok result =>
            simp [tracked] at turned
            simp [PollTraffic.setPool, limited, waiting, tracked, turned]
          | error e =>
            simp [tracked] at turned
            simp [PollTraffic.setPool, limited, waiting, tracked, turned]
        refine ⟨[.limit limiter, .start 0 w (course t) now], ?_⟩
        rw [run_cons, run_cons, limitStep, startStep, started]
        exact ⟨h.setPool p, rfl, rfl⟩
  · simp at turned

theorem deliver_pool (v : Service) (connectorId : String) (fs : List Finding) (now : Instant) :
    (v.deliver connectorId fs now).2.pool = v.pool := by
  unfold Service.deliver
  split
  · rfl
  · split
    · rfl
    · split <;> rename_i ingested <;> exact congrArg (fun r => r.2.pool) ingested.symm

/-- What the end of an execution does to the pool: first the record, then the claim, then the
place. -/
theorem conclude_pool (v : Service) (e : Execution) (ending : Ending) (now : Instant) :
    ∃ problem, (v.conclude e ending now).pool =
      match v.pool.record e ending now with
      | (true, p) => (p.release e.task.connectorId (ending.pollOutcome e.task problem) now).vacate e
      | (false, p) => p.vacate e := by
  unfold Service.conclude
  rcases recorded : v.pool.record e ending now with ⟨first, p⟩
  cases first with
  | false => exact ⟨none, rfl⟩
  | true =>
    cases connector : e.task.connectorId with
    | none => exact ⟨none, rfl⟩
    | some id =>
      have kept := deliver_pool (v.setPool p) id ending.findings now
      refine ⟨((v.setPool p).deliver id ending.findings now).1, ?_⟩
      show
        (((v.setPool p).deliver id ending.findings now).2.pool.release (some id) _ now).vacate e = _
      rw [kept]
      rfl

theorem Stands.conclude_run {v : Service} (h : s.Stands v.dispatcher) {i : Nat} {e : Execution}
    (here : v.pool.running[i]? = some e) (working : e.task.id ∉ s.past) (ending : Ending)
    (now : Instant) :
    ∃ problem, let n := s.closings.length
      let t := run s [.finish i ending now, .proceed n problem now, .proceed n none now]
      t.Stands { v.dispatcher with pool := (v.conclude e ending now).pool } ∧
        t.claims = s.claims ∧ t.closings = s.closings := by
  obtain ⟨problem, concluded⟩ := conclude_pool v e ending now
  refine ⟨problem, ?_⟩
  intro n t
  have samePool : s.pool = v.pool := h.pool
  have finishStep : step s (.finish i ending now) = s.finish e ending now := by
    simp [step, samePool, here]
  -- Whatever the closing is to do first, it then frees the place.
  have vacateStep (t : PollTraffic) (closings : t.closings = s.closings ++ [.leaving e]) :
      step t (.proceed n none now) =
        { t.setPool (t.pool.vacate e) with closings := s.closings } := by
    simp [step, proceed, closings, n, eraseIdx_concat]
  have ran : t = step (step (s.finish e ending now) (.proceed n problem now)) (.proceed n none now) :=
    finishStep ▸ rfl
  rw [ran, concluded]
  unfold PollTraffic.finish Pool.record
  rw [if_neg (by simpa using working), samePool]
  cases finished :
    v.pool.tracker.finish e.task.id ending.state (ending.error e.task) ending.result now with
  | ok result =>
    obtain ⟨j, tracker⟩ := result
    have releaseStep (t : PollTraffic)
        (closings : t.closings = s.closings ++ [.concluded e ending]) :
        step t (.proceed n problem now) =
          { t.setPool (t.pool.release e.task.connectorId (ending.pollOutcome e.task problem) now) with
            closings := s.closings ++ [.leaving e] } := by
      simp [step, proceed, closings, n]
    rw [releaseStep _ rfl, vacateStep _ rfl]
    exact ⟨⟨rfl, h.fresh⟩, rfl, rfl⟩
  | error problem' =>
    have releaseStep (t : PollTraffic) (closings : t.closings = s.closings ++ [.dropped e]) :
        step t (.proceed n problem now) =
          { t.setPool (t.pool.release e.task.connectorId .cancelled now) with
            closings := s.closings ++ [.leaving e] } := by
      simp [step, proceed, closings, n]
    rw [releaseStep _ rfl, vacateStep _ rfl]
    exact ⟨⟨rfl, h.fresh⟩, rfl, rfl⟩

theorem Stands.conclude {v : Service} (h : s.Stands v.dispatcher) {i : Nat} {e : Execution}
    (here : v.pool.running[i]? = some e) (working : e.task.id ∉ s.past) (ending : Ending)
    (now : Instant) : s.Reaches { v.dispatcher with pool := (v.conclude e ending now).pool } := by
  obtain ⟨problem, reached⟩ := h.conclude_run here working ending now
  exact ⟨_, reached⟩

end Undisturbed

end PollTraffic

end DeviceWatch
