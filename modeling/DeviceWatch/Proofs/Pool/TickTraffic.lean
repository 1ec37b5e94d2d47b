import DeviceWatch.Proofs.Pool.Health

/-!
# Ticks in the traffic

A tick lists the enabled connectors when it begins and visits one after the other.  It claims those
that are due by what was listed, and waits until the pool has taken the poll or the claim is undone.
Requests, manual polls, cancels and workers come at any moment between; but one tick ends before the
next one begins.
-/

namespace DeviceWatch

/-- A connector as it was listed by a tick, and when the tick began. -/
structure Visit where
  connector : Connector
  at' : Instant

structure TickTraffic where
  polls : PollTraffic
  /-- What the tick has still to visit, in order. -/
  ahead : List Visit := []
  /-- What the tick visits, until its poll is accepted or the next visit begins. -/
  current : Option Visit := none
  /-- The visits whose polls were accepted, in order. -/
  dispatched : List Visit := []

inductive TickEvent where
  | begin (at' : Instant)
  | visit
  /-- Anything but a claim for a tick. -/
  | elsewhere (event : PollEvent)

/-- Ticks claim for polls of their own kind. -/
def PollEvent.isTickClaim : PollEvent → Bool
  | claim _ kind _ => kind == .poll
  | _ => false

/-- The time that is read from the clock, if the event reads it to stamp a poll. -/
def TickEvent.reading? : TickEvent → Option Instant
  | begin at' => some at'
  | elsewhere (.claim _ _ now) => some now
  | _ => none

namespace TickTraffic

def waits (s : TickTraffic) : Bool := s.polls.claims.any (·.kind == .poll)

def busy (s : TickTraffic) : Bool := !s.ahead.isEmpty || s.waits

def listing (s : TickTraffic) (at' : Instant) : List Visit :=
  (s.polls.pool.registry.list (some true)).map fun c => ⟨c, at'⟩

def begin (s : TickTraffic) (at' : Instant) : TickTraffic :=
  if s.busy then s else { s with ahead := s.listing at', current := none }

def visit (s : TickTraffic) : TickTraffic :=
  match s.ahead with
  | [] => s
  | v :: rest =>
    if s.waits then s
    else
      let due := v.connector.isDue v.at'
      { s with
        polls := if due then s.polls.step (.claim v.connector.id .poll v.at') else s.polls
        ahead := rest
        current := some v }

/-- The event is a submission by which the pool accepts a poll that a tick has claimed. -/
def dispatches (s : TickTraffic) (event : PollEvent) : Bool :=
  match event with
  | .submit i task _ =>
    (s.polls.claims[i]?).any (·.kind == .poll) && !s.polls.accepted.contains task &&
      (s.polls.step event).accepted.contains task
  | _ => false

def elsewhere (s : TickTraffic) (event : PollEvent) : TickTraffic :=
  if event.isTickClaim then s
  else if s.dispatches event then
    { s with
      polls := s.polls.step event
      current := none
      dispatched := s.dispatched ++ s.current.toList }
  else { s with polls := s.polls.step event }

def step (s : TickTraffic) : TickEvent → TickTraffic
  | .begin at' => s.begin at'
  | .visit => s.visit
  | .elsewhere event => s.elsewhere event

def run (s : TickTraffic) (events : List TickEvent) : TickTraffic := events.foldl step s

def initial (workers : WorkerConfig) (historyLimit : Nat) (dispatch : DispatchConfig) :
    TickTraffic where
  polls := .initial workers historyLimit dispatch

theorem run_cons (s : TickTraffic) (e : TickEvent) (events : List TickEvent) :
    run s (e :: events) = run (s.step e) events := rfl

theorem run_append (s : TickTraffic) (first second : List TickEvent) :
    run s (first ++ second) = run (run s first) second := List.foldl_append

variable {s : TickTraffic} {e : TickEvent} {event : PollEvent} {v : Visit} {rest : List Visit}

theorem free_of_idle (idle : s.busy = false) : s.waits = false := (Bool.or_eq_false_iff.mp idle).2

theorem begin_of_idle (idle : s.busy = false) (at' : Instant) :
    s.step (.begin at') = { s with ahead := s.listing at', current := none } :=
  if_neg (by simp [idle])

theorem visit_of_due (next : s.ahead = v :: rest) (free : s.waits = false)
    (due : v.connector.isDue v.at' = true) :
    s.step .visit =
      { s with
        polls := s.polls.step (.claim v.connector.id .poll v.at')
        ahead := rest
        current := some v } := by
  simp [step, visit, next, free, due]

theorem visit_of_not_due (next : s.ahead = v :: rest) (free : s.waits = false)
    (due : v.connector.isDue v.at' = false) :
    s.step .visit = { s with ahead := rest, current := some v } := by
  simp [step, visit, next, free, due]

theorem elsewhere_of_dispatches (dispatches : s.dispatches event = true) :
    s.step (.elsewhere event) =
      { s with
        polls := s.polls.step event
        current := none
        dispatched := s.dispatched ++ s.current.toList } := by
  have other : event.isTickClaim = false := by
    cases event with
    | submit i task now => rfl
    | _ => cases dispatches
  simp [step, elsewhere, other, dispatches]

theorem elsewhere_of_not_dispatches (other : event.isTickClaim = false)
    (none' : s.dispatches event = false) :
    s.step (.elsewhere event) = { s with polls := s.polls.step event } := by
  simp [step, elsewhere, other, none']

/-- What an event is to the tick that is under way. -/
inductive Steps (s : TickTraffic) : TickEvent → TickTraffic → Prop
  | idle {e : TickEvent} : s.Steps e s
  | begin {at' : Instant} (idle : s.busy = false) :
    s.Steps (.begin at') { s with ahead := s.listing at', current := none }
  | pass {v : Visit} {rest : List Visit} (next : s.ahead = v :: rest) (free : s.waits = false) :
    s.Steps .visit { s with ahead := rest, current := some v }
  | claim {v : Visit} {rest : List Visit} (next : s.ahead = v :: rest) (free : s.waits = false)
    (due : v.connector.isDue v.at' = true) :
    s.Steps .visit
      { s with
        polls := s.polls.step (.claim v.connector.id .poll v.at')
        ahead := rest
        current := some v }
  | dispatch {i : Nat} {c : Claim} {task : Uuid} {now : Instant}
    (here : s.polls.claims[i]? = some c) (own : c.kind = .poll) (unused : task ∉ s.polls.accepted)
    (accepted : task ∈ (s.polls.step (.submit i task now)).accepted) :
    s.Steps (.elsewhere (.submit i task now))
      { s with
        polls := s.polls.step (.submit i task now)
        current := none
        dispatched := s.dispatched ++ s.current.toList }
  | elsewhere {event : PollEvent} (other : event.isTickClaim = false) :
    s.Steps (.elsewhere event) { s with polls := s.polls.step event }

theorem steps (s : TickTraffic) (e : TickEvent) : s.Steps e (s.step e) := by
  cases e with
  | begin at' =>
    simp only [step, TickTraffic.begin]
    split
    · exact .idle
    · rename_i idle
      exact .begin (by simpa using idle)
  | visit =>
    cases next : s.ahead with
    | nil =>
      have same : s.step .visit = s := by simp [step, visit, next]
      rw [same]
      exact .idle
    | cons v rest =>
      cases free : s.waits with
      | true =>
        have same : s.step .visit = s := by simp [step, visit, next, free]
        rw [same]
        exact .idle
      | false =>
        cases due : v.connector.isDue v.at' with
        | true =>
          rw [visit_of_due next free due]
          exact .claim next free due
        | false =>
          rw [visit_of_not_due next free due]
          exact .pass next free
  | elsewhere event =>
    cases dispatches : s.dispatches event with
    | true =>
      rw [elsewhere_of_dispatches dispatches]
      cases event with
      | submit i task now =>
        simp only [TickTraffic.dispatches, Bool.and_eq_true, Bool.not_eq_true',
          List.contains_eq_mem, decide_eq_true_iff, decide_eq_false_iff_not,
          Option.any_eq_true] at dispatches
        obtain ⟨⟨⟨c, here, own⟩, unused⟩, accepted⟩ := dispatches
        exact .dispatch here (by simpa using own) unused accepted
      | _ => cases dispatches
    | false =>
      cases other : event.isTickClaim with
      | true =>
        have same : s.step (.elsewhere event) = s := if_pos other
        rw [same]
        exact .idle
      | false =>
        rw [elsewhere_of_not_dispatches other dispatches]
        exact .elsewhere other

/-! With nothing between its steps, a tick is a run that begins a tick, and what it reports as
dispatched is what the run dispatches. -/

/-- The traffic has gone on to where the dispatcher is, and has dispatched the named connectors. -/
structure Reaches (s t : TickTraffic) (d : Dispatcher) (names : List String) : Prop where
  stands : t.polls.Stands d
  claims : t.polls.claims = s.polls.claims
  closings : t.polls.closings = s.polls.closings
  dispatched : t.dispatched.map (·.connector.id) = s.dispatched.map (·.connector.id) ++ names

variable {t u : TickTraffic} {d d' : Dispatcher} {names more : List String}

theorem Reaches.of_dispatched_eq (stands : t.polls.Stands d)
    (claims : t.polls.claims = s.polls.claims) (closings : t.polls.closings = s.polls.closings)
    (same : t.dispatched = s.dispatched) : s.Reaches t d [] :=
  ⟨stands, claims, closings, by rw [same, List.append_nil]⟩

theorem Reaches.refl (stands : s.polls.Stands d) : s.Reaches s d [] :=
  .of_dispatched_eq stands rfl rfl rfl

theorem Reaches.trans (first : s.Reaches t d names) (second : t.Reaches u d' more) :
    s.Reaches u d' (names ++ more) where
  stands := second.stands
  claims := second.claims.trans first.claims
  closings := second.closings.trans first.closings
  dispatched := by rw [second.dispatched, first.dispatched, List.append_assoc]

theorem Reaches.waits (reaches : s.Reaches t d names) : t.waits = s.waits := by
  unfold TickTraffic.waits
  rw [reaches.claims]

theorem submitPoll_run (stands : s.polls.Stands d) (next : s.ahead = v :: rest)
    (free : s.waits = false) (due : v.connector.isDue v.at' = true) {ticket : PollTicket}
    {snapshot : Connector} {r : Registry}
    (claimed : d.registry.markPollStart v.connector.id v.at' = .ok (ticket, snapshot, r))
    (now : Instant) :
    let i := s.polls.claims.length
    let t := run s [.visit, .elsewhere (.submit i d.ids.draw.1 now), .elsewhere (.abort i)]
    let outcome := (d.setRegistry r).submitPoll .poll ticket snapshot now
    t.ahead = rest ∧
      s.Reaches t outcome.2 (if outcome.1.isOk = true then [v.connector.id] else []) := by
  intro i t outcome
  obtain ⟨claims, unused, accepted, reached, claims', closings'⟩ :=
    stands.submitPoll_run .poll claimed now
  let claimant := s.polls.step (.claim v.connector.id .poll v.at')
  let submitter := claimant.step (.submit i d.ids.draw.1 now)
  have here : claimant.claims[i]? = some ⟨ticket, snapshot, .poll, false⟩ := by
    rw [show claimant.claims = _ from claims]
    simp [i]
  let u : TickTraffic := { s with polls := claimant, ahead := rest, current := some v }
  have dispatches : u.dispatches (.submit i d.ids.draw.1 now) = outcome.1.isOk := by
    rw [Bool.eq_iff_iff, ← accepted]
    simp only [u, TickTraffic.dispatches, here, Option.any_some, Bool.and_eq_true,
      Bool.not_eq_true', List.contains_eq_mem, decide_eq_true_iff, decide_eq_false_iff_not]
    exact ⟨And.right, fun there => ⟨⟨rfl, unused⟩, there⟩⟩
  have aborted (w : TickTraffic) :
      w.step (.elsewhere (.abort i)) = { w with polls := w.polls.step (.abort i) } :=
    elsewhere_of_not_dispatches rfl rfl
  have goesOn :
      t = (u.step (.elsewhere (.submit i d.ids.draw.1 now))).step (.elsewhere (.abort i)) :=
    congrArg (run · [.elsewhere (.submit i d.ids.draw.1 now), .elsewhere (.abort i)])
      (visit_of_due next free due)
  rw [goesOn, aborted]
  cases answer : outcome.1.isOk with
  | true =>
    rw [elsewhere_of_dispatches (dispatches.trans answer)]
    exact ⟨rfl, reached, claims', closings', List.map_append⟩
  | false =>
    rw [elsewhere_of_not_dispatches rfl (dispatches.trans answer)]
    exact ⟨rfl, .of_dispatched_eq reached claims' closings' rfl⟩

/-- What a tick does from one state of its report and its dispatcher to another is a run that reads
no clock, dispatches what is added to the report, and leaves some visits to be made. -/
def Performs (s : TickTraffic) (before after : TickReport × Dispatcher) (left : List Visit) :
    Prop :=
  ∃ events names, (∀ e ∈ events, e.reading? = none) ∧ (run s events).ahead = left ∧
    s.Reaches (run s events) after.2 names ∧ after.1.dispatched = before.1.dispatched ++ names

section Quiet

variable {before after : TickReport × Dispatcher}
  (reported : after.1.dispatched = before.1.dispatched)

include reported

theorem performs_nothing (stands : s.polls.Stands after.2) : s.Performs before after s.ahead :=
  ⟨[], [], List.forall_mem_nil _, rfl, .refl stands, by rw [reported, List.append_nil]⟩

theorem performs_event {e : TickEvent} (quiet : e.reading? = none) (stepped : s.step e = t)
    (ahead : t.ahead = rest) (reaches : s.Reaches t after.2 []) : s.Performs before after rest := by
  subst stepped
  refine ⟨[e], [], List.forall_mem_singleton.mpr quiet, ahead, reaches, ?_⟩
  rw [reported, List.append_nil]

end Quiet

theorem Performs.trans {first second third : TickReport × Dispatcher} {left left' : List Visit}
    (performs : s.Performs first second left)
    (onward : ∀ t : TickTraffic, t.polls.Stands second.2 → t.ahead = left → t.waits = s.waits →
      t.Performs second third left') : s.Performs first third left' := by
  obtain ⟨events, names, quiet, ahead, reaches, reported⟩ := performs
  obtain ⟨events', names', quiet', ahead', reaches', reported'⟩ :=
    onward _ reaches.stands ahead reaches.waits
  refine ⟨events ++ events', names ++ names', ?_, ?_, ?_, ?_⟩
  · exact fun e there => (List.mem_append.mp there).elim (quiet e) (quiet' e)
  · rw [run_append]
    exact ahead'
  · rw [run_append]
    exact reaches.trans reaches'
  · rw [reported', reported, List.append_assoc]

variable {c : Connector} {connectors : List Connector} {at' : Instant}

theorem performs_tickConnector (stands : s.polls.Stands d) (next : s.ahead = ⟨c, at'⟩ :: rest)
    (free : s.waits = false) (report : TickReport) (now : Instant) :
    s.Performs (report, d) (Dispatcher.tickConnector at' now (report, d) c) rest := by
  cases due : c.isDue at' with
  | false =>
    have idle : Dispatcher.tickConnector at' now (report, d) c = (report, d) := by
      simp [Dispatcher.tickConnector, due]
    rw [idle]
    exact performs_event rfl rfl (visit_of_not_due next free due) rfl
      (.of_dispatched_eq stands rfl rfl rfl)
  | true =>
    cases claimed : d.registry.markPollStart c.id at' with
    | error problem =>
      have unclaimed : s.polls.step (.claim c.id .poll at') = s.polls := by
        have claimed' : s.polls.pool.registry.markPollStart c.id at' = .error problem := by
          rw [stands.pool]
          exact claimed
        simp [PollTraffic.step, PollTraffic.claim, claimed']
      have idle : (Dispatcher.tickConnector at' now (report, d) c).2 = d ∧
          (Dispatcher.tickConnector at' now (report, d) c).1.dispatched = report.dispatched := by
        simp only [Dispatcher.tickConnector, due, claimed]
        cases problem <;> exact ⟨rfl, rfl⟩
      have stepped := visit_of_due next free due
      rw [unclaimed] at stepped
      refine performs_event idle.2 rfl stepped rfl (.of_dispatched_eq ?_ rfl rfl rfl)
      rw [idle.1]
      exact stands
    | ok result =>
      obtain ⟨ticket, snapshot, r⟩ := result
      obtain ⟨left, reaches⟩ := submitPoll_run stands next free due claimed now
      have reported :
          (Dispatcher.tickConnector at' now (report, d) c).2 =
              ((d.setRegistry r).submitPoll .poll ticket snapshot now).2 ∧
            (Dispatcher.tickConnector at' now (report, d) c).1.dispatched = report.dispatched ++
              if ((d.setRegistry r).submitPoll .poll ticket snapshot now).1.isOk = true then [c.id]
              else [] := by
        simp only [Dispatcher.tickConnector, due, claimed]
        rcases (d.setRegistry r).submitPoll .poll ticket snapshot now with ⟨e | j, d'⟩
        · cases e <;> exact ⟨rfl, (List.append_nil _).symm⟩
        · exact ⟨rfl, rfl⟩
      refine ⟨_, _, by simp [TickEvent.reading?], left, ?_, reported.2⟩
      rw [reported.1]
      exact reaches

theorem performs_tickConnectors (stands : s.polls.Stands d)
    (next : s.ahead = connectors.map fun c => ⟨c, at'⟩) (free : s.waits = false)
    (report : TickReport) (now : Instant) :
    s.Performs (report, d) (connectors.foldl (Dispatcher.tickConnector at' now) (report, d))
      [] := by
  induction connectors generalizing s d report with
  | nil =>
    rw [← show s.ahead = [] from next]
    exact performs_nothing rfl stands
  | cons c connectors ih =>
    refine (performs_tickConnector stands next free report now).trans fun t stands' left same => ?_
    exact ih stands' left (same.trans free) _

theorem performs_tickJob (stands : s.polls.Stands d) (report : TickReport) (at' now : Instant)
    (spec : JobSpec) :
    s.Performs (report, d) (Dispatcher.tickJob at' now (report, d) spec) s.ahead := by
  have triggered {t : PollTraffic} {d : Dispatcher} (stands : t.Stands d) :
      t.Stands (d.recordTrigger spec.name at') := ⟨stands.pool, stands.fresh⟩
  simp only [Dispatcher.tickJob]
  split
  · exact performs_nothing rfl (triggered stands)
  · obtain ⟨submitted, claims, closings⟩ := stands.submitJob_run .scheduled spec now
    let event : PollEvent := .submitJob .scheduled spec d.ids.draw.1 now
    have stepped : s.step (.elsewhere event) = { s with polls := s.polls.step event } :=
      elsewhere_of_not_dispatches rfl rfl
    split <;> rename_i outcome <;> rw [outcome] at submitted
    · exact performs_event rfl rfl stepped rfl
        (.of_dispatched_eq (triggered submitted) claims closings rfl)
    · exact performs_event rfl rfl stepped rfl (.of_dispatched_eq submitted claims closings rfl)

theorem performs_tickJobs {specs : List JobSpec} (stands : s.polls.Stands d) (report : TickReport)
    (at' now : Instant) :
    s.Performs (report, d) (specs.foldl (Dispatcher.tickJob at' now) (report, d)) s.ahead := by
  induction specs generalizing s d report with
  | nil => exact performs_nothing rfl stands
  | cons spec specs ih =>
    refine (performs_tickJob stands report at' now spec).trans fun t stands' left same => ?_
    rw [← left]
    exact ih stands' _

/-- A tick of the dispatcher is a run that begins one tick and ends it, and dispatches what the tick
reports. -/
theorem tick_run (stands : s.polls.Stands d) (idle : s.busy = false) (at' now : Instant) :
    ∃ during, (∀ e ∈ during, e.reading? = none) ∧
      let t := run s (.begin at' :: during)
      t.busy = false ∧ s.Reaches t (d.tick at' now).2 (d.tick at' now).1.dispatched := by
  let begun : TickTraffic := { s with ahead := s.listing at', current := none }
  have free := free_of_idle idle
  have ahead : begun.ahead = (d.registry.list (some true)).map fun c => ⟨c, at'⟩ := by
    rw [Dispatcher.registry, ← stands.pool]
    rfl
  have polls : begun.Performs ({}, d)
      ((d.registry.list (some true)).foldl (Dispatcher.tickConnector at' now) ({}, d)) [] :=
    performs_tickConnectors (s := begun) stands ahead free {} now
  have whole : begun.Performs ({}, d) (d.tick at' now) [] := by
    refine polls.trans fun t stands' left same => ?_
    rw [← left]
    exact performs_tickJobs stands' _ at' now
  obtain ⟨during, names, quiet, left, reaches, reported⟩ := whole
  refine ⟨during, quiet, ?_⟩
  rw [run_cons, begin_of_idle idle, reported]
  refine ⟨?_, reaches.stands, reaches.claims, reaches.closings, reaches.dispatched⟩
  simp only [busy, begun] at left reaches ⊢
  rw [left, reaches.waits]
  exact free

end TickTraffic

end DeviceWatch
