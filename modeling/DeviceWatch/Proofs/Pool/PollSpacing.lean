import DeviceWatch.Proofs.Pool.Tours

/-!
# The spacing of polls

Ticks list when each connector was polled last, and go by that later on.  Once a tick has dispatched a
connector, whoever remembers when it was polled last remembers the time of that tick or a later one.
So the next tick that finds it due does so an interval later.
-/

namespace DeviceWatch

namespace TickTraffic

variable {s : TickTraffic} {e : TickEvent} {id : String} {dispatch : DispatchConfig}
  {known : Instant → Prop} {o : Option Instant} {v w : Visit}

/-- A time that is known, and not before `t`. -/
def Since (known : Instant → Prop) (t : Instant) (o : Option Instant) : Prop :=
  ∃ p, o = some p ∧ t ≤ p ∧ known p

/-- The tick has still to visit the connector, or waits for its poll to be accepted. -/
def Awaits (s : TickTraffic) (v : Visit) : Prop :=
  v ∈ s.ahead ∨ s.current = some v ∧ s.waits = true

theorem Awaits.mem_tour (awaits : s.Awaits v) : v ∈ s.tour := by
  rcases awaits with ahead | ⟨here, -⟩
  · exact List.mem_append_right _ ahead
  · simp [tour, here]

theorem waits_of_elsewhere {event : PollEvent} (other : event.isTickClaim = false) {t : TickTraffic}
    (polls : t.polls = s.polls.step event) (waits : t.waits = true) : s.waits = true := by
  obtain ⟨q, there, poll⟩ := List.any_eq_true.mp waits
  rw [polls] at there
  rw [beq_iff_eq] at poll
  rcases PollTraffic.mem_claims_step there with ⟨old, before, -, -, kind⟩ | ⟨k, now, rfl, -⟩
  · exact waits_of_mem before (kind.trans poll)
  · rw [poll] at other
    cases other

theorem awaits_step (e : TickEvent) (awaits : (s.step e).Awaits v) :
    s.Awaits v ∨ ∃ at', v ∈ s.listing at' := by
  have steps := s.steps e
  generalize s.step e = s' at steps awaits
  cases steps with
  | idle => exact .inl awaits
  | @begin at' idle =>
    rcases awaits with listed | ⟨here, -⟩
    · exact .inr ⟨at', listed⟩
    · cases here
  | @pass w rest next free =>
    rcases awaits with ahead | ⟨-, waits⟩
    · exact .inl (.inl (next ▸ .tail w ahead))
    · rw [show s.waits = true from waits] at free
      cases free
  | @claim w rest next free due =>
    rcases awaits with ahead | ⟨here, -⟩
    · exact .inl (.inl (next ▸ .tail w ahead))
    · cases here
      exact .inl (.inl (next ▸ List.mem_cons_self))
  | dispatch here poll unused accepted =>
    rcases awaits with ahead | ⟨here, -⟩
    · exact .inl (.inl ahead)
    · cases here
  | elsewhere other =>
    rcases awaits with ahead | ⟨here, waits⟩
    · exact .inl (.inl ahead)
    · exact .inl (.inr ⟨here, waits_of_elsewhere other rfl waits⟩)

/-- Who remembers when a connector was polled last: the traffic, and the visits that the tick
awaits. -/
inductive Remembers (s : TickTraffic) (id : String) : Option Instant → Prop
  | polls {o : Option Instant} (remembers : s.polls.Remembers id o) : s.Remembers id o
  | visit {v : Visit} (awaits : s.Awaits v) (own : v.connector.id = id) :
    s.Remembers id v.connector.lastPollAt

/-- What is remembered was remembered before, or the traffic remembers it now. -/
theorem remembers_step (ownIds : s.polls.pool.registry.OwnIds) (e : TickEvent)
    (remembers : (s.step e).Remembers id o) :
    s.Remembers id o ∨ (s.step e).polls.Remembers id o := by
  cases remembers with
  | polls remembers => exact .inr remembers
  | @visit v awaits own =>
    left
    rcases awaits_step e awaits with before | ⟨at', listed⟩
    · exact .visit before own
    · obtain ⟨found, -, -⟩ := (mem_listing ownIds).mp listed
      exact .polls (.registered (own ▸ found))

theorem Touring.order (h : s.Touring dispatch known) (earlier : v ∈ s.dispatched)
    (later : w ∈ s.tour) : v.at' ≤ w.at' :=
  (List.pairwise_append.mp h.ordered).2.2 v earlier w later

/-- A dispatch is of a connector that was due and that the tick awaited.  Afterwards everybody
remembers that it was polled last when the tick began. -/
theorem Touring.dispatched_step (h : s.Touring dispatch known) (e : TickEvent) :
    (s.step e).dispatched = s.dispatched ∨
      ∃ w, s.Awaits w ∧ w.connector.isDue w.at' = true ∧
        (s.step e).dispatched = s.dispatched ++ [w] ∧
        (∃ c, (s.step e).polls.pool.registry.connectors.find? w.connector.id = some c) ∧
        ∀ o, (s.step e).Remembers w.connector.id o → o = some w.at' := by
  have steps := s.steps e
  generalize s.step e = s' at steps ⊢
  cases steps with
  | @dispatch i c task now here poll unused accepted =>
    right
    have pending := List.mem_of_getElem? here
    obtain ⟨w, visited, same, polledAt, due⟩ := h.claimed c pending poll
    obtain ⟨c', found, -, polled⟩ := (h.tended.submit here unused accepted).2.connector
    rw [same] at found
    refine ⟨w, .inr ⟨visited, waits_of_mem pending poll⟩, due, by rw [visited]; rfl, ⟨c', found⟩,
      fun o remembers => ?_⟩
    cases remembers with
    | polls remembers =>
      cases remembers with
      | registered found' =>
        rw [found] at found'
        cases found'
        exact polled.trans polledAt
      | claimed there own =>
        have alone := h.tended.unclaimed_of_accepted here unused accepted there
        exact absurd (own.trans same.symm) alone
    | @visit v awaits own =>
      rcases awaits with ahead | ⟨here', -⟩
      · have distinct := h.distinct
        rw [tour, visited, Option.toList_some, List.singleton_append, List.map_cons,
          List.nodup_cons] at distinct
        exact absurd (List.mem_map.mpr ⟨v, ahead, own⟩) distinct.1
      · cases here'
  | _ => exact .inl rfl

/-- Once a tick has dispatched a connector, nobody remembers an earlier poll, and so no later tick
has listed the connector with one. -/
structure Spaced (s : TickTraffic) (known : Instant → Prop) (id : String) : Prop where
  registered : ∀ v ∈ s.dispatched, v.connector.id = id →
    ∃ c, s.polls.pool.registry.connectors.find? id = some c
  since : ∀ v ∈ s.dispatched, v.connector.id = id → ∀ o, s.Remembers id o → Since known v.at' o
  apart : s.dispatched.Pairwise fun v w => v.connector.id = id → w.connector.id = id →
    Since known v.at' w.connector.lastPollAt ∧ w.connector.isDue w.at' = true

/-- An event of the traffic leaves no memory of an earlier poll, unless it claims with an earlier
time or removes the connector. -/
theorem Spaced.polls_event (h : s.Spaced known id) (there : v ∈ s.dispatched)
    (own : v.connector.id = id) (event : PollEvent) (kept : event ≠ .remove id)
    (claimed : ∀ kind now, event = .claim id kind now → v.at' ≤ now ∧ known now) :
    (∃ c, (s.polls.step event).pool.registry.connectors.find? id = some c) ∧
      ∀ o, (s.polls.step event).Remembers id o → Since known v.at' o := by
  obtain ⟨c, found⟩ := h.registered v there own
  obtain ⟨c', found', -⟩ := PollTraffic.lastPollAt_step found kept
  refine ⟨⟨c', found'⟩, fun o remembers => ?_⟩
  rcases remembers.before found kept with before | ⟨kind, now, made, rfl⟩
  · exact h.since v there own o (.polls before)
  · obtain ⟨order, read⟩ := claimed kind now made
    exact ⟨now, rfl, order, read⟩

section Step

variable (h : s.Spaced known id) (touring : s.Touring dispatch known) (e : TickEvent)
  (kept : e ≠ .elsewhere (.remove id))
  (read : ∀ t, e.reading? = some t → known t ∧ ∀ v ∈ s.visits, v.at' ≤ t)

include h touring kept read

theorem Spaced.polls_step (there : v ∈ s.dispatched) (own : v.connector.id = id) :
    (∃ c, (s.step e).polls.pool.registry.connectors.find? id = some c) ∧
      ∀ o, (s.step e).polls.Remembers id o → Since known v.at' o := by
  have steps := s.steps e
  generalize s.step e = s' at steps ⊢
  cases steps with
  | idle | begin _ | pass _ _ =>
    exact ⟨h.registered v there own, fun o remembers => h.since v there own o (.polls remembers)⟩
  | @claim w rest next free due =>
    have kept' : PollEvent.claim w.connector.id .poll w.at' ≠ .remove id := by simp
    refine h.polls_event there own _ kept' fun kind now made => ?_
    obtain ⟨-, -, rfl⟩ := PollEvent.claim.inj made
    have inTour : w ∈ s.tour := by simp [tour, next]
    exact ⟨touring.order there inTour, (touring.listed w (List.mem_append_right _ inTour)).2⟩
  | @dispatch i c task now here poll unused accepted =>
    exact h.polls_event there own (.submit i task now) (by simp) (by simp)
  | @elsewhere event other =>
    have kept' : event ≠ .remove id := fun removed => kept (congrArg _ removed)
    refine h.polls_event there own event kept' fun kind now made => ?_
    subst made
    obtain ⟨read', past⟩ := read now rfl
    exact ⟨past v (List.mem_append_left _ there), read'⟩

theorem Spaced.step : (s.step e).Spaced known id := by
  have old (v : Visit) (there : v ∈ s.dispatched) (own : v.connector.id = id) :
      (∃ c, (s.step e).polls.pool.registry.connectors.find? id = some c) ∧
        ∀ o, (s.step e).Remembers id o → Since known v.at' o := by
    obtain ⟨registered, since⟩ := h.polls_step touring e kept read there own
    refine ⟨registered, fun o remembers => ?_⟩
    rcases remembers_step touring.tended.registered e remembers with before | now
    · exact h.since v there own o before
    · exact since o now
  rcases touring.dispatched_step e with same | ⟨w, awaits, due, dispatched, registered, fresh⟩
  · refine ⟨fun v there own => ?_, fun v there own => ?_, ?_⟩ <;> rw [same] at *
    · exact (old v there own).1
    · exact (old v there own).2
    · exact h.apart
  · have visited := touring.listed w (List.mem_append_right _ awaits.mem_tour)
    refine ⟨fun v there own => ?_, fun v there own => ?_, ?_⟩
    · rw [dispatched] at there
      rcases List.mem_append.mp there with before | new
      · exact (old v before own).1
      · obtain rfl := List.mem_singleton.mp new
        exact own ▸ registered
    · rw [dispatched] at there
      rcases List.mem_append.mp there with before | new
      · exact (old v before own).2
      · obtain rfl := List.mem_singleton.mp new
        exact fun o remembers => ⟨v.at', fresh o (own ▸ remembers), Std.le_refl _, visited.2⟩
    · rw [dispatched]
      refine List.pairwise_append.mpr ⟨h.apart, List.pairwise_singleton _ _, ?_⟩
      intro v before v' new own own'
      obtain rfl := List.mem_singleton.mp new
      exact ⟨h.since v before own _ (.visit awaits own'), due⟩

end Step

def readings (events : List TickEvent) : List Instant := events.filterMap TickEvent.reading?

/-- While the clock does not go back, no visit is from later than the time that is read. -/
theorem run_induction {P : TickTraffic → Prop} {events : List TickEvent} (start : P s)
    (forward : (readings events).Pairwise (· ≤ ·))
    (past : ∀ v ∈ s.visits, ∀ t ∈ readings events, v.at' ≤ t)
    (keep : ∀ s e, e ∈ events → P s → (∀ t, e.reading? = some t → ∀ v ∈ s.visits, v.at' ≤ t) →
      P (s.step e)) : P (run s events) := by
  induction events generalizing s with
  | nil => exact start
  | cons e rest ih =>
    have later : (readings rest).Sublist (readings (e :: rest)) :=
      (List.sublist_cons_self e rest).filterMap _
    have now (t : Instant) (read : e.reading? = some t) : t ∈ readings (e :: rest) :=
      List.mem_filterMap.mpr ⟨e, List.mem_cons_self, read⟩
    refine ih (keep s e List.mem_cons_self start fun t read v there => past v there t (now t read))
      (forward.sublist later) (fun v there t soon => ?_)
      fun s e there => keep s e (List.mem_cons_of_mem _ there)
    rcases s.visits_step e with ⟨-, fewer⟩ | ⟨at', rfl, -, -, visits⟩
    · exact past v (fewer.subset there) t (later.subset soon)
    · rw [visits] at there
      rcases List.mem_append.mp there with old | new
      · exact past v (List.mem_append_left _ old) t (later.subset soon)
      · obtain ⟨c, -, rfl⟩ := List.mem_map.mp new
        exact (List.pairwise_cons.mp forward).1 t soon

theorem visits_initial (workers : WorkerConfig) (historyLimit : Nat) (dispatch : DispatchConfig) :
    (initial workers historyLimit dispatch).visits = [] := rfl

theorem touring_initial (workers : WorkerConfig) (historyLimit : Nat) (dispatch : DispatchConfig)
    (known : Instant → Prop) : (initial workers historyLimit dispatch).Touring dispatch known where
  tended := PollTraffic.tended_initial workers historyLimit dispatch
  registers := PollTraffic.registers_initial workers historyLimit dispatch
  listed _ there := nomatch there
  ordered := .nil
  distinct := .nil
  claimed _ there := nomatch there

theorem spaced_initial (workers : WorkerConfig) (historyLimit : Nat) (dispatch : DispatchConfig)
    (known : Instant → Prop) (id : String) :
    (initial workers historyLimit dispatch).Spaced known id where
  registered _ there := nomatch there
  since _ there := nomatch there
  apart := .nil

section Runs

variable (workers : WorkerConfig) (historyLimit : Nat) {events : List TickEvent}
  (forward : (readings events).Pairwise (· ≤ ·)) (read : ∀ t ∈ readings events, known t)

include forward read

theorem touring_run :
    (run (initial workers historyLimit dispatch) events).Touring dispatch known := by
  refine run_induction (P := (·.Touring dispatch known))
    (touring_initial workers historyLimit dispatch known) forward (by simp [visits_initial])
    fun s e there touring past => touring.step e fun t now => ⟨read t ?_, past t now⟩
  exact List.mem_filterMap.mpr ⟨e, there, now⟩

theorem spaced_run (kept : .elsewhere (.remove id) ∉ events) :
    (run (initial workers historyLimit dispatch) events).Spaced known id := by
  refine (run_induction (P := fun s => s.Touring dispatch known ∧ s.Spaced known id)
    ⟨touring_initial workers historyLimit dispatch known,
      spaced_initial workers historyLimit dispatch known id⟩ forward (by simp [visits_initial])
    fun s e there both past => ?_).2
  have read' (t : Instant) (now : e.reading? = some t) : known t ∧ ∀ v ∈ s.visits, v.at' ≤ t :=
    ⟨read t (List.mem_filterMap.mpr ⟨e, there, now⟩), past t now⟩
  exact ⟨both.1.step e read', both.2.step both.1 e (fun removed => kept (removed ▸ there)) read'⟩

end Runs

section Apart

variable {workers : WorkerConfig} {historyLimit : Nat} {events : List TickEvent}
  {first second : List Visit} (forward : (readings events).Pairwise (· ≤ ·))
  (split : (run (initial workers historyLimit dispatch) events).dispatched = first ++ second)
  (earlier : v ∈ first) (later : w ∈ second)

include forward split earlier later

/-- Of two dispatches of a connector the later one has waited for its interval. -/
theorem interval_passed (same : v.connector.id = w.connector.id)
    (kept : .elsewhere (.remove w.connector.id) ∉ events) :
    (∀ leaps : Finset Int, (∀ t ∈ readings events, t.isLeap = true → t.unixSecs ∈ leaps) →
      w.connector.pollIntervalSecs * Instant.nanosPerSec ≤ Instant.elapsed leaps v.at' w.at') ∧
    ((∀ t ∈ readings events, t.isLeap = false) →
      w.connector.pollIntervalSecs ≤ v.at'.secsUntil w.at') := by
  let s := run (initial workers historyLimit dispatch) events
  have touring : s.Touring dispatch (· ∈ readings events) :=
    touring_run workers historyLimit forward fun _ => id
  have spaced : s.Spaced (· ∈ readings events) w.connector.id :=
    spaced_run workers historyLimit forward (fun _ => id) kept
  have visited : first ++ second ⊆ s.visits := by
    rw [← split]
    exact List.subset_append_left _ _
  have ordered := touring.ordered.sublist (List.sublist_append_left _ _)
  have apart := spaced.apart
  rw [show s.dispatched = first ++ second from split] at ordered apart
  obtain ⟨⟨p, polled, since, read⟩, due⟩ :=
    (List.pairwise_append.mp apart).2.2 v earlier w later same rfl
  have order := (List.pairwise_append.mp ordered).2.2 v earlier w later
  obtain ⟨-, start⟩ := touring.listed v (visited (List.mem_append_left _ earlier))
  obtain ⟨valid, finish⟩ := touring.listed w (visited (List.mem_append_right _ later))
  have bounded := Nat.le_trans valid.belowMaximum (by decide : _ ≤ Json.signed64Max)
  have passed (leaps : Finset Int)
      (known : ∀ t ∈ readings events, t.isLeap = true → t.unixSecs ∈ leaps) :
      w.connector.pollIntervalSecs * Instant.nanosPerSec ≤ Instant.elapsed leaps v.at' w.at' :=
    Connector.interval_le_elapsed due polled bounded since order (known v.at' start) (known p read)
  refine ⟨passed, fun regular => ?_⟩
  refine Instant.le_secsUntil_of_elapsed (regular _ start) (regular _ finish) (passed ∅ ?_)
  intro t there leap
  rw [regular t there] at leap
  cases leap

end Apart

/-- Whatever else happens between, a tick dispatches each connector at most once, and only those
that were enabled when it began.  If such a connector was dispatched by a tick before, and not
removed, then at least its interval has passed since, which is not below the floor; leap seconds
count as time that passes, and without any the difference of the two times is as long.  And where a
claim of the tick is undone because the pool has refused the poll, the time of the last poll is the
one from before the claim: the connector is due whenever it was due then, unless it was disabled or
given a longer interval. -/
theorem ticks_keep_interval (workers : WorkerConfig) (historyLimit : Nat)
    (dispatch : DispatchConfig) (events during : List TickEvent) (at' : Instant)
    {s t : TickTraffic} {times : List Instant}
    (start : s = run (initial workers historyLimit dispatch) events) (idle : s.busy = false)
    (ticked : t = run s (.begin at' :: during)) (oneTick : ∀ u, .begin u ∉ during)
    (read : times = readings (events ++ .begin at' :: during))
    (forward : times.Pairwise (· ≤ ·)) :
    ∃ new, t.dispatched = s.dispatched ++ new ∧ (new.map (·.connector.id)).Nodup ∧
      (∀ w ∈ new, ∃ c, s.polls.pool.registry.connectors.find? w.connector.id = some c ∧
        c.enabled = true ∧ w.at' = at' ∧ dispatch.minPollIntervalSecs ≤ c.pollIntervalSecs ∧
        (.elsewhere (.remove w.connector.id) ∉ events ++ during →
          ∀ v ∈ s.dispatched, v.connector.id = w.connector.id →
            (∀ leaps : Finset Int, (∀ u ∈ times, u.isLeap = true → u.unixSecs ∈ leaps) →
              c.pollIntervalSecs * Instant.nanosPerSec ≤ Instant.elapsed leaps v.at' at') ∧
            ((∀ u ∈ times, u.isLeap = false) → c.pollIntervalSecs ≤ v.at'.secsUntil at'))) ∧
      ∀ i q, t.polls.claims[i]? = some q → q.kind = .poll → q.refused = true →
        ∃ first rest old c, during = first ++ .visit :: rest ∧
          (run s (.begin at' :: first)).polls.pool.registry.markPollStart q.ticket.connectorId at' =
            .ok (q.ticket, q.snapshot,
              (run s (.begin at' :: (first ++ [.visit]))).polls.pool.registry) ∧
          (run s (.begin at' :: first)).polls.pool.registry.connectors.find?
            q.ticket.connectorId = some old ∧
          (t.step (.elsewhere (.abort i))).polls.pool.registry.connectors.find?
            q.ticket.connectorId = some c ∧
          c.lastPollAt = old.lastPollAt ∧
          ∀ u, old.isDue u = true → c.enabled = true →
            c.pollIntervalSecs ≤ old.pollIntervalSecs → c.isDue u = true := by
  have reached :
      run (initial workers historyLimit dispatch) (events ++ .begin at' :: during) = t := by
    rw [run_append, ← start, ticked]
  have before : (readings events).Sublist times := by
    rw [read]
    exact (List.sublist_append_left _ _).filterMap _
  have touring : s.Touring dispatch fun _ => True := by
    rw [start]
    exact touring_run workers historyLimit (forward.sublist before) fun _ _ => trivial
  have touring' : t.Touring dispatch fun _ => True := by
    rw [read] at forward
    rw [← reached]
    exact touring_run workers historyLimit forward fun _ _ => trivial
  have own := touring.tended.registered
  obtain ⟨new, dispatched, listed⟩ := dispatched_tick idle at' during oneTick
  rw [← ticked] at dispatched listed
  have listed' := (List.sublist_append_left _ _).trans listed
  refine ⟨new, dispatched, (nodup_listing own at').sublist (listed'.map _), fun w there => ?_,
    fun i q here poll refused => ?_⟩
  · obtain ⟨found, enabled, rfl⟩ := (mem_listing own).mp (listed'.subset there)
    have valid := touring.registers.consistent.valid found
    rw [show s.polls.pool.registry.dispatch = dispatch from touring.registers.dispatch] at valid
    refine ⟨w.connector, found, enabled, rfl, valid.aboveFloor, fun kept v earlier same => ?_⟩
    have kept' : .elsewhere (.remove w.connector.id) ∉ events ++ .begin w.at' :: during := by
      simpa using kept
    rw [read] at forward ⊢
    rw [← reached] at dispatched
    exact interval_passed forward dispatched earlier there same kept'
  · have sameTime (v : Visit) (there : v ∈ t.tour) : v.at' = at' :=
      ((mem_listing own).mp (listed.subset (List.mem_append_right _ there))).2.2
    rw [ticked] at touring' sameTime here ⊢
    exact abort_restores idle touring' sameTime here poll refused

/-- Two connectors share a queue with one place.  A tick has dispatched the poll of the first, which
ran into its timeout, and the claim of the second was undone. -/
def firstTick : List TickEvent :=
  let edge : ConnectorInput := ⟨none, .ping { host := "10.1.1.1" }, true, some 60⟩
  [.elsewhere (.upsert "edge-1" edge default), .elsewhere (.upsert "edge-2" edge default),
    .begin (.ofParts 100 0), .visit, .elsewhere (.submit 0 ⟨1⟩ default),
    .visit, .elsewhere (.submit 0 ⟨2⟩ default), .elsewhere (.abort 0),
    .elsewhere (.start 0 0 .missing default), .elsewhere (.finish 0 (.timedOut 30) default),
    .elsewhere (.proceed 0 none default), .elsewhere (.proceed 0 none default)]

/-- The next tick dispatches the first connector again, and the second is refused. -/
def secondTick : List TickEvent :=
  [.visit, .elsewhere (.submit 0 ⟨3⟩ default), .visit, .elsewhere (.submit 0 ⟨4⟩ default)]

theorem ticks_keep_interval_crowded :
    let s := run (initial { queueBound := 1 } 500 {}) firstTick
    let t := run s (.begin (.ofParts 200 0) :: secondTick)
    t.dispatched.map (fun v => (v.connector.id, v.at')) =
        [("edge-1", .ofParts 100 0), ("edge-1", .ofParts 200 0)] ∧
      60 ≤ (Instant.ofParts 100 0).secsUntil (.ofParts 200 0) ∧
      ∃ c, (t.step (.elsewhere (.abort 0))).polls.pool.registry.connectors.find? "edge-2" = some c ∧
        c.lastPollAt = none := by
  intro s t
  have start : s = run (initial { queueBound := 1 } 500 {}) firstTick := rfl
  have ticked : t = run s (.begin (.ofParts 200 0) :: secondTick) := rfl
  have free : s.busy = false := by decide +kernel
  have once : s.dispatched.map (fun v => (v.connector.id, v.at')) =
      [("edge-1", .ofParts 100 0)] := by decide +kernel
  have twice : t.dispatched.map (fun v => (v.connector.id, v.at')) =
      [("edge-1", .ofParts 100 0), ("edge-1", .ofParts 200 0)] := by decide +kernel
  have interval : (s.polls.pool.registry.connectors.find? "edge-1").map (·.pollIntervalSecs) =
      some 60 := by decide +kernel
  have refused : (t.polls.claims[0]?).map (fun q => (q.ticket.connectorId, q.kind, q.refused)) =
      some ("edge-2", .poll, true) := by decide +kernel
  have unpolled (n : Nat) (early : n ≤ 2) :
      ((run s (.begin (.ofParts 200 0) :: secondTick.take n)).polls.pool.registry.connectors.find?
        "edge-2").map (·.lastPollAt) = some none := by
    revert n
    decide +kernel
  clear_value s t
  obtain ⟨new, dispatched, -, each, undone⟩ :=
    ticks_keep_interval { queueBound := 1 } 500 {} firstTick secondTick (.ofParts 200 0) start free
      ticked (by simp [secondTick]) rfl (by decide +kernel)
  refine ⟨twice, ?_, ?_⟩
  · obtain ⟨v, only, shown⟩ := List.map_eq_singleton_iff.mp once
    have again : new.map (fun v => (v.connector.id, v.at')) = [("edge-1", .ofParts 200 0)] := by
      rw [dispatched, List.map_append, once] at twice
      exact (List.cons.inj twice).2
    obtain ⟨w, only', shown'⟩ := List.map_eq_singleton_iff.mp again
    simp only [Prod.mk.injEq] at shown shown'
    obtain ⟨c, found, -, -, -, passed⟩ := each w (by simp [only'])
    obtain ⟨-, apart⟩ := passed (by simp [shown'.1, firstTick, secondTick]) v (by simp [only])
      (shown.1.trans shown'.1.symm)
    rw [shown'.1] at found
    rw [found, Option.map_some, Option.some.injEq] at interval
    rw [interval, shown.2] at apart
    exact apart (by decide +kernel)
  · obtain ⟨q, here, shown⟩ := Option.map_eq_some_iff.mp refused
    simp only [Prod.mk.injEq] at shown
    obtain ⟨before, rest, old, c, split, -, found, found', polled, -⟩ :=
      undone 0 q here shown.2.1 shown.2.2
    rw [shown.1] at found found'
    refine ⟨c, found', polled.trans ?_⟩
    -- The last event is no visit, so the claim was made before it.
    have early : before.length ≤ 2 := by
      have visited : secondTick[before.length]? = some .visit := by
        rw [split]
        simp
      have within : 4 = before.length + (rest.length + 1) := by
        simpa [secondTick] using congrArg List.length split
      refine Nat.le_of_not_lt fun late => ?_
      obtain last : before.length = 3 := by omega
      rw [last] at visited
      cases visited
    have taken : before = secondTick.take before.length := by
      rw [split, List.take_left]
    have none' := unpolled before.length early
    rw [← taken, found] at none'
    exact Option.some.inj none'

end TickTraffic

end DeviceWatch
