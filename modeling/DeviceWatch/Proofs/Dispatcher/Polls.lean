import DeviceWatch.Proofs.Dispatcher.Admission

/-!
# The visits of connectors in a tick

A tick visits the enabled connectors in order.  Of those that are due it skips the ones in flight;
it polls the others while the queue has room, and when there is none it undoes each claim at once.
The visit of a connector leaves all others as they are, so that a visit finds what the tick listed.
-/

namespace DeviceWatch

def Connector.claimed (at' : Instant) (c : Connector) : Connector :=
  { c with lastPollAt := some at', status := .connecting }

namespace Registry

def claim (at' : Instant) (r : Registry) (c : Connector) : Registry :=
  { r with
    connectors := r.connectors.insert c.id (c.claimed at')
    inFlight := r.inFlight.insert c.id c.status }

def claimAll (at' : Instant) (r : Registry) (cs : List Connector) : Registry :=
  cs.foldl (claim at') r

/-- The connector is enabled and registered as it is. -/
def Lists (r : Registry) (c : Connector) : Prop :=
  r.connectors.find? c.id = some c ∧ c.enabled = true

variable {r : Registry} {c other : Connector} {cs : List Connector} {at' : Instant}

theorem markPollStart_of_free (listed : r.Lists c) (free : r.isInFlight c.id = false)
    (at' : Instant) :
    r.markPollStart c.id at' =
      .ok (⟨c.id, c.lastPollAt, c.status⟩, c.claimed at', r.claim at' c) := by
  have found := get_eq_ok_iff.mpr listed.1
  simp [markPollStart, found, listed.2, free, claim, Connector.claimed, bind, Except.bind, pure,
    Except.pure]

theorem markPollStart_of_busy (listed : r.Lists c) (busy : r.isInFlight c.id = true)
    (at' : Instant) :
    r.markPollStart c.id at' =
      .error (.conflict ("connector '" ++ c.id ++ "' is already polling")) := by
  have found := get_eq_ok_iff.mpr listed.1
  simp [markPollStart, found, listed.2, busy, bind, Except.bind]

theorem find?_claim (r : Registry) (c : Connector) (at' : Instant) (id : String) :
    (r.claim at' c).connectors.find? id =
      if id = c.id then some (c.claimed at') else r.connectors.find? id :=
  OrderedMap.find?_insert _ _ _ _

theorem inFlight_claim (r : Registry) (c : Connector) (at' : Instant) (id : String) :
    (r.claim at' c).inFlight.find? id = if id = c.id then some c.status else r.inFlight.find? id :=
  OrderedMap.find?_insert _ _ _ _

theorem Lists.claim (listed : r.Lists other) (differ : other.id ≠ c.id) (at' : Instant) :
    (r.claim at' c).Lists other := by
  rw [Lists, find?_claim, if_neg differ]
  exact listed

theorem isInFlight_claim (differ : other.id ≠ c.id) (at' : Instant) :
    (r.claim at' c).isInFlight other.id = r.isInFlight other.id := by
  simp only [isInFlight, OrderedMap.contains_eq_isSome, inFlight_claim, if_neg differ]

theorem ne_of_distinct (distinct : ((c :: cs).map (·.id)).Nodup) (there : other ∈ cs) :
    other.id ≠ c.id := fun same =>
  (List.nodup_cons.mp distinct).1 (List.mem_map.mpr ⟨other, there, same⟩)

theorem find?_claimAll (distinct : (cs.map (·.id)).Nodup) (listed : ∀ c ∈ cs, r.Lists c)
    (at' : Instant) (id : String) :
    (r.claimAll at' cs).connectors.find? id =
        (if id ∈ cs.map (·.id) then (r.connectors.find? id).map (·.claimed at')
        else r.connectors.find? id) ∧
      (r.claimAll at' cs).inFlight.find? id =
        if id ∈ cs.map (·.id) then (r.connectors.find? id).map (·.status)
        else r.inFlight.find? id := by
  induction cs generalizing r with
  | nil => exact ⟨rfl, rfl⟩
  | cons c rest ih =>
    have later : ∀ d ∈ rest, (r.claim at' c).Lists d := fun d there =>
      (listed d (.tail _ there)).claim (ne_of_distinct distinct there) at'
    have both := ih (List.nodup_cons.mp distinct).2 later
    rw [find?_claim, inFlight_claim] at both
    have first : (r.claimAll at' (c :: rest)) = (r.claim at' c).claimAll at' rest := rfl
    rw [first, both.1, both.2]
    simp only [List.map_cons, List.mem_cons]
    by_cases same : id = c.id
    · have once : c.id ∉ rest.map (·.id) := (List.nodup_cons.mp distinct).1
      simp [same, once, (listed c List.mem_cons_self).1]
    · simp [same]

theorem keys_claimAll (listed : ∀ c ∈ cs, c.id ∈ r.connectors.keys) (at' : Instant) :
    (r.claimAll at' cs).connectors.keys = r.connectors.keys := by
  induction cs generalizing r with
  | nil => rfl
  | cons c rest ih =>
    have kept : (r.claim at' c).connectors.keys = r.connectors.keys :=
      (OrderedMap.keys_insert _ _ _).trans (if_pos (listed c List.mem_cons_self))
    exact (ih fun d there => kept ▸ listed d (.tail _ there)).trans kept

end Registry

namespace Dispatcher

variable {d : Dispatcher} {c : Connector} {cs : List Connector} {at' now : Instant}

def sendPoll (d : Dispatcher) (at' now : Instant) (c : Connector) : Dispatcher :=
  ((d.setRegistry (d.registry.claim at' c)).submit .poll (.poll (c.claimed at')) now).2

theorem sendPoll_registry (d : Dispatcher) (at' now : Instant) (c : Connector) :
    (d.sendPoll at' now c).registry = d.registry.claim at' c :=
  submit_registry _ _ _ _

theorem sendPoll_of_accepts (accepts : d.Accepts) (at' now : Instant) (c : Connector) :
    d.Admits (d.sendPoll at' now c) [⟨d.ids.draw.1, .poll, .poll (c.claimed at')⟩] now :=
  have sent := admits_of_accepts (d := d.setRegistry (d.registry.claim at' c)) accepts .poll
    (.poll (c.claimed at')) now
  sent.from_setRegistry

theorem sendPoll_of_full (working : d.pool.stopped = false) (full : ¬d.Accepts)
    (at' now : Instant) (c : Connector) : d.Admits (d.sendPoll at' now c) [] now :=
  have refused := admits_of_full (d := d.setRegistry (d.registry.claim at' c)) working full .poll
    (.poll (c.claimed at')) now
  refused.from_setRegistry

theorem tickConnector_eq (working : d.pool.stopped = false) (listed : d.registry.Lists c)
    (at' now : Instant) (report : TickReport) :
    tickConnector at' now (report, d) c =
      if c.isDue at' = false then (report, d)
      else if d.registry.isInFlight c.id then
        ({ report with skippedInFlight := report.skippedInFlight ++ [c.id] }, d)
      else if d.Accepts then
        ({ report with dispatched := report.dispatched ++ [c.id] }, d.sendPoll at' now c)
      else ({ report with deferredBackpressure := report.deferredBackpressure ++ [c.id] },
        (d.sendPoll at' now c).setRegistry d.registry) := by
  cases due : c.isDue at' with
  | false => simp [tickConnector, due]
  | true =>
    cases busy : d.registry.isInFlight c.id with
    | true => simp [tickConnector, due, Registry.markPollStart_of_busy listed busy at']
    | false =>
      have claimed := Registry.markPollStart_of_free listed busy at'
      have undone := Registry.abortPollStart_markPollStart claimed
      let claimant := d.setRegistry (d.registry.claim at' c)
      by_cases accepts : d.Accepts
      · have sent := submit_of_accepts (d := claimant) accepts .poll (.poll (c.claimed at')) now
        simp [tickConnector, due, claimed, submitPoll, claimant, sent, sendPoll, accepts]
      · have refused := submit_of_full (d := claimant) working accepts .poll
          (.poll (c.claimed at')) now
        have restored :
            (claimant.submit .poll (.poll (c.claimed at')) now).2.registry.abortPollStart
              ⟨c.id, c.lastPollAt, c.status⟩ = d.registry := by
          rw [submit_registry]
          exact undone
        rw [refused] at restored
        simp [tickConnector, due, claimed, submitPoll, claimant, refused, sendPoll, accepts,
          restored]

def pollable (d : Dispatcher) (at' : Instant) (cs : List Connector) : List Connector :=
  cs.filter fun c => c.isDue at' && !d.registry.isInFlight c.id

def occupied (d : Dispatcher) (at' : Instant) (cs : List Connector) : List Connector :=
  cs.filter fun c => c.isDue at' && d.registry.isInFlight c.id

/-- What the visits of connectors do to the report, to the registry and to the queue. -/
structure Visits (at' now : Instant) (cs : List Connector)
    (before after : TickReport × Dispatcher) : Prop where
  report : after.1 = { before.1 with
    skippedInFlight := before.1.skippedInFlight ++ (before.2.occupied at' cs).map (·.id)
    dispatched := before.1.dispatched ++
      ((before.2.pollable at' cs).take before.2.room).map (·.id)
    deferredBackpressure := before.1.deferredBackpressure ++
      ((before.2.pollable at' cs).drop before.2.room).map (·.id) }
  registry : after.2.registry =
    before.2.registry.claimAll at' ((before.2.pollable at' cs).take before.2.room)
  admits : ∃ polls, before.2.Admits after.2 polls now ∧
    polls.map (fun t => (t.kind, t.payload)) =
      ((before.2.pollable at' cs).take before.2.room).map fun c => (.poll, .poll (c.claimed at'))

namespace Visits

variable {report : TickReport} {after : TickReport × Dispatcher} {rest : List Connector}

theorem nothing (state : TickReport × Dispatcher) : Visits at' now [] state state where
  report := by simp [occupied, pollable]
  registry := by simp [pollable, Registry.claimAll]
  admits := ⟨[], admits_nothing _ _, by simp [pollable]⟩

theorem pass (due : c.isDue at' = false) (h : Visits at' now rest (report, d) after) :
    Visits at' now (c :: rest) (report, d) after := by
  have ready : d.pollable at' (c :: rest) = d.pollable at' rest := by simp [pollable, due]
  have held : d.occupied at' (c :: rest) = d.occupied at' rest := by simp [occupied, due]
  constructor
  · rw [ready, held]
    exact h.report
  · rw [ready]
    exact h.registry
  · rw [ready]
    exact h.admits

theorem skip (due : c.isDue at' = true) (busy : d.registry.isInFlight c.id = true)
    (h : Visits at' now rest
      ({ report with skippedInFlight := report.skippedInFlight ++ [c.id] }, d) after) :
    Visits at' now (c :: rest) (report, d) after := by
  have ready : d.pollable at' (c :: rest) = d.pollable at' rest := by simp [pollable, busy]
  have held : d.occupied at' (c :: rest) = c :: d.occupied at' rest := by
    simp [occupied, due, busy]
  constructor
  · rw [ready, held, h.report]
    simp
  · rw [ready]
    exact h.registry
  · rw [ready]
    exact h.admits

/-- The visits after the first one are of other connectors, and find them as they were. -/
theorem send (working : d.pool.stopped = false) (due : c.isDue at' = true)
    (free : d.registry.isInFlight c.id = false) (accepts : d.Accepts)
    (others : ∀ other ∈ rest, other.id ≠ c.id)
    (h : Visits at' now rest
      ({ report with dispatched := report.dispatched ++ [c.id] }, d.sendPoll at' now c) after) :
    Visits at' now (c :: rest) (report, d) after := by
  let sent := d.sendPoll at' now c
  have claimed : sent.registry = d.registry.claim at' c := d.sendPoll_registry at' now c
  have same (other : Connector) (there : other ∈ rest) :
      sent.registry.isInFlight other.id = d.registry.isInFlight other.id := by
    rw [claimed, Registry.isInFlight_claim (others other there)]
  have ready : d.pollable at' (c :: rest) = c :: sent.pollable at' rest := by
    rw [pollable, List.filter_cons_of_pos (by simp [due, free])]
    exact congrArg (c :: ·) (List.filter_congr fun other there => by rw [same other there])
  have held : d.occupied at' (c :: rest) = sent.occupied at' rest := by
    rw [occupied, List.filter_cons_of_neg (by simp [free])]
    exact List.filter_congr fun other there => by rw [same other there]
  have admits := sendPoll_of_accepts accepts at' now c
  have room : d.room = sent.room + 1 := by
    have some' := (accepts_iff working).mp accepts
    have less : sent.room = d.room - 1 := admits.room
    omega
  constructor
  · rw [ready, held, room, h.report]
    simp [sent]
  · rw [ready, room, h.registry, claimed]
    rfl
  · obtain ⟨polls, more, payloads⟩ := h.admits
    rw [ready, room]
    exact ⟨_, admits.trans more, congrArg (_ :: ·) payloads⟩

theorem defer (working : d.pool.stopped = false) (due : c.isDue at' = true)
    (free : d.registry.isInFlight c.id = false) (full : ¬d.Accepts)
    (h : Visits at' now rest
      ({ report with deferredBackpressure := report.deferredBackpressure ++ [c.id] },
        (d.sendPoll at' now c).setRegistry d.registry) after) :
    Visits at' now (c :: rest) (report, d) after := by
  let refused := (d.sendPoll at' now c).setRegistry d.registry
  have ready : d.pollable at' (c :: rest) = c :: refused.pollable at' rest :=
    List.filter_cons_of_pos (by simp [due, free])
  have held : d.occupied at' (c :: rest) = refused.occupied at' rest :=
    List.filter_cons_of_neg (by simp [free])
  have admits : d.Admits refused [] now :=
    (sendPoll_of_full working full at' now c).setRegistry d.registry
  have room : d.room = 0 := Nat.eq_zero_of_not_pos (mt (accepts_iff working).mpr full)
  have room' : refused.room = 0 := admits.room.trans room
  obtain ⟨counts, registry, polls, more, payloads⟩ := h
  simp only [show ((d.sendPoll at' now c).setRegistry d.registry).room = 0 from room',
    List.take_zero, List.drop_zero] at counts registry payloads
  constructor
  · rw [ready, held, room, counts]
    simp [refused]
  · rw [room, registry]
    rfl
  · rw [room]
    exact ⟨polls, admits.trans more, payloads⟩

end Visits

theorem visits_foldl (state : TickReport × Dispatcher) (working : state.2.pool.stopped = false)
    (distinct : (cs.map (·.id)).Nodup) (listed : ∀ c ∈ cs, state.2.registry.Lists c) :
    Visits at' now cs state (cs.foldl (tickConnector at' now) state) := by
  induction cs generalizing state with
  | nil => exact .nothing state
  | cons c rest ih =>
    obtain ⟨report, d⟩ := state
    have here : d.registry.Lists c := listed c List.mem_cons_self
    have later (other : Connector) (there : other ∈ rest) : d.registry.Lists other :=
      listed other (.tail _ there)
    have others (other : Connector) (there : other ∈ rest) : other.id ≠ c.id :=
      Registry.ne_of_distinct distinct there
    have onward (state : TickReport × Dispatcher) (working : state.2.pool.stopped = false) :=
      ih state working (List.nodup_cons.mp distinct).2
    rw [List.foldl_cons, tickConnector_eq working here at' now report]
    cases due : c.isDue at' with
    | false =>
      rw [if_pos rfl]
      exact .pass due (onward _ working later)
    | true =>
      rw [if_neg (by simp)]
      cases busy : d.registry.isInFlight c.id with
      | true =>
        rw [if_pos rfl]
        exact .skip due busy (onward _ working later)
      | false =>
        rw [if_neg (by simp)]
        by_cases accepts : d.Accepts
        · rw [if_pos accepts]
          have stopped := (sendPoll_of_accepts accepts at' now c).stopped
          refine .send working due busy accepts others (onward _ (stopped.trans working) ?_)
          intro other there
          rw [sendPoll_registry]
          exact (later other there).claim (others other there) at'
        · rw [if_neg accepts]
          have stopped := (sendPoll_of_full working accepts at' now c).stopped
          exact .defer working due busy accepts (onward _ (stopped.trans working) later)

end Dispatcher

end DeviceWatch
