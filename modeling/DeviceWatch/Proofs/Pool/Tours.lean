import DeviceWatch.Proofs.Connector.Interval
import DeviceWatch.Proofs.Pool.LastPoll
import DeviceWatch.Proofs.Pool.TickTraffic

/-!
# The tour of a tick

A tick visits what it has listed, in order and each connector once, and what it has claimed is what it
visits.  So the visits that a run has made and may still make are in order of time, and a claim that
is undone can be traced back to the visit that made it.
-/

namespace DeviceWatch

namespace TickTraffic

variable {s : TickTraffic} {dispatch : DispatchConfig} {known : Instant → Prop} {v w : Visit}

/-- What the tick that is under way visits now and has still to visit. -/
def tour (s : TickTraffic) : List Visit := s.current.toList ++ s.ahead

def visits (s : TickTraffic) : List Visit := s.dispatched ++ s.tour

/-- Visits are dispatched in order, each at most once; only a tick that begins adds any. -/
theorem visits_step (s : TickTraffic) (e : TickEvent) :
    ((s.step e).tour.Sublist s.tour ∧ (s.step e).visits.Sublist s.visits) ∨
      ∃ at', e = .begin at' ∧ s.busy = false ∧ (s.step e).tour = s.listing at' ∧
        (s.step e).visits = s.dispatched ++ s.listing at' := by
  have steps := s.steps e
  generalize s.step e = s' at steps ⊢
  cases steps with
  | idle => exact .inl ⟨.refl _, .refl _⟩
  | begin idle => exact .inr ⟨_, rfl, idle, rfl, rfl⟩
  | @pass v rest next free | @claim v rest next free due =>
    have fewer : (v :: rest).Sublist s.tour := by
      rw [tour, next]
      exact List.sublist_append_right _ _
    exact .inl ⟨fewer, fewer.append_left _⟩
  | dispatch here own unused accepted =>
    refine .inl ⟨List.sublist_append_right _ _, ?_⟩
    simp only [visits, tour, Option.toList_none, List.nil_append, List.append_assoc]
    exact .refl _
  | elsewhere other => exact .inl ⟨.refl _, .refl _⟩

theorem dispatched_step (s : TickTraffic) (e : TickEvent) :
    s.dispatched <+: (s.step e).dispatched := by
  have steps := s.steps e
  generalize s.step e = s' at steps ⊢
  cases steps with
  | dispatch here own unused accepted => exact List.prefix_append _ _
  | _ => exact List.prefix_rfl

theorem dispatched_tick (idle : s.busy = false) (at' : Instant) (during : List TickEvent)
    (oneTick : ∀ t, .begin t ∉ during) :
    ∃ new, (run s (.begin at' :: during)).dispatched = s.dispatched ++ new ∧
      (new ++ (run s (.begin at' :: during)).tour).Sublist (s.listing at') := by
  have kept (during : List TickEvent) (oneTick : ∀ t, .begin t ∉ during) (t : TickTraffic) :
      t.dispatched <+: (run t during).dispatched ∧ (run t during).visits.Sublist t.visits := by
    induction during generalizing t with
    | nil => exact ⟨List.prefix_rfl, .refl _⟩
    | cons e rest ih =>
      obtain ⟨grows, fewer⟩ := ih (fun u there => oneTick u (.tail _ there)) (t.step e)
      refine ⟨(t.dispatched_step e).trans grows, ?_⟩
      rcases t.visits_step e with ⟨-, fewer'⟩ | ⟨u, rfl, -, -, -⟩
      · exact fewer.trans fewer'
      · exact absurd List.mem_cons_self (oneTick u)
  obtain ⟨⟨new, dispatched⟩, fewer⟩ := kept during oneTick (s.step (.begin at'))
  rw [begin_of_idle idle] at dispatched fewer
  refine ⟨new, ?_, ?_⟩
  · rw [run_cons, begin_of_idle idle]
    exact dispatched.symm
  · rw [visits, ← dispatched, List.append_assoc] at fewer
    rw [run_cons, begin_of_idle idle]
    exact (List.append_sublist_append_left _).mp fewer

theorem mem_listing (own : s.polls.pool.registry.OwnIds) {at' : Instant} :
    v ∈ s.listing at' ↔
      s.polls.pool.registry.connectors.find? v.connector.id = some v.connector ∧
        v.connector.enabled = true ∧ v.at' = at' := by
  obtain ⟨c, t⟩ := v
  simp only [listing, List.mem_map, own.mem_list, Visit.mk.injEq]
  constructor
  · rintro ⟨c', ⟨found, enabled⟩, rfl, same⟩
    exact ⟨found, enabled, same.symm⟩
  · rintro ⟨found, enabled, same⟩
    exact ⟨c, ⟨found, enabled⟩, rfl, same.symm⟩

theorem nodup_listing (own : s.polls.pool.registry.OwnIds) (at' : Instant) :
    ((s.listing at').map (·.connector.id)).Nodup := by
  rw [listing, List.map_map]
  exact own.nodup_list (some true)

/-- What holds in every state that a run leads to: visits are of valid definitions and in order of
time, those of one tick are of different connectors, and a tick has claimed nothing but the
connector that it visits, which was due. -/
structure Touring (s : TickTraffic) (dispatch : DispatchConfig) (known : Instant → Prop) :
    Prop where
  tended : s.polls.Tended
  registers : s.polls.Registers dispatch
  listed : ∀ v ∈ s.visits, v.connector.Valid dispatch v.connector.id ∧ known v.at'
  ordered : s.visits.Pairwise fun v w => v.at' ≤ w.at'
  distinct : (s.tour.map (·.connector.id)).Nodup
  claimed : ∀ q ∈ s.polls.claims, q.kind = .poll → ∃ v, s.current = some v ∧
    q.ticket.connectorId = v.connector.id ∧ q.snapshot.lastPollAt = some v.at' ∧
    v.connector.isDue v.at' = true

theorem waits_of_mem {q : Claim} (there : q ∈ s.polls.claims) (poll : q.kind = .poll) :
    s.waits = true :=
  List.any_eq_true.mpr ⟨q, there, by rw [poll]; rfl⟩

theorem not_poll_of_free (free : s.waits = false) {q : Claim} (there : q ∈ s.polls.claims) :
    q.kind ≠ .poll := by
  intro poll
  rw [waits_of_mem there poll] at free
  cases free

/-- What every event of the traffic keeps is kept by the events of ticks. -/
theorem polls_step {P : PollTraffic → Prop} (keep : ∀ p event, P p → P (p.step event))
    (start : P s.polls) (e : TickEvent) : P (s.step e).polls := by
  have steps := s.steps e
  generalize s.step e = s' at steps ⊢
  cases steps with
  | idle | begin _ | pass _ _ => exact start
  | @claim v rest next free due => exact keep s.polls (.claim v.connector.id .poll v.at') start
  | @dispatch i c task now here own unused accepted => exact keep s.polls (.submit i task now) start
  | @elsewhere event other => exact keep s.polls event start

theorem Touring.claimed_step (h : s.Touring dispatch known) (e : TickEvent) {q : Claim}
    (there : q ∈ (s.step e).polls.claims) (poll : q.kind = .poll) :
    ∃ v, (s.step e).current = some v ∧ q.ticket.connectorId = v.connector.id ∧
      q.snapshot.lastPollAt = some v.at' ∧ v.connector.isDue v.at' = true := by
  have steps := s.steps e
  generalize s.step e = s' at steps there ⊢
  cases steps with
  | idle => exact h.claimed q there poll
  | begin idle => exact absurd poll (not_poll_of_free (free_of_idle idle) there)
  | pass next free => exact absurd poll (not_poll_of_free free there)
  | @claim v rest next free due =>
    rcases PollTraffic.mem_claims_step there with ⟨old, before, -, -, kind⟩ | ⟨k, now, made, done⟩
    · exact absurd (kind.trans poll) (not_poll_of_free free before)
    · obtain ⟨-, old, -, -, ticket, snapshot, -⟩ := Registry.markPollStart_eq done
      obtain ⟨rfl, -, rfl⟩ := PollEvent.claim.inj made
      exact ⟨v, rfl, by rw [ticket], by rw [snapshot], due⟩
  | @dispatch i c task now here own unused accepted =>
    have alone := h.tended.unclaimed_of_accepted here unused accepted there
    rcases PollTraffic.mem_claims_step there with ⟨old, before, ticket, -, kind⟩ | ⟨k, _, made, -⟩
    · obtain ⟨v, visited, same, -, -⟩ := h.claimed old before (kind.trans poll)
      obtain ⟨v', visited', same', -, -⟩ := h.claimed c (List.mem_of_getElem? here) own
      rw [visited] at visited'
      cases visited'
      exact absurd (by rw [← ticket, same, same']) alone
    · cases made
  | @elsewhere event other =>
    rcases PollTraffic.mem_claims_step there with ⟨old, before, ticket, snapshot, kind⟩ |
      ⟨k, now, rfl, -⟩
    · rw [← ticket, ← snapshot]
      exact h.claimed old before (kind.trans poll)
    · rw [poll] at other
      cases other

theorem Touring.step (h : s.Touring dispatch known) (e : TickEvent)
    (read : ∀ t, e.reading? = some t → known t ∧ ∀ v ∈ s.visits, v.at' ≤ t) :
    (s.step e).Touring dispatch known := by
  have tended := polls_step (P := PollTraffic.Tended) (fun _ event t => t.step event) h.tended e
  have registers :=
    polls_step (P := (·.Registers dispatch)) (fun _ event r => r.step event) h.registers e
  have own := h.tended.registered
  rcases s.visits_step e with ⟨fewer, fewer'⟩ | ⟨at', rfl, idle, tour, visits⟩
  · exact ⟨tended, registers, fun v there => h.listed v (fewer'.subset there),
      h.ordered.sublist fewer', h.distinct.sublist (fewer.map _), fun _ => h.claimed_step e⟩
  · obtain ⟨now, past⟩ := read at' rfl
    have before (v : Visit) (there : v ∈ s.dispatched) : v ∈ s.visits :=
      List.mem_append_left _ there
    refine ⟨tended, registers, fun v there => ?_, ?_, ?_, fun _ => h.claimed_step _⟩
    · rw [visits] at there
      rcases List.mem_append.mp there with old | new
      · exact h.listed v (before v old)
      · obtain ⟨found, -, same⟩ := (mem_listing own).mp new
        have valid := h.registers.consistent.valid found
        rw [show s.polls.pool.registry.dispatch = dispatch from h.registers.dispatch] at valid
        exact ⟨valid, same ▸ now⟩
    · rw [visits]
      have earlier : s.dispatched.Sublist s.visits := List.sublist_append_left _ _
      refine List.pairwise_append.mpr ⟨h.ordered.sublist earlier, ?_, fun v old w new => ?_⟩
      · refine List.pairwise_of_forall_mem_list fun v there w there' => ?_
        rw [((mem_listing own).mp there).2.2, ((mem_listing own).mp there').2.2]
        exact Std.le_refl _
      · rw [((mem_listing own).mp new).2.2]
        exact past v (before v old)
    · rw [tour]
      exact nodup_listing own at'

theorem tick_claim_step (e : TickEvent) {q : Claim} (there : q ∈ (s.step e).polls.claims)
    (poll : q.kind = .poll) :
    (∃ old ∈ s.polls.claims, old.ticket = q.ticket ∧ old.snapshot = q.snapshot ∧
      old.kind = .poll) ∨
      e = .visit ∧ ∃ u, s.polls.pool.registry.markPollStart q.ticket.connectorId u =
        .ok (q.ticket, q.snapshot, (s.step e).polls.pool.registry) := by
  have steps := s.steps e
  generalize s.step e = s' at steps there ⊢
  have kept {event : PollEvent} (claimed : q ∈ (s.polls.step event).claims)
      (other : event.isTickClaim = false) : ∃ old ∈ s.polls.claims,
        old.ticket = q.ticket ∧ old.snapshot = q.snapshot ∧ old.kind = .poll := by
    rcases PollTraffic.mem_claims_step claimed with ⟨old, before, ticket, snapshot, kind⟩ |
      ⟨k, now, rfl, -⟩
    · exact ⟨old, before, ticket, snapshot, kind.trans poll⟩
    · rw [poll] at other
      cases other
  cases steps with
  | idle | begin _ | pass _ _ => exact .inl ⟨q, there, rfl, rfl, poll⟩
  | dispatch here own unused accepted => exact .inl (kept there rfl)
  | elsewhere other => exact .inl (kept there other)
  | claim next free due =>
    rcases PollTraffic.mem_claims_step there with ⟨old, before, ticket, snapshot, kind⟩ |
      ⟨k, now, -, done⟩
    · exact .inl ⟨old, before, ticket, snapshot, kind.trans poll⟩
    · obtain ⟨-, own, -, -⟩ := Registry.markPollStart_eq_ok done
      rw [← own] at done
      exact .inr ⟨rfl, now, done⟩

theorem claim_origin (free : s.waits = false) (during : List TickEvent) {q : Claim}
    (there : q ∈ (run s during).polls.claims) (poll : q.kind = .poll) :
    ∃ first rest u, during = first ++ .visit :: rest ∧
      (run s first).polls.pool.registry.markPollStart q.ticket.connectorId u =
        .ok (q.ticket, q.snapshot, (run s (first ++ [.visit])).polls.pool.registry) := by
  induction during using List.reverseRecOn generalizing q with
  | nil => exact absurd poll (not_poll_of_free free there)
  | append_singleton during e ih =>
    rw [run_append] at there
    rcases tick_claim_step e there poll with ⟨old, before, ticket, snapshot, kind⟩ |
      ⟨rfl, u, done⟩
    · obtain ⟨first, rest, u, rfl, done⟩ := ih before kind
      rw [ticket, snapshot] at done
      exact ⟨first, rest ++ [e], u, by simp, done⟩
    · refine ⟨during, [], u, rfl, ?_⟩
      rw [run_append]
      exact done

/-- A refused claim of a tick was made by one of its visits, and when it is undone the connector was
polled last when it was before that visit. -/
theorem abort_restores {at' : Instant} {during : List TickEvent} (idle : s.busy = false)
    (touring : (run s (.begin at' :: during)).Touring dispatch known)
    (sameTime : ∀ v ∈ (run s (.begin at' :: during)).tour, v.at' = at') {i : Nat} {q : Claim}
    (here : (run s (.begin at' :: during)).polls.claims[i]? = some q) (poll : q.kind = .poll)
    (refused : q.refused = true) :
    ∃ first rest old c, during = first ++ .visit :: rest ∧
      (run s (.begin at' :: first)).polls.pool.registry.markPollStart q.ticket.connectorId at' =
        .ok (q.ticket, q.snapshot,
          (run s (.begin at' :: (first ++ [.visit]))).polls.pool.registry) ∧
      (run s (.begin at' :: first)).polls.pool.registry.connectors.find?
        q.ticket.connectorId = some old ∧
      ((run s (.begin at' :: during)).step
        (.elsewhere (.abort i))).polls.pool.registry.connectors.find?
          q.ticket.connectorId = some c ∧
      c.lastPollAt = old.lastPollAt ∧
      ∀ u, old.isDue u = true → c.enabled = true →
        c.pollIntervalSecs ≤ old.pollIntervalSecs → c.isDue u = true := by
  have free : (s.step (.begin at')).waits = false := by
    have : s.waits = false := free_of_idle idle
    rwa [begin_of_idle idle]
  have pending := List.mem_of_getElem? here
  obtain ⟨first, rest, u, split, done⟩ := claim_origin free during pending poll
  obtain ⟨-, old, found, -, ticket, snapshot, -⟩ := Registry.markPollStart_eq done
  -- The claim shows the time of the visit, which is that of the tick.
  obtain ⟨v, visited, -, polledAt, -⟩ := touring.claimed q pending poll
  rw [snapshot, sameTime v (by simp [tour, visited])] at polledAt
  obtain rfl := Option.some.inj polledAt
  obtain ⟨c, found', polled⟩ := touring.tended.abort here refused
  have restored : c.lastPollAt = old.lastPollAt := by rw [polled, ticket]
  have aborted (t : TickTraffic) :
      (t.step (.elsewhere (.abort i))).polls = t.polls.step (.abort i) :=
    congrArg polls (elsewhere_of_not_dispatches rfl rfl)
  rw [aborted]
  exact ⟨first, rest, old, c, split, done, found, found', restored, fun u due enabled sooner =>
    Connector.isDue_of_sooner due enabled restored sooner⟩

end TickTraffic

end DeviceWatch
