import DeviceWatch.Proofs.Pool.Health

/-!
# The time of the last poll in the traffic

The registry of the traffic is as consistent as its own operations leave it.  When a connector was
polled last is written by claims, and restored when a claim is undone; between these the registry and
the tickets of pending claims remember it.
-/

namespace DeviceWatch

namespace PollTraffic

variable {s : PollTraffic} {event : PollEvent} {id : String} {c : Connector} {o : Option Instant}

/-- The registry and the tickets of pending claims are as its own operations leave them. -/
def Registers (s : PollTraffic) (dispatch : DispatchConfig) : Prop :=
  RegistryTraffic.Sound ⟨s.pool.registry, s.claims.map (·.ticket)⟩ dispatch

variable {dispatch : DispatchConfig}

theorem registers_initial (workers : WorkerConfig) (historyLimit : Nat)
    (dispatch : DispatchConfig) : (initial workers historyLimit dispatch).Registers dispatch :=
  RegistryTraffic.sound_empty dispatch

theorem sound_configured {t : RegistryTraffic} {outcome : Outcome (Connector × Registry)}
    {r : Registry} (sound : (t.configure outcome).Sound dispatch) (done : outcome = .ok (c, r)) :
    RegistryTraffic.Sound { t with registry := r } dispatch := by
  subst done
  exact sound

theorem Registers.step (h : s.Registers dispatch) (event : PollEvent) :
    (s.step event).Registers dispatch := by
  have registry : ∃ tickets,
      RegistryTraffic.Sound ⟨(s.step event).pool.registry, tickets⟩ dispatch := by
    have writes := s.writes event
    generalize (s.step event).pool.registry = r at writes ⊢
    cases writes with
    | none => exact ⟨_, h⟩
    | upsert done => exact ⟨_, sound_configured (h.upsert _ _ _) done⟩
    | setEnabled done => exact ⟨_, sound_configured (h.setEnabled _ _ _) done⟩
    | remove done => exact ⟨_, sound_configured (h.remove _) done⟩
    | @claim k _ now _ _ _ done =>
      have claimed := h.claim k now
      simp only [RegistryTraffic.claim, done] at claimed
      exact ⟨_, claimed⟩
    | abort here refused =>
      exact ⟨_, h.abort (List.mem_map_of_mem (List.mem_of_getElem? here))⟩
    | release here owes => exact ⟨_, h.conclude _ _ _⟩
  obtain ⟨tickets, sound⟩ := registry
  refine ⟨sound.dispatch, sound.consistent, sound.restful, fun ticket there => ?_⟩
  obtain ⟨q, pending, rfl⟩ := List.mem_map.mp there
  rcases mem_claims_step pending with ⟨old, before, same, -, -⟩ | ⟨k, now, rfl, done⟩
  · rw [← same]
    exact h.tickets _ (List.mem_map_of_mem before)
  · exact (Registry.markPollStart_keeps h.consistent h.restful done).2.2

/-- A connector stays until it is removed.  A claim writes the time of its last poll and an undone
claim restores it; nothing else changes that time. -/
theorem lastPollAt_step (found : s.pool.registry.connectors.find? id = some c)
    (kept : event ≠ .remove id) :
    ∃ c', (s.step event).pool.registry.connectors.find? id = some c' ∧
      (c'.lastPollAt = c.lastPollAt ∨
        (∃ kind now, event = .claim id kind now ∧ c'.lastPollAt = some now) ∨
        ∃ i q, event = .abort i ∧ s.claims[i]? = some q ∧ q.ticket.connectorId = id ∧
          c'.lastPollAt = q.ticket.previousPollAt) := by
  have shows : s.pool.registry.Shows id (s.pool.registry.inFlight.find? id) c.health c.lastPollAt :=
    ⟨rfl, c, found, rfl, rfl⟩
  have kept_of {r : Registry} {claimed : Option ConnectorStatus} {h : Health}
      (shows' : r.Shows id claimed h c.lastPollAt) {other : Connector → Prop} :
      ∃ c', r.connectors.find? id = some c' ∧ (c'.lastPollAt = c.lastPollAt ∨ other c') := by
    obtain ⟨c', found', -, polled⟩ := shows'.connector
    exact ⟨c', found', .inl polled⟩
  have writes := s.writes event
  generalize (s.step event).pool.registry = r at writes ⊢
  cases writes with
  | none => exact kept_of shows
  | upsert done => exact kept_of (shows.upsert done)
  | setEnabled done => exact kept_of (shows.setEnabled done)
  | remove done => exact kept_of (shows.remove done fun same => absurd (congrArg _ same) kept)
  | @claim k kind now _ _ _ done =>
    by_cases own : k = id
    · subst own
      obtain ⟨c', found', -, polled⟩ := (Registry.shows_markPollStart found done).connector
      exact ⟨c', found', .inr (.inl ⟨kind, now, rfl, polled⟩)⟩
    · exact kept_of (shows.markPollStart done fun same => absurd same own)
  | @abort i q here refused =>
    by_cases own : q.ticket.connectorId = id
    · subst own
      let restored : Connector :=
        { c with lastPollAt := q.ticket.previousPollAt, status := q.ticket.previousStatus }
      refine ⟨restored, ?_, .inr (.inr ⟨i, q, rfl, here, rfl, rfl⟩)⟩
      exact OrderedMap.find?_modify_self found _
    · exact kept_of (shows.abortPollStart (Ne.symm own))
  | @release i closing k problem now here owes =>
    by_cases own : id = k
    · subst own
      rw [Registry.markPollResult_snd]
      let claim := s.pool.registry.inFlight.find? id
      let outcome := closing.outcome problem
      refine ⟨Registry.recordOutcome claim outcome now c, ?_,
        .inl (Registry.recordOutcome_lastPollAt claim outcome now c)⟩
      exact OrderedMap.find?_modify_self found _
    · exact kept_of (shows.markPollResult_of_ne own _ _)

/-- Who remembers when a connector was polled last: the registry, and the tickets of its claims. -/
inductive Remembers (s : PollTraffic) (id : String) : Option Instant → Prop
  | registered {c : Connector} (found : s.pool.registry.connectors.find? id = some c) :
    s.Remembers id c.lastPollAt
  | claimed {q : Claim} (there : q ∈ s.claims) (own : q.ticket.connectorId = id) :
    s.Remembers id q.ticket.previousPollAt

theorem Remembers.before (found : s.pool.registry.connectors.find? id = some c)
    (kept : event ≠ .remove id) (remembers : (s.step event).Remembers id o) :
    s.Remembers id o ∨ ∃ kind now, event = .claim id kind now ∧ o = some now := by
  cases remembers with
  | @registered c' found' =>
    obtain ⟨c'', stored, changed⟩ := lastPollAt_step found kept
    rw [found'] at stored
    obtain rfl := Option.some.inj stored
    rcases changed with same | ⟨kind, now, claim, written⟩ | ⟨i, q, -, here, own, restored⟩
    · rw [same]
      exact .inl (.registered found)
    · exact .inr ⟨kind, now, claim, written⟩
    · rw [restored]
      exact .inl (.claimed (List.mem_of_getElem? here) own)
  | @claimed q there own =>
    left
    rcases mem_claims_step there with ⟨old, before, ticket, -, -⟩ | ⟨k, now, rfl, done⟩
    · rw [← ticket] at own ⊢
      exact .claimed before own
    · obtain ⟨-, old, stored, -, ticket, -, -⟩ := Registry.markPollStart_eq done
      rw [ticket] at own ⊢
      obtain rfl : k = id := own
      exact .registered stored

/-- The undoing of a refused claim restores the time of the last poll from before the claim. -/
theorem Tended.abort (tended : s.Tended) {i : Nat} {q : Claim} (here : s.claims[i]? = some q)
    (refused : q.refused = true) :
    ∃ c, (s.step (.abort i)).pool.registry.connectors.find? q.ticket.connectorId = some c ∧
      c.lastPollAt = q.ticket.previousPollAt := by
  obtain ⟨old, found, -⟩ := (tended.claimed q (List.mem_of_getElem? here)).connector
  have aborted : (s.step (.abort i)).pool.registry = s.pool.registry.abortPollStart q.ticket := by
    simp only [PollTraffic.step, here, Option.elim_some, PollTraffic.abort, refused, if_true]
    rfl
  let restored : Connector :=
    { old with lastPollAt := q.ticket.previousPollAt, status := q.ticket.previousStatus }
  refine ⟨restored, ?_, rfl⟩
  rw [aborted]
  exact OrderedMap.find?_modify_self found _

/-- Who has claimed a connector whose poll is accepted was the only one. -/
theorem Sound.unclaimed_of_accepted (h : s.Sound) {i : Nat} {q q' : Claim} {task : Uuid}
    {now : Instant} (here : s.claims[i]? = some q) (unused : task ∉ s.accepted)
    (accepted : task ∈ (s.step (.submit i task now)).accepted)
    (there : q' ∈ (s.step (.submit i task now)).claims) :
    q'.ticket.connectorId ≠ q.ticket.connectorId := by
  intro same
  have left : (s.step (.submit i task now)).claims = s.claims.eraseIdx i := by
    simp only [PollTraffic.step, here, Option.elim_some, PollTraffic.submit] at accepted ⊢
    split at accepted
    · exact absurd accepted unused
    · rename_i admissible
      rw [if_neg admissible]
      split at accepted
      · rfl
      · exact absurd accepted unused
  rw [left] at there
  have another : 0 < (s.claims.eraseIdx i).countP (·.isFor q.ticket.connectorId) :=
    List.countP_pos_iff.mpr ⟨q', there, decide_eq_true same⟩
  have all := countP_eraseIdx_add here (·.isFor q.ticket.connectorId)
  have own : q.isFor q.ticket.connectorId = true := decide_eq_true rfl
  have balanced := h.balanced q.ticket.connectorId
  simp only [own, if_true] at all
  unfold owners at balanced
  split at balanced <;> omega

end PollTraffic

end DeviceWatch
