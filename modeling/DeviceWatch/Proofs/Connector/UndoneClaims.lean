import DeviceWatch.Proofs.Connector.PollHistory

/-!
# Claims that are undone

A connector that is claimed can be neither removed nor claimed again, so a claim outlasts every
event that does not release it.  All these events commute with undoing the claim.  So it makes no
difference how late the claim is undone: what the ticket remembers comes back, the rest is as the
events leave it, and no trace of the claim is left.
-/

namespace DeviceWatch

/-- What the claim did to the connector is taken back. -/
def PollTicket.restore (ticket : PollTicket) (c : Connector) : Connector :=
  { c with lastPollAt := ticket.previousPollAt, status := ticket.previousStatus }

namespace Registry

variable {r r' : Registry} {id k : String} {c old : Connector} {now : Instant} {ticket : PollTicket}

theorem abortPollStart_eq (r : Registry) (ticket : PollTicket) :
    r.abortPollStart ticket = { r with
      connectors := r.connectors.modify ticket.connectorId ticket.restore
      inFlight := r.inFlight.erase ticket.connectorId } := rfl

theorem touches_abortPollStart (r : Registry) (ticket : PollTicket) :
    r.Touches (r.abortPollStart ticket) ticket.connectorId :=
  r.touches_release ticket.connectorId ticket.restore

theorem find?_abortPollStart (r : Registry) (ticket : PollTicket) (k : String) :
    (r.abortPollStart ticket).connectors.find? k =
      (r.connectors.find? k).map fun c => if k = ticket.connectorId then ticket.restore c else c :=
  OrderedMap.find?_mapEntries r.connectors _ k

/-- A connector is written before the claim is undone, or, without what the claim did to it,
after. -/
theorem abortPollStart_insert (r : Registry) (ticket : PollTicket) (k : String) (c : Connector) :
    ({ r with connectors := r.connectors.insert k c } : Registry).abortPollStart ticket =
      { r.abortPollStart ticket with
        connectors := (r.abortPollStart ticket).connectors.insert k
          (if k = ticket.connectorId then ticket.restore c else c) } := by
  simp only [abortPollStart_eq, OrderedMap.modify_insert_comm]

/-- The connector has to be registered: a new one has no history that could be taken back. -/
theorem upsert_abortPollStart (found : r.connectors.find? ticket.connectorId = some old)
    (k : String) (input : ConnectorInput) (now : Instant) :
    ((r.abortPollStart ticket).upsert k input now).map Prod.snd =
      (r.upsert k input now).map fun result => result.2.abortPollStart ticket := by
  have written (fresh : Connector) :
      replacing ((r.abortPollStart ticket).connectors.find? k) fresh =
        if k = ticket.connectorId then ticket.restore (replacing (r.connectors.find? k) fresh)
        else replacing (r.connectors.find? k) fresh := by
    rw [find?_abortPollStart]
    by_cases own : k = ticket.connectorId
    · rw [own, found]
      simp [replacing, carryHistory, PollTicket.restore]
    · simp [own]
  rw [upsert_eq_map, upsert_eq_map, (touches_abortPollStart r ticket).dispatch]
  cases input.toConnector k r.dispatch now with
  | error e => rfl
  | ok fresh =>
    simp only [Except.map, abortPollStart_insert, written]
    rfl

theorem get_abortPollStart (r : Registry) (ticket : PollTicket) (k : String) :
    (r.abortPollStart ticket).get k =
      (r.get k).map fun c => if k = ticket.connectorId then ticket.restore c else c := by
  unfold get
  rw [find?_abortPollStart]
  cases r.connectors.find? k <;> rfl

theorem setEnabled_abortPollStart (r : Registry) (ticket : PollTicket) (k : String)
    (enabled : Bool) (now : Instant) :
    ((r.abortPollStart ticket).setEnabled k enabled now).map Prod.snd =
      (r.setEnabled k enabled now).map fun result => result.2.abortPollStart ticket := by
  rw [setEnabled_eq_map, setEnabled_eq_map, get_abortPollStart]
  cases r.get k with
  | error e => rfl
  | ok old =>
    simp only [Except.map, abortPollStart_insert]
    split <;> rfl

theorem abortPollStart_comm (r : Registry) {ticket issued : PollTicket}
    (differ : issued.connectorId ≠ ticket.connectorId) :
    (r.abortPollStart ticket).abortPollStart issued =
      (r.abortPollStart issued).abortPollStart ticket := by
  simp only [abortPollStart_eq, OrderedMap.modify_modify_comm _ differ,
    OrderedMap.erase_comm _ ticket.connectorId issued.connectorId]

variable (other : k ≠ ticket.connectorId)
include other

theorem get_abortPollStart_of_ne : (r.abortPollStart ticket).get k = r.get k := by
  unfold get
  rw [(touches_abortPollStart r ticket).connectors k other]

theorem isInFlight_abortPollStart : (r.abortPollStart ticket).isInFlight k = r.isInFlight k := by
  rw [isInFlight_eq_isSome, isInFlight_eq_isSome,
    (touches_abortPollStart r ticket).inFlight k other]

theorem remove_abortPollStart :
    ((r.abortPollStart ticket).remove k).map Prod.snd =
      (r.remove k).map fun result => result.2.abortPollStart ticket := by
  unfold remove
  rw [get_abortPollStart_of_ne other, isInFlight_abortPollStart other]
  cases r.isInFlight k with
  | true => rfl
  | false =>
    cases r.get k with
    | error e => rfl
    | ok c =>
      simp [bind, Except.bind, pure, Except.pure, Except.map, abortPollStart_eq,
        OrderedMap.modify_erase_comm]

theorem markPollStart_abortPollStart (now : Instant) :
    (r.abortPollStart ticket).markPollStart k now =
      (r.markPollStart k now).map fun (issued, c, r') =>
        (issued, c, r'.abortPollStart ticket) := by
  unfold markPollStart
  rw [get_abortPollStart_of_ne other, isInFlight_abortPollStart other]
  cases r.get k with
  | error e => rfl
  | ok old =>
    simp only [bind, Except.bind]
    cases old.enabled with
    | false => rfl
    | true =>
      cases r.isInFlight k with
      | true => rfl
      | false =>
        simp [pure, Except.pure, Except.map, abortPollStart_eq, OrderedMap.modify_insert_comm,
          OrderedMap.erase_insert_comm _ other, other]

theorem markPollResult_abortPollStart (outcome : PollOutcome) (now : Instant) :
    ((r.abortPollStart ticket).markPollResult k outcome now).2 =
      (r.markPollResult k outcome now).2.abortPollStart ticket := by
  rw [markPollResult_snd, markPollResult_snd, (touches_abortPollStart r ticket).inFlight k other]
  simp only [abortPollStart_eq, OrderedMap.modify_modify_comm _ other,
    OrderedMap.erase_comm _ ticket.connectorId k]

end Registry

/-- Requests that are refused while the connector is claimed. -/
def RegistryEvent.needsFree (id : String) : RegistryEvent → Bool
  | .remove k | .markPollStart k _ => k = id
  | _ => false

namespace RegistryTraffic

variable {s : RegistryTraffic} {id : String} {e : RegistryEvent} {ticket : PollTicket}
  {status : ConnectorStatus} {h : Health} {polledAt : Option Instant}

/-- The event ends the claim on the connector: its poll is reported, or one of its tickets is
used. -/
def Releases (s : RegistryTraffic) (id : String) : RegistryEvent → Prop
  | .markPollResult k _ _ => k = id
  | .abortPollStart i => s.target? (.abortPollStart i) = some id
  | _ => False

instance (s : RegistryTraffic) (id : String) (e : RegistryEvent) : Decidable (s.Releases id e) :=
  match e with
  | .markPollResult k _ _ => inferInstanceAs (Decidable (k = id))
  | .abortPollStart i => inferInstanceAs (Decidable (s.target? (.abortPollStart i) = some id))
  | .upsert .. | .setEnabled .. | .remove _ | .markPollStart .. =>
    inferInstanceAs (Decidable False)

/-- No event releases the claim on the connector where it happens. -/
def KeepsClaim (id : String) (s : RegistryTraffic) : List RegistryEvent → Prop
  | [] => True
  | e :: rest => ¬ s.Releases id e ∧ (s.step e).KeepsClaim id rest

instance decidableKeepsClaim (id : String) :
    (s : RegistryTraffic) → (events : List RegistryEvent) → Decidable (s.KeepsClaim id events)
  | _, [] => inferInstanceAs (Decidable True)
  | s, e :: rest =>
    have := decidableKeepsClaim id (s.step e) rest
    inferInstanceAs (Decidable (¬ s.Releases id e ∧ (s.step e).KeepsClaim id rest))

theorem shows_step_of_kept (shows : s.registry.Shows id (some status) h polledAt)
    (kept : ¬ s.Releases id e) : (s.step e).registry.Shows id (some status) h polledAt := by
  have configured {outcome : Outcome (Connector × Registry)}
      (done : ∀ c r, outcome = .ok (c, r) → r.Shows id (some status) h polledAt) :
      (s.configure outcome).registry.Shows id (some status) h polledAt :=
    configure_registry (P := (·.Shows id (some status) h polledAt)) shows done
  have claimed : some status ≠ none := Option.some_ne_none status
  cases e with
  | upsert k input now => exact configured fun c r done => shows.upsert done
  | setEnabled k enabled now => exact configured fun c r done => shows.setEnabled done
  | remove k => exact configured fun c r done => shows.remove done fun _ => claimed
  | markPollStart k now =>
    simp only [step, claim]
    split
    · rename_i done
      exact shows.markPollStart done fun _ => claimed
    · exact shows
  | markPollResult k outcome now =>
    exact shows.markPollResult_of_ne (fun same => kept same.symm) outcome now
  | abortPollStart i =>
    simp only [step]
    cases issued : s.tickets[i]? with
    | none => exact shows
    | some other =>
      refine shows.abortPollStart fun same => kept ?_
      simp [Releases, target?, issued, same]

theorem shows_run_of_kept {events : List RegistryEvent}
    (shows : s.registry.Shows id (some status) h polledAt) (kept : s.KeepsClaim id events) :
    (s.run events).registry.Shows id (some status) h polledAt := by
  induction events generalizing s with
  | nil => exact shows
  | cons e rest ih => exact ih (s := s.step e) (shows_step_of_kept shows kept.1) kept.2

theorem configure_abort {before after : Outcome (Connector × Registry)}
    (same : after.map Prod.snd = before.map fun result => result.2.abortPollStart ticket) :
    (s.configure before).abort ticket = (s.abort ticket).configure after := by
  cases before with
  | error e =>
    cases after with
    | error e' => rfl
    | ok result => cases same
  | ok result =>
    cases after with
    | error e' => cases same
    | ok result' =>
      simp only [configure, abort, Except.ok.inj same]

/-- An event that comes before the claim is undone may as well come after it, unless it is refused
for the claim. -/
theorem step_abort (shows : s.registry.Shows ticket.connectorId (some status) h polledAt)
    (kept : ¬ s.Releases ticket.connectorId e) :
    (s.step e).abort ticket =
      if e.needsFree ticket.connectorId then s.abort ticket else (s.abort ticket).step e := by
  have flying : s.registry.isInFlight ticket.connectorId = true := shows.isInFlight
  obtain ⟨-, c, found, -⟩ := shows
  cases e with
  | upsert k input now =>
    exact configure_abort (Registry.upsert_abortPollStart found k input now)
  | setEnabled k enabled now =>
    exact configure_abort (s.registry.setEnabled_abortPollStart ticket k enabled now)
  | remove k =>
    by_cases own : k = ticket.connectorId
    · subst own
      simp [RegistryEvent.needsFree, step, Registry.remove, flying, configure]
    · simp only [RegistryEvent.needsFree, own, decide_false, Bool.false_eq_true, if_false]
      exact configure_abort (Registry.remove_abortPollStart own)
  | markPollStart k now =>
    by_cases own : k = ticket.connectorId
    · simp only [RegistryEvent.needsFree, own, decide_true, if_true, step, claim]
      split
      · rename_i done
        cases flying.symm.trans (Registry.markPollStart_eq done).1
      · rfl
    · simp only [RegistryEvent.needsFree, own, decide_false, Bool.false_eq_true, if_false]
      simp only [step, claim, abort, Registry.markPollStart_abortPollStart own now]
      cases s.registry.markPollStart k now <;> rfl
  | markPollResult k outcome now =>
    simp only [step, abort, Registry.markPollResult_abortPollStart kept outcome now]
    rfl
  | abortPollStart i =>
    simp only [RegistryEvent.needsFree, Bool.false_eq_true, if_false, step, abort]
    cases issued : s.tickets[i]? with
    | none => rfl
    | some other =>
      have differ : other.connectorId ≠ ticket.connectorId := fun same =>
        kept (by simp [Releases, target?, issued, same])
      simp only [Option.elim_some, abort, Registry.abortPollStart_comm _ differ]

theorem run_abort {events : List RegistryEvent}
    (shows : s.registry.Shows ticket.connectorId (some status) h polledAt)
    (kept : s.KeepsClaim ticket.connectorId events) :
    (s.run events).abort ticket =
      (s.abort ticket).run (events.filter fun e => !e.needsFree ticket.connectorId) := by
  induction events generalizing s with
  | nil => rfl
  | cons e rest ih =>
    have later := ih (s := s.step e) (shows_step_of_kept shows kept.1) kept.2
    rw [step_abort shows kept.1] at later
    cases refused : e.needsFree ticket.connectorId with
    | true => simpa [run, refused] using later
    | false => simpa [run, refused] using later

/-- Undoing a claim is exact, in any state.  At once it gives back the registry as it was.  After
any events that do not release the claim the connector is still there and in flight; undoing the
claim ends it, sets the last poll and the status of the connector back to what they were before the
claim, keeps its other fields and every other connector and claim as the events have left them, and
moves no connector in the list.  The registry is then what the events would have made of it without
the claim, apart from the requests that the claim refused. -/
theorem undone_claim_exact (s : RegistryTraffic) {id : String} {now : Instant}
    {ticket : PollTicket} {snapshot : Connector} {r : Registry}
    (granted : s.registry.markPollStart id now = .ok (ticket, snapshot, r)) :
    r.abortPollStart ticket = s.registry ∧
      ∀ events, (s.claim id now).KeepsClaim id events →
        let later := ((s.claim id now).run events).registry
        let undone := later.abortPollStart ticket
        ∃ old c, s.registry.connectors.find? id = some old ∧
          later.connectors.find? id = some c ∧ later.isInFlight id = true ∧
          undone.isInFlight id = false ∧
          undone.connectors.find? id =
            some { c with lastPollAt := old.lastPollAt, status := old.status } ∧
          undone.connectors.keys = later.connectors.keys ∧
          (∀ k, k ≠ id → undone.connectors.find? k = later.connectors.find? k ∧
            undone.inFlight.find? k = later.inFlight.find? k) ∧
          undone = (run ⟨s.registry, s.tickets ++ [ticket]⟩
            (events.filter fun e => !e.needsFree id)).registry := by
  have restored := Registry.abortPollStart_markPollStart granted
  obtain ⟨-, old, found, -, issued, -, -⟩ := Registry.markPollStart_eq granted
  have own : id = ticket.connectorId := by rw [issued]
  subst own
  have claimed : s.claim ticket.connectorId now = ⟨r, s.tickets ++ [ticket]⟩ := by
    simp only [claim, granted]
  refine ⟨restored, fun events kept => ?_⟩
  intro later undone
  have shows : (s.claim ticket.connectorId now).registry.Shows ticket.connectorId
      (some old.health.status) old.health.polling (some now) := by
    rw [claimed]
    exact Registry.shows_markPollStart found granted
  have outlasts := shows_run_of_kept shows kept
  obtain ⟨c, there, -⟩ := outlasts.connector
  have touches : later.Touches undone ticket.connectorId :=
    later.touches_abortPollStart ticket
  refine ⟨old, c, found, there, outlasts.isInFlight, ?_, ?_, later.connectors.keys_modify _ _,
    fun k other => ⟨touches.connectors k other, touches.inFlight k other⟩, ?_⟩
  · simp [undone, Registry.abortPollStart_isInFlight]
  · rw [later.find?_abortPollStart, there, issued]
    simp [PollTicket.restore]
  · have atOnce : (s.claim ticket.connectorId now).abort ticket =
        ⟨s.registry, s.tickets ++ [ticket]⟩ := by
      simp only [claimed, abort, restored]
    rw [← atOnce, ← run_abort shows kept]
    rfl

/-- A connector has been polled once.  While its next poll is in flight it is redefined and switched
off, but neither removed nor claimed again, and another connector is removed. -/
theorem undone_claim_exact_redefined :
    let settings : ConnectorSettings := .ping { host := "10.1.1.1" }
    let s := run ⟨.empty {}, []⟩ [.upsert "edge-1" ⟨none, settings, true, none⟩ default,
      .upsert "edge-2" ⟨none, settings, true, none⟩ default, .markPollStart "edge-2" default,
      .markPollStart "edge-1" default, .markPollResult "edge-1" .success default]
    let events : List RegistryEvent := [
      .upsert "edge-1" ⟨some "core", settings, true, none⟩ default,
      .remove "edge-1", .abortPollStart 0, .remove "edge-2", .markPollStart "edge-1" default,
      .setEnabled "edge-1" false default]
    (s.claim "edge-1" ⟨1⟩).KeepsClaim "edge-1" events ∧
      ∃ ticket snapshot r, s.registry.markPollStart "edge-1" ⟨1⟩ = .ok (ticket, snapshot, r) ∧
        r.abortPollStart ticket = s.registry ∧
        ∃ c, (((s.claim "edge-1" ⟨1⟩).run events).registry.abortPollStart
            ticket).connectors.find? "edge-1" = some c ∧
          c.lastPollAt = some default ∧ c.status = .connected := by
  intro settings s events
  have kept : (s.claim "edge-1" ⟨1⟩).KeepsClaim "edge-1" events := by decide +kernel
  have free : (s.registry.markPollStart "edge-1" ⟨1⟩).isOk = true := by decide +kernel
  have polled : (s.registry.connectors.find? "edge-1").map (fun c => (c.lastPollAt, c.status)) =
      some (some default, .connected) := by decide +kernel
  refine ⟨kept, ?_⟩
  cases granted : s.registry.markPollStart "edge-1" ⟨1⟩ with
  | error e =>
    rw [granted] at free
    cases free
  | ok result =>
    obtain ⟨ticket, snapshot, r⟩ := result
    obtain ⟨restored, undone⟩ := undone_claim_exact s granted
    obtain ⟨old, c, found, -, -, -, there, -⟩ := undone events kept
    rw [found, Option.map_some, Option.some.injEq, Prod.mk.injEq] at polled
    exact ⟨ticket, snapshot, r, rfl, restored, _, there, polled.1, polled.2⟩

end RegistryTraffic

end DeviceWatch
