import DeviceWatch.Proofs.Connector.Health

/-!
# The poll history of a connector

The results that were reported for one connector since its creation are kept beside the registry,
and so is the ticket of the claim that is held.  Its failures and its last error follow from the
results, whatever else happens.  Its status does too, as long as tickets and results are used for
the claim that they belong to; it is then the status without the claim (`Health.resting`) that every
event keeps but a result.
-/

namespace DeviceWatch

namespace PollOutcome

def isFailure : PollOutcome → Bool
  | failed _ => true
  | _ => false

/-- The last result that says something about the device. -/
def lastVerdict? (results : List PollOutcome) : Option PollOutcome :=
  results.reverse.find? (· ≠ .cancelled)

/-- How many polls have failed since the last one that succeeded. -/
def failureStreak (results : List PollOutcome) : Nat :=
  (results.reverse.takeWhile (· ≠ .success)).countP isFailure

theorem lastVerdict?_append (results : List PollOutcome) (outcome : PollOutcome) :
    lastVerdict? (results ++ [outcome]) =
      if outcome = .cancelled then lastVerdict? results else some outcome := by
  by_cases cancelled : outcome = .cancelled <;> simp [lastVerdict?, cancelled]

theorem failureStreak_append (results : List PollOutcome) (outcome : PollOutcome) :
    failureStreak (results ++ [outcome]) =
      if outcome = .success then 0
      else failureStreak results + if outcome.isFailure then 1 else 0 := by
  by_cases success : outcome = .success <;> simp [failureStreak, success, List.countP_cons]

/-- What the results say about the status of the connector. -/
def statusAfter (results : List PollOutcome) : ConnectorStatus :=
  match lastVerdict? results with
  | some .success => .connected
  | some (.failed _) => .error
  | _ => .disconnected

def errorAfter (results : List PollOutcome) : Option String :=
  match lastVerdict? results with
  | some (.failed message) => some message
  | _ => none

end PollOutcome

namespace Health

open PollOutcome

def ofResults (results : List PollOutcome) : Health :=
  ⟨statusAfter results, errorAfter results, min (failureStreak results) Json.word32Max⟩

def resting (h : Health) (claim : Option ConnectorStatus) : Health :=
  { h with status := claim.getD h.status }

theorem ofResults_append (results : List PollOutcome) (outcome : PollOutcome) :
    ofResults (results ++ [outcome]) = (ofResults results).after outcome := by
  unfold ofResults statusAfter errorAfter
  rw [lastVerdict?_append, failureStreak_append]
  cases outcome with
  | success => rfl
  | failed message =>
    have counted : min (failureStreak results + 1) Json.word32Max =
        min (min (failureStreak results) Json.word32Max + 1) Json.word32Max := by
      omega
    simpa [after, failed, isFailure] using counted
  | cancelled => simp [after, isFailure]

/-- The status has no part in what a result makes of errors and failures. -/
theorem recorded_polling_congr {h g : Health} (same : h.polling = g.polling)
    (claim : Option ConnectorStatus) (outcome : PollOutcome) :
    (h.recorded claim outcome).polling = (g.after outcome).polling := by
  obtain ⟨-, error, failures⟩ := Health.mk.inj same
  cases outcome with
  | success => rfl
  | failed message => simp [recorded, after, failed, polling, failures]
  | cancelled => simp [recorded, after, polling, error, failures]

theorem recorded_some (h : Health) (status : ConnectorStatus) (outcome : PollOutcome) :
    (h.recorded (some status) outcome).resting none = (h.resting (some status)).after outcome := by
  cases outcome <;> rfl

end Health

namespace RegistryTraffic

variable {s : RegistryTraffic} {id : String} {e : RegistryEvent}

def target? (s : RegistryTraffic) : RegistryEvent → Option String
  | .upsert k _ _ | .setEnabled k _ _ | .remove k | .markPollStart k _ | .markPollResult k _ _ =>
    some k
  | .abortPollStart i => (s.tickets[i]?).map (·.connectorId)

theorem configure_registry {P : Registry → Prop} {outcome : Outcome (Connector × Registry)}
    (refused : P s.registry) (done : ∀ c r, outcome = .ok (c, r) → P r) :
    P (s.configure outcome).registry := by
  cases outcome with
  | ok result => exact done result.1 result.2 rfl
  | error e => exact refused

theorem touches_step (about : s.target? e = some id) :
    s.registry.Touches (s.step e).registry id := by
  cases e with
  | upsert k input now =>
    cases about
    refine configure_registry (P := (s.registry.Touches · id)) (.refl _ id) fun c r done => ?_
    obtain ⟨fresh, -, -, rfl⟩ := Registry.upsert_eq done
    exact s.registry.touches_insert id c
  | setEnabled k enabled now =>
    cases about
    refine configure_registry (P := (s.registry.Touches · id)) (.refl _ id) fun c r done => ?_
    obtain ⟨old, -, -, rfl⟩ := Registry.setEnabled_eq done
    exact s.registry.touches_insert id c
  | remove k =>
    cases about
    exact configure_registry (P := (s.registry.Touches · id)) (.refl _ id) fun c r done =>
      Registry.touches_remove done
  | markPollStart k now =>
    cases about
    simp only [step, claim]
    split
    · rename_i done
      exact Registry.touches_markPollStart done
    · exact .refl _ id
  | markPollResult k outcome now =>
    cases about
    simp only [step, Registry.markPollResult_snd]
    exact s.registry.touches_release id _
  | abortPollStart i =>
    obtain ⟨ticket, issued, rfl⟩ := Option.map_eq_some_iff.mp about
    simp only [step, issued, Option.elim_some]
    exact s.registry.touches_release ticket.connectorId _

theorem configure_claim {outcome : Outcome (Connector × Registry)}
    (kept : ∀ c r, outcome = .ok (c, r) → r.inFlight = s.registry.inFlight) :
    (s.configure outcome).registry.inFlight.find? id = s.registry.inFlight.find? id :=
  configure_registry (P := fun r => r.inFlight.find? id = s.registry.inFlight.find? id) rfl
    fun c r done => congrArg (·.find? id) (kept c r done)

theorem step_of_target?_eq_none (about : s.target? e = none) : s.step e = s := by
  cases e with
  | abortPollStart i =>
    simp only [target?, Option.map_eq_none_iff] at about
    simp only [step, about, Option.elim_none]
  | _ => cases about

theorem find?_step_of_other (other : s.target? e ≠ some id) :
    (s.step e).registry.connectors.find? id = s.registry.connectors.find? id ∧
      (s.step e).registry.inFlight.find? id = s.registry.inFlight.find? id := by
  cases about : s.target? e with
  | none => rw [step_of_target?_eq_none about]; exact ⟨rfl, rfl⟩
  | some k =>
    have differ : id ≠ k := fun same => other (same ▸ about)
    exact ⟨(touches_step about).connectors id differ, (touches_step about).inFlight id differ⟩

theorem getElem?_tickets_step {i : Nat} {ticket : PollTicket}
    (issued : s.tickets[i]? = some ticket) : (s.step e).tickets[i]? = some ticket := by
  have configured (outcome : Outcome (Connector × Registry)) :
      (s.configure outcome).tickets[i]? = some ticket := by
    cases outcome <;> exact issued
  cases e with
  | upsert | setEnabled | remove => exact configured _
  | markPollStart k now =>
    simp only [step, claim]
    split
    · exact (List.getElem?_append_left (List.getElem?_eq_some_iff.mp issued).1).trans issued
    · exact issued
  | markPollResult k outcome now => exact issued
  | abortPollStart j =>
    simp only [step]
    cases s.tickets[j]? <;> exact issued

end RegistryTraffic

/-- A registry and its tickets, with the results that were reported for one connector since it was
created, and with the ticket of the claim on it, by its place among the tickets. -/
structure PollHistory extends RegistryTraffic where
  results : List PollOutcome := []
  holder : Option Nat := none

namespace PollHistory

variable {s : PollHistory} {id : String} {e : RegistryEvent} {dispatch : DispatchConfig}
  {claim : Option ConnectorStatus} {h : Health} {polledAt : Option Instant}

def start (dispatch : DispatchConfig) : PollHistory := { registry := .empty dispatch }

def holderAfter (id : String) (s : PollHistory) : RegistryEvent → Option Nat
  | .markPollStart k now =>
    if k = id ∧ (s.registry.markPollStart id now).isOk then some s.tickets.length else s.holder
  | .markPollResult k _ _ => if k = id then none else s.holder
  | .abortPollStart i => if s.target? (.abortPollStart i) = some id then none else s.holder
  | _ => s.holder

def resultsAfter (id : String) (s : PollHistory) : RegistryEvent → List PollOutcome
  | .markPollResult k outcome _ => if k = id then s.results ++ [outcome] else s.results
  | _ => s.results

/-- What is reported before the connector is created is no result of it. -/
def step (id : String) (s : PollHistory) (e : RegistryEvent) : PollHistory where
  toRegistryTraffic := s.toRegistryTraffic.step e
  results := if s.registry.connectors.contains id then s.resultsAfter id e else []
  holder := s.holderAfter id e

def run (id : String) (s : PollHistory) (events : List RegistryEvent) : PollHistory :=
  events.foldl (step id) s

theorem run_traffic (id : String) (s : PollHistory) (events : List RegistryEvent) :
    (s.run id events).toRegistryTraffic = s.toRegistryTraffic.run events := by
  induction events generalizing s with
  | nil => rfl
  | cons e rest ih => exact ih (s.step id e)

/-- Results of the connector are reported while it is claimed, and a ticket of it is used only for
the claim that it was issued for, and so only once. -/
def Orderly (id : String) (s : PollHistory) : RegistryEvent → Prop
  | .markPollResult k _ _ => k = id → s.registry.isInFlight id = true
  | .abortPollStart i => s.target? (.abortPollStart i) = some id → s.holder = some i
  | _ => True

instance (id : String) (s : PollHistory) (e : RegistryEvent) : Decidable (s.Orderly id e) :=
  match e with
  | .markPollResult .. | .abortPollStart _ => inferInstanceAs (Decidable (_ → _))
  | .upsert .. | .setEnabled .. | .remove _ | .markPollStart .. =>
    inferInstanceAs (Decidable True)

/-- Each event is orderly where it happens. -/
def OrderlyRun (id : String) (s : PollHistory) : List RegistryEvent → Prop
  | [] => True
  | e :: rest => s.Orderly id e ∧ (s.step id e).OrderlyRun id rest

instance decidableOrderlyRun (id : String) :
    (s : PollHistory) → (events : List RegistryEvent) → Decidable (s.OrderlyRun id events)
  | _, [] => inferInstanceAs (Decidable True)
  | s, e :: rest =>
    have := decidableOrderlyRun id (s.step id e) rest
    inferInstanceAs (Decidable (s.Orderly id e ∧ (s.step id e).OrderlyRun id rest))

/-- The ticket that holds the claim was issued for the connector, and remembers the same status as
the claim. -/
structure Held (s : PollHistory) (id : String) : Prop where
  issued : ∀ i, s.holder = some i → ∃ ticket, s.tickets[i]? = some ticket ∧
    ticket.connectorId = id ∧ s.registry.inFlight.find? id = some ticket.previousStatus
  free : s.holder = none → s.registry.inFlight.find? id = none

theorem held_start (dispatch : DispatchConfig) (id : String) : (start dispatch).Held id where
  issued i held := by cases held
  free _ := rfl

theorem Held.keep (held : s.Held id) (same : s.holderAfter id e = s.holder)
    (kept : (s.step id e).registry.inFlight.find? id = s.registry.inFlight.find? id) :
    (s.step id e).Held id := by
  refine ⟨fun i holds => ?_, fun free => ?_⟩
  · obtain ⟨ticket, issued, own, remembered⟩ := held.issued i (same.symm.trans holds)
    exact ⟨ticket, RegistryTraffic.getElem?_tickets_step issued, own, kept.trans remembered⟩
  · exact kept.trans (held.free (same.symm.trans free))

theorem holderAfter_of_other (other : s.target? e ≠ some id) : s.holderAfter id e = s.holder := by
  cases e with
  | markPollStart k now => exact if_neg fun about => other (congrArg some about.1)
  | markPollResult k outcome now => exact if_neg fun same => other (congrArg some same)
  | abortPollStart i => exact if_neg other
  | _ => rfl

theorem held_of_released (released : s.holderAfter id e = none)
    (free : (s.step id e).registry.inFlight.find? id = none) : (s.step id e).Held id where
  issued i holds := by cases released.symm.trans holds
  free _ := free

theorem Held.step_of_target (held : s.Held id) (about : s.target? e = some id) :
    (s.step id e).Held id := by
  cases e with
  | upsert k input now =>
    exact held.keep rfl (RegistryTraffic.configure_claim fun c r done =>
      (Registry.upsert_eq_ok done).1)
  | setEnabled k enabled now =>
    exact held.keep rfl (RegistryTraffic.configure_claim fun c r done =>
      (Registry.setEnabled_eq_ok done).1)
  | remove k =>
    exact held.keep rfl (RegistryTraffic.configure_claim fun c r done =>
      (Registry.remove_eq_ok done).1)
  | markPollStart k now =>
    cases about
    cases done : s.registry.markPollStart id now with
    | error e =>
      refine held.keep (if_neg fun granted => ?_) ?_
      · rw [done] at granted
        cases granted.2
      · simp only [PollHistory.step, RegistryTraffic.step, RegistryTraffic.claim, done]
    | ok result =>
      obtain ⟨ticket, c, r⟩ := result
      have holds : s.holderAfter id (.markPollStart id now) = some s.tickets.length :=
        if_pos ⟨rfl, by rw [done]; rfl⟩
      obtain ⟨-, old, -, -, rfl, -, rfl⟩ := Registry.markPollStart_eq done
      refine ⟨fun i held' => ?_, fun free => ?_⟩
      · cases holds.symm.trans held'
        simp only [PollHistory.step, RegistryTraffic.step, RegistryTraffic.claim, done]
        exact ⟨_, List.getElem?_concat_length, rfl, s.registry.inFlight.find?_insert_self id _⟩
      · cases holds.symm.trans free
  | markPollResult k outcome now =>
    cases about
    refine held_of_released (if_pos rfl) ?_
    simp only [PollHistory.step, RegistryTraffic.step, Registry.markPollResult_snd]
    exact s.registry.inFlight.find?_erase_self id
  | abortPollStart i =>
    refine held_of_released (if_pos about) ?_
    obtain ⟨ticket, issued, rfl⟩ := Option.map_eq_some_iff.mp about
    simp only [PollHistory.step, RegistryTraffic.step, issued, Option.elim_some]
    exact s.registry.inFlight.find?_erase_self _

theorem Held.step (held : s.Held id) (e : RegistryEvent) : (s.step id e).Held id := by
  by_cases about : s.target? e = some id
  · exact held.step_of_target about
  · exact held.keep (holderAfter_of_other about) (RegistryTraffic.find?_step_of_other about).2

/-- What an event does to a connector that shows the given claim and health: the results that are
kept of it, its claim and its health after the event. -/
inductive Turned (s : PollHistory) (id : String) (claim : Option ConnectorStatus) (h : Health) :
    RegistryEvent → List PollOutcome → Option ConnectorStatus → Health → Prop
  | kept {e : RegistryEvent} : s.Turned id claim h e s.results claim h
  | claimed {now : Instant} (free : claim = none) :
    s.Turned id claim h (.markPollStart id now) s.results (some h.status) h.polling
  | undone {i : Nat} {ticket : PollTicket} (issued : s.tickets[i]? = some ticket)
    (own : ticket.connectorId = id) :
    s.Turned id claim h (.abortPollStart i) s.results none
      { h with status := ticket.previousStatus }
  | reported {outcome : PollOutcome} {now : Instant} :
    s.Turned id claim h (.markPollResult id outcome now) (s.results ++ [outcome]) none
      (h.recorded claim outcome)

theorem results_step_of_absent (absent : s.registry.connectors.find? id = none) :
    (s.step id e).results = [] := by
  refine if_neg ?_
  rw [OrderedMap.contains_eq_isSome, absent]
  exact Bool.false_ne_true

theorem results_step_of_shows (shows : s.registry.Shows id claim h polledAt) :
    (s.step id e).results = s.resultsAfter id e := by
  obtain ⟨-, c, found, -⟩ := shows
  refine if_pos ?_
  rw [OrderedMap.contains_eq_isSome, found]
  rfl

theorem resultsAfter_of_other (other : s.target? e ≠ some id) :
    s.resultsAfter id e = s.results := by
  cases e with
  | markPollResult k outcome now => exact if_neg fun same => other (congrArg some same)
  | _ => rfl

theorem shows_step (shows : s.registry.Shows id claim h polledAt)
    (left : (s.step id e).registry.connectors.find? id ≠ none) :
    ∃ claim' h' polledAt', (s.step id e).registry.Shows id claim' h' polledAt' ∧
      s.Turned id claim h e (s.step id e).results claim' h' := by
  rw [results_step_of_shows shows]
  by_cases about : s.target? e = some id
  case neg =>
    rw [resultsAfter_of_other about]
    refine ⟨claim, h, polledAt, ?_, .kept⟩
    obtain ⟨claimed, c, found, rest⟩ := shows
    obtain ⟨same, claim⟩ := RegistryTraffic.find?_step_of_other about
    exact ⟨claim.trans claimed, c, same.trans found, rest⟩
  have kept {outcome : Outcome (Connector × Registry)}
      (done : ∀ c r, outcome = .ok (c, r) → r.Shows id claim h polledAt) :
      (s.configure outcome).registry.Shows id claim h polledAt :=
    RegistryTraffic.configure_registry (P := (·.Shows id claim h polledAt)) shows done
  cases e with
  | upsert k input now => exact ⟨claim, h, polledAt, kept fun c r done => shows.upsert done, .kept⟩
  | setEnabled k enabled now =>
    exact ⟨claim, h, polledAt, kept fun c r done => shows.setEnabled done, .kept⟩
  | remove k =>
    cases about
    refine ⟨claim, h, polledAt, kept fun c r done => absurd ?_ left, .kept⟩
    obtain ⟨-, -, rfl⟩ := Registry.remove_eq done
    simp only [PollHistory.step, RegistryTraffic.step, done, RegistryTraffic.configure]
    exact s.registry.connectors.find?_erase_self id
  | markPollStart k now =>
    cases about
    cases done : s.registry.markPollStart id now with
    | error e =>
      refine ⟨claim, h, polledAt, ?_, .kept⟩
      simpa only [PollHistory.step, RegistryTraffic.step, RegistryTraffic.claim, done] using shows
    | ok result =>
      obtain ⟨ticket, c, r⟩ := result
      have free := Registry.isInFlight_eq_false_iff.mp (Registry.markPollStart_eq done).1
      obtain ⟨claimed, old, found, rfl, -⟩ := shows
      refine ⟨_, _, some now, ?_, .claimed (claimed.symm.trans free)⟩
      simpa only [PollHistory.step, RegistryTraffic.step, RegistryTraffic.claim, done] using
        Registry.shows_markPollStart found done
  | markPollResult k outcome now =>
    cases about
    rw [resultsAfter, if_pos rfl]
    exact ⟨none, _, polledAt, shows.markPollResult_self outcome now, .reported⟩
  | abortPollStart i =>
    obtain ⟨ticket, issued, rfl⟩ := Option.map_eq_some_iff.mp about
    refine ⟨none, _, ticket.previousPollAt, ?_, .undone issued rfl⟩
    simpa only [PollHistory.step, RegistryTraffic.step, issued, Option.elim_some,
      RegistryTraffic.abort] using shows.abortPollStart_self

/-- A connector is created by a definition only, and nothing is known of it then. -/
theorem shows_created (consistent : s.registry.Consistent)
    (absent : s.registry.connectors.find? id = none)
    (created : (s.step id e).registry.connectors.find? id ≠ none) :
    (s.step id e).registry.Shows id none .fresh none := by
  by_cases about : s.target? e = some id
  case neg =>
    exact absurd ((RegistryTraffic.find?_step_of_other about).1.trans absent) created
  have unregistered {outcome : Outcome (Connector × Registry)}
      (done : ∀ c r, outcome = .ok (c, r) → r.connectors.find? id = none) :
      (s.configure outcome).registry.connectors.find? id = none :=
    RegistryTraffic.configure_registry (P := fun r => r.connectors.find? id = none) absent done
  cases e with
  | upsert k input now =>
    cases about
    cases done : s.registry.upsert id input now with
    | error e =>
      simp only [PollHistory.step, RegistryTraffic.step, done, RegistryTraffic.configure] at created
      exact absurd absent created
    | ok result =>
      obtain ⟨c, r⟩ := result
      simpa only [PollHistory.step, RegistryTraffic.step, done, RegistryTraffic.configure] using
        Registry.shows_upsert consistent absent done
  | setEnabled k enabled now =>
    cases about
    refine absurd (unregistered fun c r done => ?_) created
    obtain ⟨old, found, -⟩ := Registry.setEnabled_eq done
    cases absent.symm.trans found
  | remove k =>
    cases about
    refine absurd (unregistered fun c r done => ?_) created
    cases absent.symm.trans (Registry.remove_eq done).2.1
  | markPollStart k now =>
    cases about
    refine absurd ?_ created
    simp only [PollHistory.step, RegistryTraffic.step, RegistryTraffic.claim]
    split
    · rename_i done
      obtain ⟨-, old, found, -⟩ := Registry.markPollStart_eq done
      cases absent.symm.trans found
    · exact absent
  | markPollResult k outcome now =>
    cases about
    refine absurd ?_ created
    simp only [PollHistory.step, RegistryTraffic.step, Registry.markPollResult_snd]
    rw [OrderedMap.modify_of_absent absent, absent]
  | abortPollStart i =>
    obtain ⟨ticket, issued, rfl⟩ := Option.map_eq_some_iff.mp about
    refine absurd ?_ created
    simp only [PollHistory.step, RegistryTraffic.step, issued, Option.elim_some,
      RegistryTraffic.abort, Registry.abortPollStart]
    rw [OrderedMap.modify_of_absent absent, absent]

def Follows (s : PollHistory) (id : String)
    (P : List PollOutcome → Option ConnectorStatus → Health → Prop) : Prop :=
  s.registry.connectors.find? id ≠ none →
    ∃ claim h polledAt, s.registry.Shows id claim h polledAt ∧ P s.results claim h

theorem Follows.of_found {P : List PollOutcome → Option ConnectorStatus → Health → Prop}
    {c : Connector} (follows : s.Follows id P)
    (found : s.registry.connectors.find? id = some c) :
    P s.results (s.registry.inFlight.find? id) c.health := by
  have registered : s.registry.connectors.find? id ≠ none := by
    rw [found]
    exact Option.some_ne_none c
  obtain ⟨claim, h, polledAt, ⟨claimed, c', found', rfl, -⟩, holds⟩ := follows registered
  cases found.symm.trans found'
  exact claimed.symm ▸ holds

/-- What holds of a new connector and is kept by everything that an event can do to one. -/
theorem Follows.step {P : List PollOutcome → Option ConnectorStatus → Health → Prop}
    (follows : s.Follows id P) (consistent : s.registry.Consistent) (new : P [] none .fresh)
    (kept : ∀ claim h results' claim' h', s.registry.inFlight.find? id = claim →
      P s.results claim h → s.Turned id claim h e results' claim' h' → P results' claim' h') :
    (s.step id e).Follows id P := by
  intro registered
  by_cases before : s.registry.connectors.find? id = none
  · refine ⟨none, .fresh, none, shows_created consistent before registered, ?_⟩
    rw [results_step_of_absent before]
    exact new
  · obtain ⟨claim, h, polledAt, shows, holds⟩ := follows before
    obtain ⟨claim', h', polledAt', shows', turned⟩ := shows_step shows registered
    exact ⟨claim', h', polledAt', shows', kept _ _ _ _ _ shows.claim holds turned⟩

/-- The health follows from the results, but for the status. -/
def Counted (results : List PollOutcome) (_ : Option ConnectorStatus) (h : Health) : Prop :=
  h.polling = (Health.ofResults results).polling

/-- The health without the claim follows from the results. -/
def Told (results : List PollOutcome) (claim : Option ConnectorStatus) (h : Health) : Prop :=
  h.resting claim = .ofResults results

theorem Turned.counted {results' : List PollOutcome} {claim' : Option ConnectorStatus}
    {h' : Health} (turned : s.Turned id claim h e results' claim' h')
    (counted : Counted s.results claim h) : Counted results' claim' h' := by
  cases turned with
  | reported =>
    rw [Counted, Health.ofResults_append]
    exact Health.recorded_polling_congr counted claim _
  | _ => exact counted

/-- The status that an undone claim brings back, and the one that a cancelled poll brings back, is
the one that the claim remembers. -/
theorem Turned.told {results' : List PollOutcome} {claim' : Option ConnectorStatus} {h' : Health}
    (turned : s.Turned id claim h e results' claim' h') (told : Told s.results claim h)
    (remembered : s.registry.inFlight.find? id = claim) (held : s.Held id)
    (orderly : s.Orderly id e) : Told results' claim' h' := by
  cases turned with
  | kept => exact told
  | claimed free =>
    subst free
    exact told
  | @undone i ticket issued own =>
    have holds : s.holder = some i := by
      refine orderly ?_
      rw [RegistryTraffic.target?, issued, Option.map_some, own]
    obtain ⟨ticket', issued', -, claimed⟩ := held.issued i holds
    cases issued.symm.trans issued'
    cases claimed.symm.trans remembered
    exact told
  | @reported outcome now =>
    have flying := orderly rfl
    rw [Registry.isInFlight_eq_isSome, remembered] at flying
    obtain ⟨status, rfl⟩ := Option.isSome_iff_exists.mp flying
    rw [Told, Health.recorded_some, Health.ofResults_append]
    exact congrArg (Health.after · outcome) told

theorem held_run (held : s.Held id) (events : List RegistryEvent) : (s.run id events).Held id := by
  induction events generalizing s with
  | nil => exact held
  | cons e rest ih => exact ih (held.step e)

/-- Some ticket holds the claim just while the connector is in flight. -/
theorem isSome_holder_run (dispatch : DispatchConfig) (id : String)
    (events : List RegistryEvent) :
    let s := (start dispatch).run id events
    s.holder.isSome = s.registry.isInFlight id := by
  intro s
  have held : s.Held id := held_run (held_start dispatch id) events
  rw [Registry.isInFlight_eq_isSome]
  cases holds : s.holder with
  | none =>
    rw [held.free holds]
    rfl
  | some i =>
    obtain ⟨ticket, -, -, remembered⟩ := held.issued i holds
    rw [remembered]
    rfl

theorem counted_run (sound : s.Sound dispatch) (counted : s.Follows id Counted)
    (events : List RegistryEvent) : (s.run id events).Follows id Counted := by
  induction events generalizing s with
  | nil => exact counted
  | cons e rest ih =>
    refine ih (s := s.step id e) (sound.step e) ?_
    exact counted.step sound.consistent rfl fun _ _ _ _ _ _ before turned => turned.counted before

theorem told_run (sound : s.Sound dispatch) (held : s.Held id) (told : s.Follows id Told)
    (events : List RegistryEvent) (orderly : s.OrderlyRun id events) :
    (s.run id events).Follows id Told := by
  induction events generalizing s with
  | nil => exact told
  | cons e rest ih =>
    refine ih (s := s.step id e) (sound.step e) (held.step e) ?_ orderly.2
    exact told.step sound.consistent rfl fun _ _ _ _ _ remembered before turned =>
      turned.told before remembered held orderly.1

/-- After any events from an empty registry on, for every connector: its failures are counted from
the results since the last success, whatever else has happened, and its error is the one of the last
result that was not cancelled.  If tickets and results were used for the claim that they belong to,
its status is what these results say, and while a poll is in flight the claim remembers it. -/
theorem health_follows_results (dispatch : DispatchConfig) (id : String)
    (events : List RegistryEvent) (c : Connector)
    (found : (RegistryTraffic.run ⟨.empty dispatch, []⟩ events).registry.connectors.find? id =
      some c) :
    let r := (RegistryTraffic.run ⟨.empty dispatch, []⟩ events).registry
    let results := ((start dispatch).run id events).results
    c.consecutiveFailures = min 4294967295 (PollOutcome.failureStreak results) ∧
      c.errorMessage = PollOutcome.errorAfter results ∧
      ((start dispatch).OrderlyRun id events →
        (r.isInFlight id = false → c.status = PollOutcome.statusAfter results) ∧
        (r.isInFlight id = true →
          r.inFlight.find? id = some (PollOutcome.statusAfter results))) := by
  intro r results
  have sound : (start dispatch).Sound dispatch := RegistryTraffic.sound_empty dispatch
  have same : ((start dispatch).run id events).registry = r :=
    congrArg RegistryTraffic.registry (run_traffic id (start dispatch) events)
  have found : r.connectors.find? id = some c := found
  rw [← same] at found
  obtain ⟨-, error, failures⟩ := Health.mk.inj
    ((counted_run sound (fun absent => absurd rfl absent) events).of_found found)
  refine ⟨failures.trans (Nat.min_comm _ _), error, fun orderly => ?_⟩
  have told := told_run sound (held_start dispatch id) (fun absent => absurd rfl absent) events
    orderly
  have status := congrArg Health.status (told.of_found found)
  rw [Health.resting, same] at status
  rw [Registry.isInFlight_eq_isSome]
  cases claimed : r.inFlight.find? id with
  | none =>
    rw [claimed] at status
    exact ⟨fun _ => status, fun flying => by cases flying⟩
  | some before =>
    rw [claimed] at status
    exact ⟨fun free => (by cases free), fun _ => congrArg some status⟩

/-- A poll has failed, the next claim is undone after the definition was replaced, and the last poll
is cancelled. -/
def polled : List RegistryEvent :=
  let input : ConnectorInput := ⟨none, .ping { host := "10.1.1.1" }, true, none⟩
  [.upsert "edge-1" input default, .markPollStart "edge-1" default,
    .markPollResult "edge-1" (.failed "no answer") default, .markPollStart "edge-1" default,
    .upsert "edge-1" input default, .abortPollStart 1, .setEnabled "edge-1" true default,
    .markPollStart "edge-1" default, .markPollResult "edge-1" .cancelled default]

theorem health_follows_results_polled :
    let r := (RegistryTraffic.run ⟨.empty {}, []⟩ polled).registry
    (start {}).OrderlyRun "edge-1" polled ∧ ∃ c, r.connectors.find? "edge-1" = some c ∧
      c.consecutiveFailures = 1 ∧ c.errorMessage = some "no answer" ∧ c.status = .error := by
  intro r
  have orderly : (start {}).OrderlyRun "edge-1" polled := by decide +kernel
  have results : ((start {}).run "edge-1" polled).results = [.failed "no answer", .cancelled] := by
    decide +kernel
  have free : r.isInFlight "edge-1" = false := by decide +kernel
  have registered : (r.connectors.find? "edge-1").isSome = true := by decide +kernel
  obtain ⟨c, found⟩ := Option.isSome_iff_exists.mp registered
  obtain ⟨failures, error, told⟩ := health_follows_results {} "edge-1" polled c found
  have status := (told orderly).1 free
  rw [results] at failures error status
  exact ⟨orderly, c, found, failures, error, status⟩

end PollHistory

end DeviceWatch
