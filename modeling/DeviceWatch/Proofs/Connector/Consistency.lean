import DeviceWatch.Proofs.Connector.InFlight

/-!
# A registry is consistent in every state

Requests, claims, undone claims and reported results come in any order.  Each of them writes one
connector and its claim only (`Touches`), so that a registry stays consistent if that connector
does.  The status that a claim or a ticket remembers is one from before the claim, and never `connecting`;
this is what makes it safe to restore it, however late.
-/

namespace DeviceWatch

/-- A definition that has passed the checks for its id; it has an error just when polls failed. -/
structure Connector.Valid (c : Connector) (dispatch : DispatchConfig) (id : String) : Prop where
  ownId : c.id = id
  validId : validateId id = .ok ()
  validSettings : c.settings.validate = .ok ()
  aboveFloor : dispatch.minPollIntervalSecs ≤ c.pollIntervalSecs
  belowMaximum : c.pollIntervalSecs ≤ maxPollIntervalSecs
  failures : c.errorMessage.isSome = true ↔ 0 < c.consecutiveFailures

theorem Connector.validateInterval_eq_ok {secs floor : Nat}
    (valid : validateInterval secs floor = .ok ()) : floor ≤ secs ∧ secs ≤ maxPollIntervalSecs := by
  unfold validateInterval at valid
  split at valid
  · cases valid
  · split at valid
    · cases valid
    · omega

theorem ConnectorInput.toConnector_valid {input : ConnectorInput} {dispatch : DispatchConfig}
    {id : String} {now : Instant} {c : Connector}
    (done : input.toConnector id dispatch now = .ok c) : c.Valid dispatch id := by
  obtain ⟨validId, validSettings, validInterval, chosen⟩ := Registry.toConnector_eq done
  obtain ⟨aboveFloor, belowMaximum⟩ := Connector.validateInterval_eq_ok validInterval
  rw [chosen] at aboveFloor belowMaximum ⊢
  exact ⟨rfl, validId, validSettings, aboveFloor, belowMaximum, by simp⟩

namespace Registry

/-- A poll in flight is of a registered connector, which is connecting just as long. -/
structure Consistent (r : Registry) : Prop where
  valid : ∀ {id c}, r.connectors.find? id = some c → c.Valid r.dispatch id
  connecting : ∀ {id c}, r.connectors.find? id = some c →
    (c.status = .connecting ↔ r.isInFlight id = true)
  registered : ∀ {id}, r.isInFlight id = true → ∃ c, r.connectors.find? id = some c

theorem consistent_empty (dispatch : DispatchConfig) : (empty dispatch).Consistent := by
  constructor <;> simp [empty, isInFlight]

/-- Nothing but one connector and its claim is written. -/
structure Touches (r r' : Registry) (id : String) : Prop where
  dispatch : r'.dispatch = r.dispatch
  connectors : ∀ k, k ≠ id → r'.connectors.find? k = r.connectors.find? k
  inFlight : ∀ k, k ≠ id → r'.inFlight.find? k = r.inFlight.find? k

variable {r r' : Registry} {id : String} {c : Connector} {now : Instant}

theorem Touches.refl (r : Registry) (id : String) : r.Touches r id :=
  ⟨rfl, fun _ _ => rfl, fun _ _ => rfl⟩

theorem Consistent.touch (h : r.Consistent) (id : String) (touches : r.Touches r' id)
    (written : ∀ c, r'.connectors.find? id = some c →
      c.Valid r.dispatch id ∧ (c.status = .connecting ↔ r'.isInFlight id = true))
    (registered : r'.isInFlight id = true → ∃ c, r'.connectors.find? id = some c) :
    r'.Consistent := by
  have other (k : String) (differ : k ≠ id) : r'.isInFlight k = r.isInFlight k := by
    rw [isInFlight_eq_isSome, isInFlight_eq_isSome, touches.inFlight k differ]
  refine ⟨fun {k d} found => ?_, fun {k d} found => ?_, fun {k} flying => ?_⟩
  · rw [touches.dispatch]
    by_cases same : k = id
    · subst same
      exact (written d found).1
    · rw [touches.connectors k same] at found
      exact h.valid found
  · by_cases same : k = id
    · subst same
      exact (written d found).2
    · rw [touches.connectors k same] at found
      rw [other k same]
      exact h.connecting found
  · by_cases same : k = id
    · subst same
      exact registered flying
    · rw [other k same] at flying
      rw [touches.connectors k same]
      exact h.registered flying

theorem touches_insert (r : Registry) (id : String) (c : Connector) :
    r.Touches { r with connectors := r.connectors.insert id c } id where
  dispatch := rfl
  connectors _ differ := r.connectors.find?_insert_of_ne differ c
  inFlight _ _ := rfl

theorem touches_remove (done : r.remove id = .ok (c, r')) : r.Touches r' id := by
  obtain ⟨-, -, rfl⟩ := remove_eq done
  exact ⟨rfl, fun k differ => r.connectors.find?_erase_of_ne differ, fun _ _ => rfl⟩

theorem touches_markPollStart {ticket : PollTicket}
    (done : r.markPollStart id now = .ok (ticket, c, r')) : r.Touches r' id := by
  obtain ⟨-, old, -, -, -, -, rfl⟩ := markPollStart_eq done
  exact ⟨rfl, fun k differ => r.connectors.find?_insert_of_ne differ c,
    fun k differ => r.inFlight.find?_insert_of_ne differ old.status⟩

theorem touches_release (r : Registry) (id : String) (f : Connector → Connector) :
    r.Touches
      { r with connectors := r.connectors.modify id f, inFlight := r.inFlight.erase id } id where
  dispatch := rfl
  connectors k differ := by rw [OrderedMap.find?_modify, if_neg differ]
  inFlight k differ := r.inFlight.find?_erase_of_ne differ

theorem Consistent.insert (h : r.Consistent) (valid : c.Valid r.dispatch id)
    (connecting : c.status = .connecting ↔ r.isInFlight id = true) :
    ({ r with connectors := r.connectors.insert id c } : Registry).Consistent := by
  have there : (r.connectors.insert id c).find? id = some c :=
    r.connectors.find?_insert_self id c
  refine h.touch id (r.touches_insert id c) (fun d found => ?_) fun _ => ⟨c, there⟩
  obtain rfl : c = d := Option.some.inj (there.symm.trans found)
  exact ⟨valid, connecting⟩

theorem Consistent.free_of_absent (h : r.Consistent) (absent : r.connectors.find? id = none) :
    r.isInFlight id = false := by
  refine Bool.eq_false_iff.mpr fun flying => ?_
  obtain ⟨c, found⟩ := h.registered flying
  cases absent.symm.trans found

theorem Consistent.upsert (h : r.Consistent) {input : ConnectorInput}
    (done : r.upsert id input now = .ok (c, r')) : r'.Consistent := by
  obtain ⟨fresh, built, chosen, rfl⟩ := upsert_eq done
  have valid := ConnectorInput.toConnector_valid built
  cases found : r.connectors.find? id with
  | none =>
    rw [found] at chosen
    subst chosen
    have free := h.free_of_absent found
    obtain ⟨-, -, -, chosen⟩ := toConnector_eq built
    have idle : c.status = .disconnected := by rw [chosen]
    exact h.insert valid (by simp [idle, free])
  | some old =>
    rw [found] at chosen
    subst chosen
    have carried : (carryHistory old fresh).Valid r.dispatch id :=
      { valid with failures := (h.valid found).failures }
    have connecting : old.status = .connecting ↔ r.isInFlight id = true := h.connecting found
    exact h.insert carried connecting

theorem Consistent.setEnabled (h : r.Consistent) {enabled : Bool}
    (done : r.setEnabled id enabled now = .ok (c, r')) : r'.Consistent := by
  obtain ⟨old, found, rfl, rfl⟩ := setEnabled_eq done
  have valid := h.valid found
  have toggled : ({ old with enabled := enabled, updatedAt := now } : Connector).Valid
      r.dispatch id := { valid with }
  have connecting : old.status = .connecting ↔ r.isInFlight id = true := h.connecting found
  exact h.insert toggled connecting

theorem Consistent.remove (h : r.Consistent) (done : r.remove id = .ok (c, r')) :
    r'.Consistent := by
  obtain ⟨free, found, rfl⟩ := remove_eq done
  refine h.touch id (touches_remove done) (fun d there => ?_) fun flying => ?_
  · cases (r.connectors.find?_erase_self id).symm.trans there
  · rw [show r.isInFlight id = true from flying] at free
    cases free

/-- No claim remembers a status of a claimed connector. -/
def Restful (r : Registry) : Prop :=
  ∀ {id status}, r.inFlight.find? id = some status → status ≠ .connecting

theorem Consistent.status_ne (h : r.Consistent) (free : r.isInFlight id = false)
    (found : r.connectors.find? id = some c) : c.status ≠ .connecting := by
  intro connecting
  rw [(h.connecting found).mp connecting] at free
  cases free

theorem markPollStart_keeps {ticket : PollTicket} (h : r.Consistent) (restful : r.Restful)
    (done : r.markPollStart id now = .ok (ticket, c, r')) :
    r'.Consistent ∧ r'.Restful ∧ ticket.previousStatus ≠ .connecting := by
  obtain ⟨free, old, found, -, rfl, rfl, rfl⟩ := markPollStart_eq done
  have idle := h.status_ne free found
  let claimed : Connector := { old with lastPollAt := some now, status := .connecting }
  have there : (r.connectors.insert id claimed).find? id = some claimed :=
    r.connectors.find?_insert_self id claimed
  have flying : (r.inFlight.insert id old.status).contains id = true := by
    simp [OrderedMap.contains_insert]
  refine ⟨h.touch id (touches_markPollStart done) (fun d found' => ?_)
    fun _ => ⟨claimed, there⟩, fun {k status} remembered => ?_, idle⟩
  · obtain rfl : claimed = d := Option.some.inj (there.symm.trans found')
    have valid := h.valid found
    have stamped : claimed.Valid r.dispatch id := { valid with }
    exact ⟨stamped, iff_of_true rfl flying⟩
  · rw [OrderedMap.find?_insert] at remembered
    split at remembered
    · cases remembered
      exact idle
    · exact restful remembered

theorem release_keeps (h : r.Consistent) (restful : r.Restful) (id : String)
    {f : Connector → Connector}
    (keeps : ∀ c, c.Valid r.dispatch id → (f c).Valid r.dispatch id)
    (idle : ∀ c, (f c).status ≠ .connecting) :
    let r' : Registry :=
      { r with connectors := r.connectors.modify id f, inFlight := r.inFlight.erase id }
    r'.Consistent ∧ r'.Restful := by
  intro r'
  have landed : r'.isInFlight id = false := by
    simp [r', isInFlight, OrderedMap.contains_erase]
  refine ⟨h.touch id (r.touches_release id f) (fun d found => ?_) fun flying => ?_,
    fun {k status} remembered => ?_⟩
  · rw [OrderedMap.find?_modify, if_pos rfl] at found
    obtain ⟨c, stored, rfl⟩ := Option.map_eq_some_iff.mp found
    exact ⟨keeps c (h.valid stored), by simp [idle c, landed]⟩
  · rw [landed] at flying
    cases flying
  · rw [OrderedMap.find?_erase] at remembered
    split at remembered
    · cases remembered
    · exact restful remembered

theorem abortPollStart_keeps (h : r.Consistent) (restful : r.Restful) {ticket : PollTicket}
    (idle : ticket.previousStatus ≠ .connecting) :
    (r.abortPollStart ticket).Consistent ∧ (r.abortPollStart ticket).Restful :=
  release_keeps h restful ticket.connectorId (fun _ valid => { valid with }) fun _ => idle

theorem recordOutcome_valid {dispatch : DispatchConfig} (valid : c.Valid dispatch id)
    (claim : Option ConnectorStatus) (outcome : PollOutcome) (now : Instant) :
    (recordOutcome claim outcome now c).Valid dispatch id := by
  cases outcome with
  | success => exact { valid with failures := by simp [recordOutcome] }
  | failed message =>
    refine { valid with failures := ?_ }
    simp only [recordOutcome, Option.isSome_some, true_iff, Json.word32Max]
    omega
  | cancelled => exact { valid with }

theorem recordOutcome_status_ne {claim : Option ConnectorStatus} (outcome : PollOutcome)
    (now : Instant) (c : Connector) (idle : ∀ status, claim = some status → status ≠ .connecting) :
    (recordOutcome claim outcome now c).status ≠ .connecting := by
  cases outcome with
  | cancelled =>
    cases claim with
    | none => simp [recordOutcome]
    | some status => exact idle status rfl
  | _ => simp [recordOutcome]

theorem markPollResult_keeps (h : r.Consistent) (restful : r.Restful) (id : String)
    (outcome : PollOutcome) (now : Instant) :
    (r.markPollResult id outcome now).2.Consistent ∧
      (r.markPollResult id outcome now).2.Restful := by
  have released := release_keeps h restful id
    (f := recordOutcome (r.inFlight.find? id) outcome now)
    (fun c valid => recordOutcome_valid valid _ outcome now)
    fun c => recordOutcome_status_ne outcome now c fun status remembered => restful remembered
  unfold markPollResult
  split
  · rename_i absent
    rw [OrderedMap.modify_of_absent absent] at released
    exact released
  · exact released

end Registry

/-- A registry, and the tickets that it has issued. -/
structure RegistryTraffic where
  registry : Registry
  tickets : List PollTicket := []

inductive RegistryEvent where
  | upsert (id : String) (input : ConnectorInput) (now : Instant)
  | setEnabled (id : String) (enabled : Bool) (now : Instant)
  | remove (id : String)
  | markPollStart (id : String) (now : Instant)
  /-- Whether the connector is claimed or not. -/
  | markPollResult (id : String) (outcome : PollOutcome) (now : Instant)
  /-- With any ticket that was issued, for the first time or again. -/
  | abortPollStart (ticket : Nat)

namespace RegistryTraffic

def configure (s : RegistryTraffic) : Outcome (Connector × Registry) → RegistryTraffic
  | .ok (_, r) => { s with registry := r }
  | .error _ => s

def claim (s : RegistryTraffic) (id : String) (now : Instant) : RegistryTraffic :=
  match s.registry.markPollStart id now with
  | .ok (ticket, _, r) => { registry := r, tickets := s.tickets ++ [ticket] }
  | .error _ => s

def abort (s : RegistryTraffic) (ticket : PollTicket) : RegistryTraffic :=
  { s with registry := s.registry.abortPollStart ticket }

def step (s : RegistryTraffic) : RegistryEvent → RegistryTraffic
  | .upsert id input now => s.configure (s.registry.upsert id input now)
  | .setEnabled id enabled now => s.configure (s.registry.setEnabled id enabled now)
  | .remove id => s.configure (s.registry.remove id)
  | .markPollStart id now => s.claim id now
  | .markPollResult id outcome now =>
    { s with registry := (s.registry.markPollResult id outcome now).2 }
  | .abortPollStart i => (s.tickets[i]?).elim s s.abort

def run (s : RegistryTraffic) (events : List RegistryEvent) : RegistryTraffic :=
  events.foldl step s

/-- What holds of a registry with the given settings and of its tickets in every state. -/
structure Sound (s : RegistryTraffic) (dispatch : DispatchConfig) : Prop where
  dispatch : s.registry.dispatch = dispatch
  consistent : s.registry.Consistent
  restful : s.registry.Restful
  tickets : ∀ t ∈ s.tickets, t.previousStatus ≠ .connecting

variable {s : RegistryTraffic} {dispatch : DispatchConfig}

theorem sound_empty (dispatch : DispatchConfig) : Sound ⟨.empty dispatch, []⟩ dispatch where
  dispatch := rfl
  consistent := Registry.consistent_empty dispatch
  restful := by simp [Registry.Restful, Registry.empty]
  tickets := by simp

theorem Sound.upsert (h : s.Sound dispatch) (id : String) (input : ConnectorInput)
    (now : Instant) : (s.configure (s.registry.upsert id input now)).Sound dispatch := by
  cases done : s.registry.upsert id input now with
  | error e => exact h
  | ok result =>
    obtain ⟨c, r⟩ := result
    have consistent := h.consistent.upsert done
    obtain ⟨fresh, -, -, rfl⟩ := Registry.upsert_eq done
    exact ⟨h.dispatch, consistent, h.restful, h.tickets⟩

theorem Sound.setEnabled (h : s.Sound dispatch) (id : String) (enabled : Bool) (now : Instant) :
    (s.configure (s.registry.setEnabled id enabled now)).Sound dispatch := by
  cases done : s.registry.setEnabled id enabled now with
  | error e => exact h
  | ok result =>
    obtain ⟨c, r⟩ := result
    have consistent := h.consistent.setEnabled done
    obtain ⟨old, -, -, rfl⟩ := Registry.setEnabled_eq done
    exact ⟨h.dispatch, consistent, h.restful, h.tickets⟩

theorem Sound.remove (h : s.Sound dispatch) (id : String) :
    (s.configure (s.registry.remove id)).Sound dispatch := by
  cases done : s.registry.remove id with
  | error e => exact h
  | ok result =>
    obtain ⟨c, r⟩ := result
    have consistent := h.consistent.remove done
    obtain ⟨-, -, rfl⟩ := Registry.remove_eq done
    exact ⟨h.dispatch, consistent, h.restful, h.tickets⟩

theorem Sound.claim (h : s.Sound dispatch) (id : String) (now : Instant) :
    (s.claim id now).Sound dispatch := by
  unfold RegistryTraffic.claim
  split
  · rename_i ticket c r done
    obtain ⟨consistent, restful, idle⟩ := Registry.markPollStart_keeps h.consistent h.restful done
    obtain ⟨-, old, -, -, -, -, rfl⟩ := Registry.markPollStart_eq done
    refine ⟨h.dispatch, consistent, restful, fun t there => ?_⟩
    rcases List.mem_append.mp there with issued | last
    · exact h.tickets t issued
    · rw [List.mem_singleton.mp last]
      exact idle
  · exact h

theorem Sound.abort (h : s.Sound dispatch) {ticket : PollTicket} (issued : ticket ∈ s.tickets) :
    (s.abort ticket).Sound dispatch := by
  obtain ⟨consistent, restful⟩ :=
    Registry.abortPollStart_keeps h.consistent h.restful (h.tickets ticket issued)
  exact ⟨h.dispatch, consistent, restful, h.tickets⟩

theorem Sound.conclude (h : s.Sound dispatch) (id : String) (outcome : PollOutcome)
    (now : Instant) : (s.step (.markPollResult id outcome now)).Sound dispatch := by
  obtain ⟨consistent, restful⟩ :=
    Registry.markPollResult_keeps h.consistent h.restful id outcome now
  refine ⟨?_, consistent, restful, h.tickets⟩
  rw [← h.dispatch]
  show (s.registry.markPollResult id outcome now).2.dispatch = s.registry.dispatch
  unfold Registry.markPollResult
  split <;> rfl

theorem Sound.step (h : s.Sound dispatch) (e : RegistryEvent) : (s.step e).Sound dispatch := by
  cases e with
  | upsert id input now => exact h.upsert id input now
  | setEnabled id enabled now => exact h.setEnabled id enabled now
  | remove id => exact h.remove id
  | markPollStart id now => exact h.claim id now
  | markPollResult id outcome now => exact h.conclude id outcome now
  | abortPollStart i =>
    cases issued : s.tickets[i]? with
    | none => simpa [RegistryTraffic.step, issued] using h
    | some ticket =>
      simpa [RegistryTraffic.step, issued] using h.abort (List.mem_of_getElem? issued)

theorem Sound.run (h : s.Sound dispatch) (events : List RegistryEvent) :
    (s.run events).Sound dispatch := by
  induction events generalizing s with
  | nil => exact h
  | cons e rest ih => exact ih (h.step e)

/-- After any events from an empty registry on, whatever polls are reported and whatever tickets are
used again: a poll in flight is of a registered connector, a connector is connecting just while it
is in flight, and it is stored under its own valid id with valid settings, an interval within
bounds, and an error just when polls have failed. -/
theorem registry_consistent (dispatch : DispatchConfig) (events : List RegistryEvent) :
    let r := (run ⟨.empty dispatch, []⟩ events).registry
    (∀ id, r.isInFlight id = true → ∃ c, r.connectors.find? id = some c) ∧
      ∀ id c, r.connectors.find? id = some c →
        (c.status = .connecting ↔ r.isInFlight id = true) ∧
        c.id = id ∧ Connector.validateId id = .ok () ∧ c.settings.validate = .ok () ∧
        dispatch.minPollIntervalSecs ≤ c.pollIntervalSecs ∧
        c.pollIntervalSecs ≤ maxPollIntervalSecs ∧
        (c.errorMessage.isSome = true ↔ 0 < c.consecutiveFailures) := by
  intro r
  have sound := (sound_empty dispatch).run events
  refine ⟨fun id flying => sound.consistent.registered flying, fun id c found => ?_⟩
  have valid := sound.consistent.valid found
  rw [sound.dispatch] at valid
  exact ⟨sound.consistent.connecting found, valid.ownId, valid.validId, valid.validSettings,
    valid.aboveFloor, valid.belowMaximum, valid.failures⟩

/-- A ticket that is used again after the next claim ends that claim, and restores a status from
before the first one. -/
example :
    let input : ConnectorInput := ⟨none, .ping { host := "10.1.1.1" }, true, none⟩
    let s := run ⟨.empty {}, []⟩
      [.upsert "edge-1" input default, .markPollStart "edge-1" default,
        .abortPollStart 0, .markPollStart "edge-1" default, .abortPollStart 0]
    s.registry.isInFlight "edge-1" = false ∧
      (s.registry.connectors.find? "edge-1").map (·.status) = some .disconnected := by
  decide +kernel

end RegistryTraffic

end DeviceWatch
