import DeviceWatch.Connector.Registry

/-!
# Polls in flight

A claim puts one connector in flight that was not, undoing the claim or reporting the result takes
it out again, and requests that configure connectors leave the polls in flight alone.
-/

namespace DeviceWatch.Registry

def OwnIds (r : Registry) : Prop := ∀ id c, r.connectors.find? id = some c → c.id = id

theorem ownIds_empty (dispatch : DispatchConfig) : (empty dispatch).OwnIds := by
  intro id c found
  simp [empty] at found

@[simp] theorem isInFlight_empty (dispatch : DispatchConfig) (id : String) :
    (empty dispatch).isInFlight id = false := rfl

theorem isInFlight_eq_isSome (r : Registry) (id : String) :
    r.isInFlight id = (r.inFlight.find? id).isSome := OrderedMap.contains_eq_isSome _ _

theorem isInFlight_eq_false_iff {r : Registry} {id : String} :
    r.isInFlight id = false ↔ r.inFlight.find? id = none := by
  rw [isInFlight_eq_isSome, Option.isSome_eq_false_iff, Option.isNone_iff_eq_none]

theorem get_eq_ok_iff {r : Registry} {id : String} {c : Connector} :
    r.get id = .ok c ↔ r.connectors.find? id = some c := by
  unfold get
  cases r.connectors.find? id <;> simp

theorem OwnIds.insert {r r' : Registry} (h : r.OwnIds) {id : String} {c : Connector}
    (written : r'.connectors = r.connectors.insert id c) (ownId : c.id = id) : r'.OwnIds := by
  intro k d found
  rw [written, OrderedMap.find?_insert] at found
  split at found
  · rename_i same
    cases found
    exact ownId.trans same.symm
  · exact h k d found

theorem OwnIds.modify {r r' : Registry} (h : r.OwnIds) {id : String} {f : Connector → Connector}
    (written : r'.connectors = r.connectors.modify id f) (sameId : ∀ c, (f c).id = c.id) :
    r'.OwnIds := by
  intro k d found
  rw [written, OrderedMap.find?_modify] at found
  split at found
  · obtain ⟨c, stored, rfl⟩ := Option.map_eq_some_iff.mp found
    exact (sameId c).trans (h k c stored)
  · exact h k d found

variable {r r' : Registry} {id : String} {c : Connector} {now : Instant}

theorem OwnIds.mem_list (own : r.OwnIds) :
    c ∈ r.list (some true) ↔ r.connectors.find? c.id = some c ∧ c.enabled = true := by
  simp only [list, all, List.mem_filter, OrderedMap.mem_values_iff, beq_iff_eq]
  refine and_congr_left fun _ => ⟨?_, fun found => ⟨_, found⟩⟩
  rintro ⟨id, found⟩
  rwa [own id c found]

theorem OwnIds.nodup_list (own : r.OwnIds) (enabled : Option Bool) :
    ((r.list enabled).map (·.id)).Nodup :=
  OrderedMap.nodup_filter_values own _

theorem toConnector_eq {input : ConnectorInput} {dispatch : DispatchConfig}
    (done : input.toConnector id dispatch now = .ok c) :
    Connector.validateId id = .ok () ∧ input.settings.validate = .ok () ∧
      Connector.validateInterval c.pollIntervalSecs dispatch.minPollIntervalSecs = .ok () ∧
      c = {
        id := id
        name := input.name.getD id
        settings := input.settings
        enabled := input.enabled
        pollIntervalSecs := input.pollIntervalSecs.getD dispatch.defaultPollIntervalSecs
        lastPollAt := none
        status := .disconnected
        errorMessage := none
        consecutiveFailures := 0
        createdAt := now
        updatedAt := now } := by
  unfold ConnectorInput.toConnector at done
  cases validId : Connector.validateId id with
  | error e => simp [validId, bind, Except.bind] at done
  | ok _ =>
    cases validSettings : input.settings.validate with
    | error e => simp [validId, validSettings, bind, Except.bind] at done
    | ok _ =>
      simp only [validId, validSettings, bind, Except.bind, pure, Except.pure] at done
      split at done
      · cases done
      · rename_i validInterval
        cases done
        exact ⟨rfl, rfl, validInterval, rfl⟩

theorem toConnector_id {input : ConnectorInput} {dispatch : DispatchConfig}
    (done : input.toConnector id dispatch now = .ok c) : c.id = id := by
  obtain ⟨-, -, -, rfl⟩ := toConnector_eq done
  rfl

def replacing (old? : Option Connector) (fresh : Connector) : Connector :=
  old?.elim fresh fun old => carryHistory old fresh

theorem upsert_eq_map (r : Registry) (id : String) (input : ConnectorInput) (now : Instant) :
    r.upsert id input now = (input.toConnector id r.dispatch now).map fun fresh =>
      let c := replacing (r.connectors.find? id) fresh
      (c, { r with connectors := r.connectors.insert id c }) := by
  unfold upsert replacing
  cases input.toConnector id r.dispatch now with
  | error e => rfl
  | ok fresh => cases r.connectors.find? id <;> rfl

theorem upsert_eq {input : ConnectorInput} (done : r.upsert id input now = .ok (c, r')) :
    ∃ fresh, input.toConnector id r.dispatch now = .ok fresh ∧
      c = (match r.connectors.find? id with
        | some old => carryHistory old fresh
        | none => fresh) ∧
      r' = { r with connectors := r.connectors.insert id c } := by
  unfold upsert at done
  cases built : input.toConnector id r.dispatch now with
  | error e => simp [built, bind, Except.bind] at done
  | ok fresh =>
    simp only [built, bind, Except.bind, pure, Except.pure, Except.ok.injEq, Prod.mk.injEq] at done
    obtain ⟨rfl, rfl⟩ := done
    exact ⟨fresh, rfl, rfl, rfl⟩

theorem upsert_eq_ok {input : ConnectorInput} (done : r.upsert id input now = .ok (c, r')) :
    r'.inFlight = r.inFlight ∧ (r.OwnIds → r'.OwnIds) := by
  obtain ⟨fresh, built, chosen, rfl⟩ := upsert_eq done
  refine ⟨rfl, fun own => own.insert rfl ?_⟩
  have ownId := toConnector_id built
  rw [chosen]
  split
  · exact ownId
  · exact ownId

theorem setEnabled_eq_map (r : Registry) (id : String) (enabled : Bool) (now : Instant) :
    r.setEnabled id enabled now = (r.get id).map fun old =>
      let c := { old with enabled := enabled, updatedAt := now }
      (c, { r with connectors := r.connectors.insert id c }) := by
  unfold setEnabled
  cases r.get id <;> rfl

theorem setEnabled_eq {enabled : Bool} (done : r.setEnabled id enabled now = .ok (c, r')) :
    ∃ old, r.connectors.find? id = some old ∧
      c = { old with enabled := enabled, updatedAt := now } ∧
      r' = { r with connectors := r.connectors.insert id c } := by
  unfold setEnabled at done
  cases found : r.get id with
  | error e => simp [found, bind, Except.bind] at done
  | ok old =>
    simp only [found, bind, Except.bind, pure, Except.pure, Except.ok.injEq, Prod.mk.injEq] at done
    obtain ⟨rfl, rfl⟩ := done
    exact ⟨old, get_eq_ok_iff.mp found, rfl, rfl⟩

theorem setEnabled_eq_ok {enabled : Bool} (done : r.setEnabled id enabled now = .ok (c, r')) :
    r'.inFlight = r.inFlight ∧ (r.OwnIds → r'.OwnIds) := by
  obtain ⟨old, found, rfl, rfl⟩ := setEnabled_eq done
  refine ⟨rfl, fun own => own.insert rfl ?_⟩
  exact own id old found

theorem remove_eq (done : r.remove id = .ok (c, r')) :
    r.isInFlight id = false ∧ r.connectors.find? id = some c ∧
      r' = { r with connectors := r.connectors.erase id } := by
  unfold remove at done
  cases busy : r.isInFlight id with
  | true => simp [busy] at done
  | false =>
    cases found : r.get id with
    | error e => simp [busy, found, bind, Except.bind] at done
    | ok old =>
      simp only [busy, found, Bool.false_eq_true, if_false, bind, Except.bind, pure, Except.pure,
        Except.ok.injEq, Prod.mk.injEq] at done
      obtain ⟨rfl, rfl⟩ := done
      exact ⟨rfl, get_eq_ok_iff.mp found, rfl⟩

theorem remove_eq_ok (done : r.remove id = .ok (c, r')) :
    r'.inFlight = r.inFlight ∧ (r.OwnIds → r'.OwnIds) := by
  obtain ⟨-, -, rfl⟩ := remove_eq done
  refine ⟨rfl, fun own k d present => own k d ?_⟩
  rw [OrderedMap.find?_erase] at present
  split at present
  · cases present
  · exact present

theorem markPollStart_eq {ticket : PollTicket}
    (done : r.markPollStart id now = .ok (ticket, c, r')) :
    r.isInFlight id = false ∧ ∃ old, r.connectors.find? id = some old ∧ old.enabled = true ∧
      ticket = ⟨id, old.lastPollAt, old.status⟩ ∧
      c = { old with lastPollAt := some now, status := .connecting } ∧
      r' = { r with
        connectors := r.connectors.insert id c
        inFlight := r.inFlight.insert id old.status } := by
  unfold markPollStart at done
  cases found : r.get id with
  | error e => simp [found, bind, Except.bind] at done
  | ok old =>
    cases enabled : old.enabled with
    | false => simp [found, enabled, bind, Except.bind] at done
    | true =>
      cases busy : r.isInFlight id with
      | true => simp [found, enabled, busy, bind, Except.bind] at done
      | false =>
        simp only [found, enabled, busy, Bool.not_true, Bool.false_eq_true, if_false, bind,
          Except.bind, pure, Except.pure, Except.ok.injEq, Prod.mk.injEq] at done
        obtain ⟨rfl, rfl, rfl⟩ := done
        exact ⟨rfl, old, get_eq_ok_iff.mp found, enabled, rfl, by rw [enabled], rfl⟩

theorem markPollStart_eq_ok {ticket : PollTicket}
    (done : r.markPollStart id now = .ok (ticket, c, r')) :
    r.isInFlight id = false ∧ ticket.connectorId = id ∧
      (r.OwnIds → c.id = id ∧ r'.OwnIds) ∧
      ∀ k, r'.isInFlight k = (k = id || r.isInFlight k) := by
  obtain ⟨free, old, found, -, rfl, rfl, rfl⟩ := markPollStart_eq done
  refine ⟨free, rfl, fun own => ?_, fun k => ?_⟩
  · have ownId := own id old found
    refine ⟨ownId, own.insert rfl ?_⟩
    exact ownId
  · exact OrderedMap.contains_insert r.inFlight id k old.status

/-- Undoing a claim restores the registry, if nothing happened in between. -/
theorem abortPollStart_markPollStart {ticket : PollTicket}
    (done : r.markPollStart id now = .ok (ticket, c, r')) : r'.abortPollStart ticket = r := by
  obtain ⟨free, old, found, -, rfl, rfl, rfl⟩ := markPollStart_eq done
  have unclaimed := isInFlight_eq_false_iff.mp free
  simp only [abortPollStart]
  rw [OrderedMap.modify_insert found rfl, OrderedMap.erase_insert_of_absent unclaimed]

theorem abortPollStart_isInFlight (r : Registry) (ticket : PollTicket) (k : String) :
    (r.abortPollStart ticket).isInFlight k = (k ≠ ticket.connectorId && r.isInFlight k) :=
  OrderedMap.contains_erase r.inFlight ticket.connectorId k

theorem OwnIds.abortPollStart (h : r.OwnIds) (ticket : PollTicket) :
    (r.abortPollStart ticket).OwnIds := by
  have written : (r.abortPollStart ticket).connectors = r.connectors.modify ticket.connectorId
      fun c => { c with lastPollAt := ticket.previousPollAt, status := ticket.previousStatus } :=
    rfl
  exact h.modify written fun _ => rfl

theorem markPollResult_isInFlight (r : Registry) (id : String) (outcome : PollOutcome)
    (now : Instant) (k : String) :
    (r.markPollResult id outcome now).2.isInFlight k = (k ≠ id && r.isInFlight k) := by
  have erased := OrderedMap.contains_erase r.inFlight id k
  unfold markPollResult
  split <;> exact erased

theorem OwnIds.markPollResult (h : r.OwnIds) (id : String) (outcome : PollOutcome)
    (now : Instant) : (r.markPollResult id outcome now).2.OwnIds := by
  unfold Registry.markPollResult
  split
  · exact h
  · refine h.modify rfl fun c => ?_
    unfold recordOutcome
    split <;> rfl

end DeviceWatch.Registry
