import DeviceWatch.Proofs.Alert.Transitions

/-!
# What an event does to one alert

An event leaves an alert as it is, creates it, or revises it in one of four ways: an operator acts
on it, a sweep ends its suppression, a finding is folded into it, a clear finding resolves it.  The
arcs on which the status of an alert can move are read off that list, and so is that a resolved
alert stays as it is unless resolved alerts are resumed.
-/

namespace DeviceWatch

open Correlation AlertStore

/-- The ways from one status to another. -/
def AlertStatus.arcs : List (AlertStatus × AlertStatus) := [
  (active, acknowledged), (acknowledged, active),
  (active, suppressed), (acknowledged, suppressed), (suppressed, active),
  (active, resolved), (acknowledged, resolved), (suppressed, resolved),
  (resolved, active)]

theorem AlertStatus.mem_arcs_of_mayBecome {a b : AlertStatus} (may : a.mayBecome b = true) :
    (a, b) ∈ arcs := by
  cases a <;> cases b <;> first | decide | cases may

theorem AlertStatus.mem_arcs_of_isOpen {a : AlertStatus} (isOpen : a.isOpen = true) :
    (a, resolved) ∈ arcs := by
  cases a <;> first | decide | cases isOpen

theorem AlertAction.eq_acknowledge {action : AlertAction} (target : action.target = .acknowledged) :
    action = .acknowledge := by
  cases action with
  | acknowledge => rfl
  | _ => cases target

/-- Of the two actions that make an alert active, one is for acknowledged alerts. -/
theorem AlertAction.eq_unacknowledge {action : AlertAction} {a : Alert}
    (source : action.checkSource a = .ok ()) (acknowledged : a.status = .acknowledged)
    (target : action.target = .active) : action = .unacknowledge := by
  cases action with
  | unacknowledge => rfl
  | unsuppress => simp [checkSource, requiredSource, acknowledged] at source
  | _ => cases target

theorem Correlation.reopened_status (a : Alert) :
    (reopened a).status = if a.status = .acknowledged then .acknowledged else .active := by
  unfold reopened
  cases status : a.status <;> simp [status]

namespace AlertTraffic

inductive Creates (s : AlertTraffic) : AlertEvent → Alert → Prop
  | create {i : Nat} {w : Ingester} {f : Finding} {rest : List Finding} {now : Instant}
      {id : Uuid} {next : Alert} (here : s.ingesters[i]? = some w)
      (drafted : w.stage = .planned next .created) (todo : w.todo = f :: rest)
      (occurs : f.severity ≠ .clear)
      (fresh : next = Alert.ofFinding id f.fingerprint (some w.connector) f now) :
      Creates s (.commit i) (bumped next)

inductive Revises (c : AlertConfig) (s : AlertTraffic) : AlertEvent → Alert → Alert → Prop
  | operate {action : AlertAction} {now : Instant} {old next : Alert}
      (allowed : action.applyTo now old = .ok next) :
      Revises c s (.operate old.id action now) old { next with version := old.version + 1 }
  | expire {i : Nat} {now : Instant} {ids : List Uuid} {old next : Alert}
      (here : s.sweeps[i]? = some ⟨now, ids⟩) (allowed : reactivate now old = .ok next) :
      Revises c s (.expire i) old { next with version := old.version + 1 }
  | update {i : Nat} {w : Ingester} {f : Finding} {rest : List Finding} {now : Instant}
      {old next : Alert} (here : s.ingesters[i]? = some w)
      (drafted : w.stage = .planned next .updated) (todo : w.todo = f :: rest)
      (occurs : f.severity ≠ .clear) (matching : old.fingerprint = f.fingerprint)
      (reopens : old.status = .resolved → c.reopenPolicy = .resume)
      (refreshed : next = refresh (reopened old) w.connector f now) :
      Revises c s (.commit i) old (bumped next)
  | resolve {i : Nat} {w : Ingester} {f : Finding} {rest : List Finding} {now : Instant}
      {old next : Alert} (here : s.ingesters[i]? = some w)
      (drafted : w.stage = .planned next .resolved) (todo : w.todo = f :: rest)
      (ends : f.severity = .clear) (matching : old.fingerprint = f.fingerprint)
      (wasOpen : old.status.isOpen = true) (clears : next = cleared old f now) :
      Revises c s (.commit i) old (bumped next)

inductive RecordStep (c : AlertConfig) (s : AlertTraffic) (e : AlertEvent) :
    Option Alert → Option Alert → Prop
  | same {record : Option Alert} : RecordStep c s e record record
  | created {new : Alert} (creates : s.Creates e new) : RecordStep c s e none (some new)
  | revised {old new : Alert} (revises : Revises c s e old new) :
      RecordStep c s e (some old) (some new)

variable {c : AlertConfig} {s t : AlertTraffic} {e : AlertEvent}

theorem Transition.record (h : Transition c s e t) (sound : Sound c s) (id : Uuid) :
    RecordStep c s e (s.store.records.find? id) (t.store.records.find? id) := by
  -- A write to another record leaves this one as it is.
  have put {k : Uuid} {old new : Alert} (stored : s.store.records.find? k = some old)
      (revises : Revises c s e old new) :
      RecordStep c s e (s.store.records.find? id) ((s.store.put k new).records.find? id) := by
    rw [find?_put]
    split
    · rename_i same
      rw [same, stored]
      exact .revised revises
    · exact .same
  cases h with
  | @accept i w f rest next applied b store here drafted todo done committed =>
    cases committed with
    | @created now k _ occurs absent closed fresh =>
      have sameId : (bumped next).id = k := fresh ▸ rfl
      rw [find?_add, sameId]
      split
      · rename_i same
        rw [same, absent]
        exact .created (.create here drafted todo occurs fresh)
      · exact .same
    | updated occurs stored matching reopens refreshed =>
      exact put stored (.update here drafted todo occurs matching reopens refreshed)
    | resolved ends stored matching wasOpen clears =>
      exact put stored (.resolve here drafted todo ends matching wasOpen clears)
  | @operate k action now old next stored allowed =>
    obtain rfl := sound.coherent.own_id stored
    exact put stored (.operate allowed)
  | expire here stored allowed => exact put stored (.expire here allowed)
  | _ => exact .same

theorem Transition.exists_record (h : Transition c s e t) (sound : Sound c s) {id : Uuid}
    {old : Alert} (stored : s.store.records.find? id = some old) :
    ∃ new, t.store.records.find? id = some new ∧ (new = old ∨ Revises c s e old new) := by
  have change := h.record sound id
  rw [stored] at change
  generalize there : t.store.records.find? id = record at change
  cases change with
  | same => exact ⟨old, rfl, .inl rfl⟩
  | revised revises => exact ⟨_, rfl, .inr revises⟩

theorem Sound.exists_record_run (sound : Sound c s) {id : Uuid} {old : Alert}
    (stored : s.store.records.find? id = some old) (later : List AlertEvent) :
    ∃ new, (run c s later).store.records.find? id = some new := by
  induction later generalizing s old with
  | nil => exact ⟨old, stored⟩
  | cons e rest ih =>
    obtain ⟨new, there, -⟩ := (sound.transition_step e).exists_record sound stored
    exact ih (sound_step sound e) there

/-- How the status of an alert moves in an event, and who can move it. -/
structure StatusMoves (c : AlertConfig) (s : AlertTraffic) (e : AlertEvent) (old new : Alert) :
    Prop where
  arc : new.status = old.status ∨ (old.status, new.status) ∈ AlertStatus.arcs
  acknowledged : old.status ≠ .acknowledged → new.status = .acknowledged →
    ∃ now, e = .operate old.id .acknowledge now
  unacknowledged : old.status = .acknowledged → new.status = .active →
    ∃ now, e = .operate old.id .unacknowledge now
  resumed : old.status = .resolved → new.status = .active →
    c.reopenPolicy = .resume ∧ ∃ i w next f rest, e = .commit i ∧ s.ingesters[i]? = some w ∧
      w.stage = .planned next .updated ∧ w.todo = f :: rest ∧ f.severity ≠ .clear ∧
      f.fingerprint = old.fingerprint

theorem statusMoves_refl (a : Alert) : StatusMoves c s e a a where
  arc := .inl rfl
  acknowledged other same := absurd same other
  unacknowledged acknowledged active := by simp [acknowledged] at active
  resumed resolved active := by simp [resolved] at active

theorem Revises.statusMoves {old new : Alert} (h : Revises c s e old new) :
    StatusMoves c s e old new := by
  cases h with
  | @operate action now _ next allowed =>
    have may := (AlertAction.adjusts allowed).status
    obtain ⟨source, -, -, rfl⟩ := AlertAction.applyTo_eq_ok allowed
    constructor
    · exact .inr (AlertStatus.mem_arcs_of_mayBecome may)
    · intro _ acknowledged
      obtain rfl := AlertAction.eq_acknowledge acknowledged
      exact ⟨now, rfl⟩
    · intro acknowledged active
      obtain rfl := AlertAction.eq_unacknowledge source acknowledged active
      exact ⟨now, rfl⟩
    · intro resolved _
      simp [resolved, AlertStatus.mayBecome] at may
  | expire here allowed =>
    obtain ⟨suppressed, -, rfl⟩ := reactivate_eq_ok allowed
    constructor
    · simp [suppressed, AlertStatus.arcs]
    · intro _ acknowledged
      cases acknowledged
    · simp [suppressed]
    · simp [suppressed]
  | @update i w f rest now _ next here drafted todo occurs matching reopens refreshed =>
    have status : (bumped next).status =
        if old.status = .acknowledged then .acknowledged else .active :=
      refreshed ▸ reopened_status old
    constructor
    · rw [status]
      cases old.status <;> decide
    · intro other acknowledged
      simp [status, other] at acknowledged
    · intro acknowledged active
      simp [status, acknowledged] at active
    · intro resolved _
      exact ⟨reopens resolved, i, w, next, f, rest, rfl, here, drafted, todo, occurs, matching.symm⟩
  | @resolve i w f rest now _ next here drafted todo ends matching wasOpen clears =>
    have resolved : (bumped next).status = .resolved := clears ▸ rfl
    constructor
    · rw [resolved]
      exact .inr (AlertStatus.mem_arcs_of_isOpen wasOpen)
    · simp [resolved]
    · simp [resolved]
    · simp [resolved]

/-- Unless resolved alerts are resumed, nothing revises one. -/
theorem Revises.not_resolved {old new : Alert} (h : Revises c s e old new)
    (kept : c.reopenPolicy = .newIncident) : old.status ≠ .resolved := by
  intro resolved
  cases h with
  | operate allowed =>
    have may := (AlertAction.adjusts allowed).status
    simp [resolved, AlertStatus.mayBecome] at may
  | expire here allowed =>
    obtain ⟨suppressed, -, -⟩ := reactivate_eq_ok allowed
    simp [resolved] at suppressed
  | update here drafted todo occurs matching reopens refreshed =>
    have resume := reopens resolved
    rw [kept] at resume
    cases resume
  | resolve here drafted todo ends matching wasOpen clears =>
    exact AlertStatus.isOpen_iff.mp wasOpen resolved

theorem Sound.resolved_run (sound : Sound c s) (kept : c.reopenPolicy = .newIncident) {id : Uuid}
    {a : Alert} (stored : s.store.records.find? id = some a) (resolved : a.status = .resolved)
    (later : List AlertEvent) : (run c s later).store.records.find? id = some a := by
  induction later generalizing s with
  | nil => exact stored
  | cons e rest ih =>
    obtain ⟨new, there, same | revises⟩ := (sound.transition_step e).exists_record sound stored
    · exact ih (sound_step sound e) (same ▸ there)
    · exact absurd resolved (revises.not_resolved kept)

/-- In every state of any traffic: no alert that is stored is ever removed, an event moves the
status of an alert on an arc or not at all, and it takes an operator to acknowledge an alert or to
take that back, and an occurrence and the policy to resume alerts to make a resolved one active.  If
resolved alerts are not resumed, they never change again. -/
theorem status_moves_on_arcs (c : AlertConfig) (events : List AlertEvent) :
    let s := after c events
    ∀ id old, s.store.records.find? id = some old →
      (∀ e, ∃ new, (step c s e).store.records.find? id = some new ∧ StatusMoves c s e old new) ∧
      ∀ later,
        (∃ new, (run c s later).store.records.find? id = some new) ∧
        (c.reopenPolicy = .newIncident → old.status = .resolved →
          (run c s later).store.records.find? id = some old) := by
  intro s id old stored
  have sound : Sound c s := sound_after c events
  refine ⟨fun e => ?_, fun later => ⟨sound.exists_record_run stored later,
    fun kept resolved => sound.resolved_run kept stored resolved later⟩⟩
  obtain ⟨new, there, same | revises⟩ := (sound.transition_step e).exists_record sound stored
  · subst same
    exact ⟨new, there, statusMoves_refl new⟩
  · exact ⟨new, there, revises.statusMoves⟩

def resolvedOnce : List AlertEvent :=
  [.arrive "a" [highCpu], .read 0, .plan 0 default ⟨1⟩, .commit 0, .operate ⟨1⟩ .resolve default]

def foundAgain : List AlertEvent :=
  [.arrive "b" [highCpu], .read 1, .plan 1 default ⟨2⟩, .commit 1]

/-- A new alert is made beside the resolved one, which stays as it is. -/
theorem status_moves_foundAgain :
    let s := after {} resolvedOnce
    ∃ old, s.store.records.find? ⟨1⟩ = some old ∧ old.status = .resolved ∧
      (run {} s foundAgain).store.size = 2 ∧
      (run {} s foundAgain).store.records.find? ⟨1⟩ = some old := by
  intro s
  have status : (s.store.records.find? ⟨1⟩).map (·.status) = some .resolved := by decide +kernel
  obtain ⟨old, stored, resolved⟩ := Option.map_eq_some_iff.mp status
  obtain ⟨-, frozen⟩ := (status_moves_on_arcs {} resolvedOnce ⟨1⟩ old stored).2 foundAgain
  exact ⟨old, stored, resolved, by decide +kernel, frozen rfl resolved⟩

/-- Where alerts are resumed, the resolved one becomes active. -/
example :
    let s := run ⟨.resume, 5⟩ (after ⟨.resume, 5⟩ resolvedOnce) foundAgain
    s.store.alerts.map (fun a => (a.id, a.status)) = [(⟨1⟩, .active)] := by
  decide +kernel

end AlertTraffic

end DeviceWatch
