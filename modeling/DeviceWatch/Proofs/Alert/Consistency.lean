import DeviceWatch.Proofs.Alert.Revisions

/-!
# The fields of an alert agree

The status of an alert, its times and its counts are kept by hand wherever an alert is changed.
Each way of changing an alert keeps them in agreement, given that the clock does not go back.  Since
a plan reads the clock after it has read the alert, and is accepted only if the alert is as it was
read, no update comes before the first occurrence.  A sweep may be given any time: it ends a
suppression whose end has come, and that lies after the last update.
-/

namespace DeviceWatch

open Correlation AlertStore

namespace Alert

structure Consistent (a : Alert) : Prop where
  occurred : 1 ≤ a.occurrenceCount
  written : 1 ≤ a.version
  severity : a.severity ≠ .clear
  resolvedAt : a.resolvedAt = if a.status = .resolved then some a.updatedAt else none
  suppressedUntil : a.suppressedUntil ≠ none → a.status = .suppressed
  acknowledgedAt : a.status = .acknowledged → a.acknowledgedAt ≠ none
  ordered : a.occurredAt ≤ a.updatedAt

/-- An alert that has occurred by the time `clock`, and whose suppression ends after it began. -/
structure Upright (clock : Instant) (a : Alert) : Prop extends a.Consistent where
  past : a.occurredAt ≤ clock
  window : ∀ stop, a.suppressedUntil = some stop → a.updatedAt < stop

variable {clock now : Instant} {a b : Alert} {f : Finding}

theorem Upright.later (h : a.Upright clock) (le : clock ≤ now) : a.Upright now :=
  { h with past := Std.le_trans h.past le }

theorem upright_ofFinding (id : Uuid) (fp : String) (connector : Option String)
    (occurs : f.severity ≠ .clear) (le : now ≤ clock) :
    (bumped (ofFinding id fp connector f now)).Upright clock where
  occurred := Nat.le_refl 1
  written := Nat.le_refl 1
  severity := occurs
  resolvedAt := rfl
  suppressedUntil suppressed := absurd rfl suppressed
  acknowledgedAt acknowledged := nomatch acknowledged
  ordered := Std.le_refl now
  past := le
  window _ suppressed := nomatch suppressed

theorem Upright.cleared (h : a.Upright clock) (ordered : a.occurredAt ≤ now) :
    (bumped (cleared a f now)).Upright clock where
  occurred := h.occurred
  written := Nat.le_add_left 1 _
  severity := h.severity
  resolvedAt := rfl
  suppressedUntil suppressed := absurd rfl suppressed
  acknowledgedAt acknowledged := nomatch acknowledged
  ordered := ordered
  past := h.past
  window _ suppressed := nomatch suppressed

theorem Consistent.reopened (h : a.Consistent) :
    (reopened a).resolvedAt = none ∧ (reopened a).suppressedUntil = none ∧
      (reopened a).status ≠ .resolved ∧
      ((reopened a).status = .acknowledged → (reopened a).acknowledgedAt ≠ none) := by
  have resolvedAt := h.resolvedAt
  have suppressedUntil := mt h.suppressedUntil
  have acknowledgedAt := h.acknowledgedAt
  unfold Correlation.reopened
  cases status : a.status <;> simp_all

theorem Upright.refreshed (h : a.Upright clock) (occurs : f.severity ≠ .clear)
    (ordered : a.occurredAt ≤ now) (connector : String) :
    (bumped (refresh (reopened a) connector f now)).Upright clock := by
  obtain ⟨resolvedAt, suppressedUntil, notResolved, acknowledgedAt⟩ := h.toConsistent.reopened
  constructor
  case toConsistent =>
    constructor
    · exact Nat.le_add_left 1 _
    · exact Nat.le_add_left 1 _
    · exact occurs
    · exact resolvedAt.trans (if_neg notResolved).symm
    · exact fun suppressed => absurd suppressedUntil suppressed
    · exact acknowledgedAt
    · exact (reopened_occurredAt a).symm ▸ ordered
  · exact (reopened_occurredAt a).symm ▸ h.past
  · exact fun stop suppressed => nomatch suppressedUntil.symm.trans suppressed

theorem exists_stop_of_lapsed (suppressed : a.status = .suppressed)
    (lapsed : a.suppressionActive now = false) :
    ∃ stop, a.suppressedUntil = some stop ∧ stop ≤ now := by
  unfold suppressionActive at lapsed
  cases stop : a.suppressedUntil with
  | none => simp [suppressed, stop] at lapsed
  | some stop' =>
    simp only [suppressed, stop, decide_true, Bool.true_and, decide_eq_false_iff_not] at lapsed
    exact ⟨stop', rfl, Std.not_lt.mp lapsed⟩

theorem Upright.reactivated (h : a.Upright clock) (allowed : reactivate now a = .ok b) :
    ({ b with version := a.version + 1 } : Alert).Upright clock := by
  obtain ⟨suppressed, lapsed, rfl⟩ := reactivate_eq_ok allowed
  obtain ⟨stop, until', passed⟩ := exists_stop_of_lapsed suppressed lapsed
  have resolvedAt := h.resolvedAt
  rw [if_neg (by simp [suppressed])] at resolvedAt
  have begun : a.occurredAt < stop := Int.lt_of_le_of_lt h.ordered (h.window stop until')
  exact {
    occurred := h.occurred
    written := Nat.le_add_left 1 _
    severity := h.severity
    resolvedAt := resolvedAt
    suppressedUntil := fun suppressed => absurd rfl suppressed
    acknowledgedAt := fun acknowledged => nomatch acknowledged
    ordered := Std.le_trans (Std.le_of_lt begun) passed
    past := h.past
    window := fun _ suppressed => nomatch suppressed }

/-- What an action leaves on an alert fits the status that it gives it. -/
theorem Consistent.stamped {action : AlertAction} (h : a.Consistent) (now : Instant)
    (source : action.checkSource a = .ok ()) (may : a.status.mayBecome action.target = true) :
    (action.stamp now a).resolvedAt = (if action.target = .resolved then some now else none) ∧
      ((action.stamp now a).suppressedUntil ≠ none → action.target = .suppressed) ∧
      (action.target = .acknowledged → (action.stamp now a).acknowledgedAt ≠ none) := by
  have isOpen := AlertStatus.isOpen_iff.mp (AlertStatus.isOpen_of_mayBecome may)
  have resolvedAt := h.resolvedAt
  rw [if_neg isOpen] at resolvedAt
  have suppressedUntil := mt h.suppressedUntil
  cases action with
  | acknowledge =>
    have notSuppressed : a.status ≠ .suppressed := by
      intro suppressed
      simp [suppressed, AlertAction.target, AlertStatus.mayBecome] at may
    simpa [AlertAction.stamp, AlertAction.target, resolvedAt] using suppressedUntil notSuppressed
  | unacknowledge =>
    have notSuppressed : a.status ≠ .suppressed := by
      intro suppressed
      simp [suppressed, AlertAction.checkSource, AlertAction.requiredSource] at source
    simpa [AlertAction.stamp, AlertAction.target, resolvedAt] using suppressedUntil notSuppressed
  | _ => simp [AlertAction.stamp, AlertAction.target, resolvedAt]

theorem lt_of_checkEnd {stop : Instant}
    (ended : (AlertAction.suppress (some stop)).checkEnd now = .ok ()) : now < stop := by
  simp only [AlertAction.checkEnd] at ended
  split at ended
  · cases ended
  · rename_i later
    exact Std.not_le.mp later

theorem Upright.operated {action : AlertAction} (h : a.Upright now)
    (allowed : action.applyTo now a = .ok b) :
    ({ b with version := a.version + 1 } : Alert).Upright now := by
  obtain ⟨source, may, ended, rfl⟩ := AlertAction.applyTo_eq_ok allowed
  obtain ⟨resolvedAt, suppressedUntil, acknowledgedAt⟩ := h.toConsistent.stamped now source may
  have unchanged : (action.stamp now a).occurrenceCount = a.occurrenceCount ∧
      (action.stamp now a).severity = a.severity ∧
      (action.stamp now a).occurredAt = a.occurredAt := by
    cases action <;> exact ⟨rfl, rfl, rfl⟩
  obtain ⟨occurred, severity, occurredAt⟩ := unchanged
  have window (stop : Instant) (until' : (action.stamp now a).suppressedUntil = some stop) :
      now < stop := by
    have target := suppressedUntil (by simp [until'])
    cases action with
    | suppress until'' =>
      cases until'
      exact lt_of_checkEnd ended
    | _ => cases target
  exact {
    occurred := occurred.symm ▸ h.occurred
    written := Nat.le_add_left 1 _
    severity := severity.symm ▸ h.severity
    resolvedAt := resolvedAt
    suppressedUntil := suppressedUntil
    acknowledgedAt := acknowledgedAt
    ordered := occurredAt.symm ▸ h.past
    past := occurredAt.symm ▸ h.past
    window := window }

end Alert

/-- What an ingester or an operator reads off the clock. -/
def AlertEvent.reading? : AlertEvent → Option Instant
  | .plan _ now _ | .operate _ _ now => some now
  | _ => none

/-- What an ingester holds is not from after `clock`, and a plan does not go back in time. -/
def Ingester.Timely (clock : Instant) (w : Ingester) : Prop :=
  match w.stage with
  | .read (some a) => a.occurredAt ≤ clock
  | .planned next _ => next.occurredAt ≤ next.updatedAt ∧ next.occurredAt ≤ clock
  | _ => True

theorem Ingester.Timely.later {clock now : Instant} {w : Ingester} (h : w.Timely clock)
    (le : clock ≤ now) : w.Timely now := by
  unfold Timely at h ⊢
  split
  · rename_i a stage
    simp only [stage] at h
    exact Std.le_trans h le
  · rename_i next applied stage
    simp only [stage] at h
    exact ⟨h.1, Std.le_trans h.2 le⟩
  · trivial

theorem Ingester.timely_of_ready {clock : Instant} {w : Ingester} (ready : w.stage = .ready) :
    w.Timely clock := by
  unfold Timely
  rw [ready]
  trivial

namespace AlertTraffic

/-- No reading of the clock comes before an earlier one.  Sweeps are given their times. -/
def InOrder (events : List AlertEvent) : Prop :=
  (events.filterMap AlertEvent.reading?).Pairwise (· ≤ ·)

instance (events : List AlertEvent) : Decidable (InOrder events) :=
  inferInstanceAs (Decidable ((events.filterMap AlertEvent.reading?).Pairwise (· ≤ ·)))

structure Timely (clock : Instant) (s : AlertTraffic) : Prop where
  stored : ∀ {id a}, s.store.records.find? id = some a → a.Upright clock
  ingesters : ∀ w ∈ s.ingesters, w.Timely clock

variable {c : AlertConfig} {s t : AlertTraffic} {e : AlertEvent} {clock now : Instant}

theorem timely_start (clock : Instant) : Timely clock {} :=
  ⟨fun {_ _} found => (nomatch found), by simp⟩

theorem Timely.later (h : s.Timely clock) (le : clock ≤ now) : s.Timely now :=
  ⟨fun found => (h.stored found).later le, fun w there => (h.ingesters w there).later le⟩

theorem Timely.planned (h : s.Timely clock) {w : Ingester} (there : w ∈ s.ingesters)
    {f : Finding} {latest : Option Alert} {id : Uuid} {next : Alert} {applied : Applied}
    (known : w.stage = .read latest)
    (planned : Correlation.plan c.reopenPolicy w.connector f.fingerprint latest f clock id =
      some (next, applied)) : next.occurredAt ≤ next.updatedAt ∧ next.occurredAt ≤ clock := by
  have timely := h.ingesters w there
  unfold Ingester.Timely at timely
  rw [known] at timely
  rcases plan_eq_some planned with ⟨-, -, -, rfl⟩ | ⟨a, rfl, -, -, -, rfl⟩ | ⟨a, rfl, -, -, -, rfl⟩
  · exact ⟨Std.le_refl clock, Std.le_refl clock⟩
  · have past : (reopened a).occurredAt ≤ clock := (reopened_occurredAt a).symm ▸ timely
    exact ⟨past, past⟩
  · exact ⟨timely, timely⟩

theorem Transition.timely_ingesters (h : Transition c s e t) (timely : s.Timely clock)
    (reads : ∀ now, e.reading? = some now → now = clock) : ∀ w ∈ t.ingesters, w.Timely clock := by
  have before := timely.ingesters
  -- One ingester is turned, and the others stay.
  have turned {i : Nat} {w' : Ingester} (timely : w'.Timely clock) :
      ∀ w ∈ s.ingesters.set i w', w.Timely clock := by
    intro w there
    rcases List.mem_or_eq_of_mem_set there with old | rfl
    · exact before w old
    · exact timely
  cases h with
  | arrive =>
    intro w there
    rcases List.mem_append.mp there with old | new
    · exact before w old
    · obtain rfl := List.mem_singleton.mp new
      exact Ingester.timely_of_ready rfl
  | @read i w f rest here ready todo =>
    refine turned ?_
    cases latest : s.store.latestFor f.fingerprint with
    | none => trivial
    | some a =>
      obtain ⟨id, -, found⟩ := latestFor_eq_some_iff.mp latest
      exact (timely.stored found).past
  | plan here known todo planned =>
    obtain rfl := reads _ rfl
    exact turned (timely.planned (List.mem_of_getElem? here) known planned)
  | ignore | accept => exact turned (Ingester.timely_of_ready rfl)
  | conflict => exact turned (Ingester.timely_of_ready (Ingester.retry_stage c _))
  | _ => exact before

theorem Timely.drafted (h : s.Timely clock) {i : Nat} {w : Ingester} {next : Alert}
    {applied : Applied} (here : s.ingesters[i]? = some w)
    (drafted : w.stage = .planned next applied) :
    next.occurredAt ≤ next.updatedAt ∧ next.occurredAt ≤ clock := by
  have timely := h.ingesters w (List.mem_of_getElem? here)
  unfold Ingester.Timely at timely
  rwa [drafted] at timely

theorem Timely.creates (h : s.Timely clock) {new : Alert} (creates : s.Creates e new) :
    new.Upright clock := by
  cases creates with
  | create here drafted todo occurs fresh =>
    subst fresh
    exact Alert.upright_ofFinding _ _ _ occurs (h.drafted here drafted).2

theorem Timely.revises (h : s.Timely clock) {old new : Alert} (upright : old.Upright clock)
    (reads : ∀ now, e.reading? = some now → now = clock) (revises : Revises c s e old new) :
    new.Upright clock := by
  cases revises with
  | operate allowed =>
    obtain rfl := reads _ rfl
    exact upright.operated allowed
  | expire here allowed => exact upright.reactivated allowed
  | update here drafted todo occurs matching reopens refreshed =>
    subst refreshed
    have ordered := (h.drafted here drafted).1
    exact upright.refreshed occurs (reopened_occurredAt old ▸ ordered) _
  | resolve here drafted todo ends matching wasOpen clears =>
    subst clears
    exact upright.cleared (h.drafted here drafted).1

theorem Transition.timely (h : Transition c s e t) (sound : Sound c s) (timely : s.Timely clock)
    (reads : ∀ now, e.reading? = some now → now = clock) : t.Timely clock := by
  refine ⟨fun {id a} found => ?_, h.timely_ingesters timely reads⟩
  have change := h.record sound id
  rw [found] at change
  generalize stored : s.store.records.find? id = record at change
  cases change with
  | same => exact timely.stored stored
  | created creates => exact timely.creates creates
  | revised revises => exact timely.revises (timely.stored stored) reads revises

theorem Timely.run {events : List AlertEvent} (h : s.Timely clock) (sound : Sound c s)
    (ordered : InOrder events) (later : ∀ now ∈ events.filterMap AlertEvent.reading?, clock ≤ now) :
    ∃ last, (run c s events).Timely last := by
  induction events generalizing s clock with
  | nil => exact ⟨clock, h⟩
  | cons e rest ih =>
    have transition := sound.transition_step e
    unfold InOrder at ordered
    cases reading : e.reading? with
    | none =>
      rw [List.filterMap_cons_none reading] at ordered later
      refine ih (transition.timely sound h ?_) (sound_step sound e) ordered later
      simp [reading]
    | some now =>
      rw [List.filterMap_cons_some reading] at ordered later
      obtain ⟨first, ordered⟩ := List.pairwise_cons.mp ordered
      have atNow := h.later (later now List.mem_cons_self)
      refine ih (transition.timely sound atNow ?_) (sound_step sound e) ordered first
      simp [reading]

/-- After any traffic in which the clock does not go back, the fields of every alert agree. -/
theorem consistent_after (c : AlertConfig) (events : List AlertEvent) (ordered : InOrder events)
    (id : Uuid) (a : Alert) (stored : (after c events).store.records.find? id = some a) :
    a.Consistent := by
  have bound : ∃ first, ∀ now ∈ events.filterMap AlertEvent.reading?, first ≤ now := by
    cases readings : events.filterMap AlertEvent.reading? with
    | nil => exact ⟨default, by simp⟩
    | cons first rest =>
      have ordered' := ordered
      rw [InOrder, readings, List.pairwise_cons] at ordered'
      refine ⟨first, fun now there => ?_⟩
      rcases List.mem_cons.mp there with rfl | there
      · exact Std.le_refl now
      · exact ordered'.1 now there
  obtain ⟨first, later⟩ := bound
  obtain ⟨last, timely⟩ := (timely_start first).run (sound_start c) ordered later
  exact (timely.stored stored).toConsistent

/-- An alert is suppressed, a sweep whose time is ahead of the clock ends that, and an operator
resolves it. -/
def sweptAhead : List AlertEvent :=
  [.arrive "a" [highCpu], .read 0, .plan 0 ⟨10⟩ ⟨1⟩, .commit 0,
    .operate ⟨1⟩ (.suppress (some ⟨40⟩)) ⟨20⟩, .sweep ⟨50⟩, .expire 0, .operate ⟨1⟩ .resolve ⟨30⟩]

theorem consistent_after_sweptAhead :
    InOrder sweptAhead ∧ ∃ a, (after {} sweptAhead).store.records.find? ⟨1⟩ = some a ∧
      a.version = 4 ∧ a.resolvedAt = some ⟨30⟩ ∧ a.Consistent := by
  have ordered : InOrder sweptAhead := by decide
  have written : ((after {} sweptAhead).store.records.find? ⟨1⟩).map
      (fun a => (a.version, a.resolvedAt)) = some (4, some ⟨30⟩) := by
    decide +kernel
  obtain ⟨a, stored, fields⟩ := Option.map_eq_some_iff.mp written
  obtain ⟨version, resolvedAt⟩ := Prod.mk.inj fields
  have consistent := consistent_after {} sweptAhead ordered ⟨1⟩ a stored
  exact ⟨ordered, a, stored, version, resolvedAt, consistent⟩

end AlertTraffic

end DeviceWatch
