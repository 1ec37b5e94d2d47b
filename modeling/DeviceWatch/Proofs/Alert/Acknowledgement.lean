import DeviceWatch.Proofs.Alert.Revisions

/-!
# The mark of an acknowledgement

An alert that is acknowledged is marked with the time of it.  Taking the acknowledgement back and
resuming a resolved alert remove the mark, but a suppression keeps it, and so does whatever lifts the
suppression: the operator, the sweep and a new occurrence.  An alert that is suppressed while it is
acknowledged is therefore active again with its mark.  No other alert is.
-/

namespace DeviceWatch

open Correlation AlertStore

namespace AlertStore

/-- No active alert bears the mark of an acknowledgement. -/
def ActiveUnmarked (s : AlertStore) : Prop :=
  ∀ a ∈ s.alerts, a.status = .active → a.acknowledgedAt = none

instance (s : AlertStore) : Decidable s.ActiveUnmarked :=
  inferInstanceAs (Decidable (∀ a ∈ s.alerts, a.status = .active → a.acknowledgedAt = none))

variable {s : AlertStore}

theorem activeUnmarked_iff : s.ActiveUnmarked ↔ ∀ id a, s.records.find? id = some a →
    a.status = .active → a.acknowledgedAt = none := by
  simp only [ActiveUnmarked, mem_alerts_iff]
  constructor
  · intro h id a stored
    exact h a ⟨id, stored⟩
  · rintro h a ⟨id, stored⟩
    exact h id a stored

theorem activeUnmarked_empty : empty.ActiveUnmarked := by
  rw [activeUnmarked_iff]
  intro id a stored
  cases stored

end AlertStore

theorem Correlation.reopened_acknowledgedAt (a : Alert) : (reopened a).acknowledgedAt =
    if a.status = .resolved then none else a.acknowledgedAt := by
  unfold reopened
  cases status : a.status <;> simp

namespace AlertTraffic

/-- What the mark of an alert becomes, whichever way its status moves. -/
structure MarkMoves (e : AlertEvent) (old new : Alert) : Prop where
  acknowledged : old.status ≠ .acknowledged → new.status = .acknowledged →
    ∃ now, e = .operate old.id .acknowledge now ∧ new.acknowledgedAt = some now
  cleared : old.status = .acknowledged ∨ old.status = .resolved → new.status = .active →
    new.acknowledgedAt = none
  lifted : old.status = .suppressed → new.status = .active →
    new.acknowledgedAt = old.acknowledgedAt ∧
    ((∃ now, e = .operate old.id .unsuppress now) ∨ (∃ i, e = .expire i) ∨ ∃ i, e = .commit i)
  suppressed : old.status ≠ .suppressed → new.status = .suppressed →
    (old.status = .active ∨ old.status = .acknowledged) ∧
      ∃ until' now, e = .operate old.id (.suppress until') now
  kept : new.status = old.status ∨ new.status = .suppressed ∨ new.status = .resolved →
    new.acknowledgedAt = old.acknowledgedAt

variable {c : AlertConfig} {s : AlertTraffic} {e : AlertEvent} {old new : Alert}

theorem markMoves_refl (e : AlertEvent) (a : Alert) : MarkMoves e a a where
  acknowledged other same := absurd same other
  cleared before active := by simp [active] at before
  lifted suppressed active := by simp [suppressed] at active
  suppressed other same := absurd same other
  kept _ := rfl

theorem markMoves_applyTo {action : AlertAction} {now : Instant}
    (allowed : action.applyTo now old = .ok new) :
    MarkMoves (.operate old.id action now) old { new with version := old.version + 1 } := by
  obtain ⟨source, may, -, rfl⟩ := AlertAction.applyTo_eq_ok allowed
  -- What does not end in the status that a part is about has no business with it.
  cases action with
  | acknowledge =>
    have moved : AlertStatus.acknowledged ≠ old.status := by
      rintro same
      rw [← same] at may
      cases may
    constructor
    case acknowledged => exact fun _ _ => ⟨now, rfl, rfl⟩
    case kept => simp [AlertAction.target, moved]
    all_goals
      intro _ status
      cases status
  | unacknowledge =>
    have was : old.status = .acknowledged := by
      simpa [AlertAction.checkSource, AlertAction.requiredSource] using source
    constructor
    case cleared => exact fun _ _ => rfl
    case lifted => simp [was]
    case kept => simp [was, AlertAction.target]
    all_goals
      intro _ status
      cases status
  | suppress until' =>
    have was : old.status = .active ∨ old.status = .acknowledged := by
      revert may
      cases old.status <;> simp [AlertAction.target, AlertStatus.mayBecome]
    constructor
    case suppressed => exact fun _ _ => ⟨was, until', now, rfl⟩
    case kept => exact fun _ => rfl
    all_goals
      intro _ status
      cases status
  | unsuppress =>
    have was : old.status = .suppressed := by
      simpa [AlertAction.checkSource, AlertAction.requiredSource] using source
    constructor
    case lifted => exact fun _ _ => ⟨rfl, .inl ⟨now, rfl⟩⟩
    case cleared => simp [was]
    case kept => exact fun _ => rfl
    all_goals
      intro _ status
      cases status
  | resolve =>
    constructor
    case kept => exact fun _ => rfl
    all_goals
      intro _ status
      cases status

theorem Revises.markMoves (h : Revises c s e old new) : MarkMoves e old new := by
  cases h with
  | operate allowed => exact markMoves_applyTo allowed
  | @expire i now ids _ next here allowed =>
    obtain ⟨suppressed, -, rfl⟩ := reactivate_eq_ok allowed
    constructor
    case lifted => exact fun _ _ => ⟨rfl, .inr (.inl ⟨i, rfl⟩)⟩
    case cleared => simp [suppressed]
    case kept => exact fun _ => rfl
    all_goals
      intro _ status
      cases status
  | @update i w f rest now _ next here drafted todo occurs matching reopens refreshed =>
    have status : (bumped next).status =
        if old.status = .acknowledged then .acknowledged else .active :=
      refreshed ▸ reopened_status old
    have mark : (bumped next).acknowledgedAt =
        if old.status = .resolved then none else old.acknowledgedAt :=
      refreshed ▸ reopened_acknowledgedAt old
    constructor
    · intro other acknowledged
      simp [status, other] at acknowledged
    · rintro (acknowledged | resolved) active
      · simp [status, acknowledged] at active
      · rw [mark, if_pos resolved]
    · intro suppressed _
      exact ⟨by simp [mark, suppressed], .inr (.inr ⟨i, rfl⟩)⟩
    · intro _ suppressed
      rw [status] at suppressed
      split at suppressed <;> cases suppressed
    · intro moves
      have open' : old.status ≠ .resolved := by
        intro resolved
        simp [status, resolved] at moves
      rw [mark, if_neg open']
  | @resolve i w f rest now _ next here drafted todo ends matching wasOpen clears =>
    subst clears
    constructor
    case kept => exact fun _ => rfl
    all_goals
      intro _ status
      cases status

theorem Sound.markMoves_step (sound : Sound c s) {id : Uuid}
    (before : s.store.records.find? id = some old)
    (after' : (step c s e).store.records.find? id = some new) : MarkMoves e old new := by
  obtain ⟨next, there, same | revises⟩ := (sound.transition_step e).exists_record sound before
  · obtain rfl : next = new := Option.some.inj (there.symm.trans after')
    exact same ▸ markMoves_refl e old
  · obtain rfl : next = new := Option.some.inj (there.symm.trans after')
    exact revises.markMoves

/-- The event ends the suppression of an alert that bears a mark. -/
def LiftsMarked (c : AlertConfig) (s : AlertTraffic) (e : AlertEvent) (id : Uuid) : Prop :=
  ∃ old new, s.store.records.find? id = some old ∧
    (step c s e).store.records.find? id = some new ∧ old.status = .suppressed ∧
    old.acknowledgedAt ≠ none ∧ new.status = .active

theorem activeUnmarked_step_iff (e : AlertEvent) (sound : Sound c s)
    (unmarked : s.store.ActiveUnmarked) :
    (step c s e).store.ActiveUnmarked ↔ ¬ ∃ id, LiftsMarked c s e id := by
  rw [activeUnmarked_iff] at unmarked ⊢
  constructor
  · rintro kept ⟨id, old, new, before, after', suppressed, marked, active⟩
    have same := ((sound.markMoves_step before after').lifted suppressed active).1
    exact marked (same ▸ kept id new after' active)
  · intro none' id new after' active
    have change := (sound.transition_step e).record sound id
    rw [after'] at change
    generalize before : s.store.records.find? id = record at change
    cases change with
    | same => exact unmarked id new before active
    | created creates =>
      obtain ⟨here, drafted, todo, occurs, rfl⟩ := creates
      rfl
    | @revised old _ revises =>
      have moves := revises.markMoves
      cases status : old.status with
      | active =>
        rw [moves.kept (.inl (active.trans status.symm))]
        exact unmarked id old before status
      | acknowledged => exact moves.cleared (.inl status) active
      | resolved => exact moves.cleared (.inr status) active
      | suppressed =>
        rw [(moves.lifted status active).1]
        exact Classical.byContradiction fun marked =>
          none' ⟨id, old, new, before, after', status, marked, active⟩

/-- The event suppresses an alert that was acknowledged at the given time. -/
def SuppressesAcknowledged (c : AlertConfig) (s : AlertTraffic) (e : AlertEvent) (id : Uuid)
    (time : Instant) : Prop :=
  ∃ until' now old new, e = .operate id (.suppress until') now ∧
    s.store.records.find? id = some old ∧ old.status = .acknowledged ∧
    old.acknowledgedAt = some time ∧ (step c s e).store.records.find? id = some new ∧
    new.status = .suppressed

/-- A mark on an alert that is active or suppressed was there before the event, unless the event is
the suppression of the alert while it was acknowledged. -/
theorem MarkMoves.cases_mark (h : MarkMoves e old new) {time : Instant}
    (unacknowledged : new.status = .active ∨ new.status = .suppressed)
    (marked : new.acknowledgedAt = some time) :
    old.acknowledgedAt = some time ∧
      ((old.status = .active ∨ old.status = .suppressed) ∨
        old.status = .acknowledged ∧ new.status = .suppressed ∧
          ∃ until' now, e = .operate old.id (.suppress until') now) := by
  rcases unacknowledged with active | suppressed
  · cases status : old.status with
    | active => exact ⟨h.kept (.inl (active.trans status.symm)) ▸ marked, .inl (.inl rfl)⟩
    | suppressed => exact ⟨(h.lifted status active).1 ▸ marked, .inl (.inr rfl)⟩
    | acknowledged => cases (h.cleared (.inl status) active).symm.trans marked
    | resolved => cases (h.cleared (.inr status) active).symm.trans marked
  · refine ⟨h.kept (.inr (.inl suppressed)) ▸ marked, ?_⟩
    by_cases before : old.status = .suppressed
    · exact .inl (.inr before)
    · obtain ⟨active | acknowledged, requested⟩ := h.suppressed before suppressed
      · exact .inl (.inl active)
      · exact .inr ⟨acknowledged, suppressed, requested⟩

theorem exists_suppressesAcknowledged (c : AlertConfig) (events : List AlertEvent) {n : Nat}
    {id : Uuid} {a : Alert} {time : Instant}
    (stored : (after c (events.take n)).store.records.find? id = some a)
    (unacknowledged : a.status = .active ∨ a.status = .suppressed)
    (marked : a.acknowledgedAt = some time) :
    ∃ m < n, ∃ e, events[m]? = some e ∧
      SuppressesAcknowledged c (after c (events.take m)) e id time := by
  induction n generalizing a with
  | zero => cases stored
  | succ n ih =>
    -- What happened before still happened before.
    have earlier {b : Alert} (before : (after c (events.take n)).store.records.find? id = some b)
        (status : b.status = .active ∨ b.status = .suppressed)
        (mark : b.acknowledgedAt = some time) :
        ∃ m < n + 1, ∃ e, events[m]? = some e ∧
          SuppressesAcknowledged c (after c (events.take m)) e id time := by
      obtain ⟨m, below, e, there, suppresses⟩ := ih before status mark
      exact ⟨m, Nat.lt_succ_of_lt below, e, there, suppresses⟩
    cases there : events[n]? with
    | none =>
      have spent := List.getElem?_eq_none_iff.mp there
      rw [List.take_of_length_le (Nat.le_succ_of_le spent),
        ← List.take_of_length_le spent] at stored
      exact earlier stored unacknowledged marked
    | some e =>
      have sound := sound_after c (events.take n)
      rw [after_take_succ c there] at stored
      have change := (sound.transition_step e).record sound id
      rw [stored] at change
      generalize before : (after c (events.take n)).store.records.find? id = record at change
      cases change with
      | same => exact earlier before unacknowledged marked
      | created creates =>
        obtain ⟨here, drafted, todo, occurs, rfl⟩ := creates
        cases marked
      | @revised old _ revises =>
        obtain ⟨mark, status | ⟨acknowledged, suppressed, until', now, request⟩⟩ :=
          revises.markMoves.cases_mark unacknowledged marked
        · exact earlier before status mark
        · have ownId : old.id = id := sound.coherent.own_id before
          exact ⟨n, Nat.lt_succ_self n, e, there, until', now, old, a, ownId ▸ request, before,
            acknowledged, mark, stored, suppressed⟩

/-- Under any policy, no active alert bears the mark of an acknowledgement throughout a run if and
only if no event of the run lifts the suppression of an alert that bears one.  Every such event
leaves the mark as it is, and comes after the suppression of the alert while it was acknowledged at
the time that the mark tells.  Every other way to be active again removes the mark. -/
theorem activeUnmarked_throughout_iff (c : AlertConfig) (events : List AlertEvent) :
    ((∀ n, (after c (events.take n)).store.ActiveUnmarked) ↔
      ∀ n e, events[n]? = some e → ¬ ∃ id, LiftsMarked c (after c (events.take n)) e id) ∧
    ∀ n e, events[n]? = some e → ∀ id,
      (∀ old new, (after c (events.take n)).store.records.find? id = some old →
        (step c (after c (events.take n)) e).store.records.find? id = some new →
        MarkMoves e old new) ∧
      (LiftsMarked c (after c (events.take n)) e id →
        ∃ m < n, ∃ earlier time, events[m]? = some earlier ∧
          SuppressesAcknowledged c (after c (events.take m)) earlier id time) := by
  refine ⟨?_, fun n e there id => ⟨fun old new before after' => ?_, fun lifts => ?_⟩⟩
  · exact throughout_iff (P := fun s => s.store.ActiveUnmarked) activeUnmarked_empty
      activeUnmarked_step_iff events
  · exact (sound_after c _).markMoves_step before after'
  · obtain ⟨old, new, before, after', suppressed, marked, active⟩ := lifts
    obtain ⟨time, mark⟩ := Option.ne_none_iff_exists'.mp marked
    obtain ⟨m, below, earlier, found, suppresses⟩ :=
      exists_suppressesAcknowledged c events before (.inr suppressed) mark
    exact ⟨m, below, earlier, time, found, suppresses⟩

/-- The alert of the first finding is acknowledged, and then suppressed for a second. -/
def suppressedAcknowledged : List AlertEvent :=
  [.arrive "a" [highCpu], .read 0, .plan 0 default ⟨1⟩, .commit 0,
    .operate ⟨1⟩ .acknowledge default, .operate ⟨1⟩ (.suppress (some ⟨1000000000⟩)) default]

/-- The operator lifts the suppression, a sweep finds it over, or the condition is found again: the
alert is active and bears the mark. -/
theorem not_activeUnmarked_liftings :
    ¬ (after {} (suppressedAcknowledged ++
        [.operate ⟨1⟩ .unsuppress default])).store.ActiveUnmarked ∧
    ¬ (after {} (suppressedAcknowledged ++
        [.sweep ⟨1000000000⟩, .expire 0])).store.ActiveUnmarked ∧
    ¬ (after {} (suppressedAcknowledged ++ foundAgain)).store.ActiveUnmarked := by
  decide +kernel

end AlertTraffic

end DeviceWatch
