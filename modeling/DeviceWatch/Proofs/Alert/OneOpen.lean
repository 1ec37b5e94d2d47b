import DeviceWatch.Proofs.Alert.Transitions

/-!
# Open alerts of one fingerprint

When resolved alerts stay closed, an open alert is the latest of its fingerprint after any traffic:
a commit of a new record finds the latest alert closed, and no other write opens an alert.  There is
then at most one open alert of a fingerprint.

When resolved alerts are resumed, a copy of an alert that is no longer the latest can be resumed
beside an open one, since the commit of a stored record compares versions and nothing else.  For
both properties it is said which commits of a run break them.
-/

namespace DeviceWatch

open Correlation AlertStore

namespace AlertStore

/-- The alerts of a fingerprint that are not resolved. -/
def openAlerts (s : AlertStore) (fp : String) : List Alert :=
  s.alerts.filter fun a => a.fingerprint = fp && a.status.isOpen

/-- Two open alerts of one fingerprint are the same record. -/
def AtMostOneOpen (s : AlertStore) : Prop :=
  ∀ j a k b, s.records.find? j = some a → s.records.find? k = some b →
    a.fingerprint = b.fingerprint → a.status.isOpen = true → b.status.isOpen = true → j = k

def OpenIsLatest (s : AlertStore) : Prop :=
  ∀ id a, s.records.find? id = some a → a.status.isOpen = true →
    s.latest.find? a.fingerprint = some id

variable {s : AlertStore}

theorem Coherent.nodup_ids (h : s.Coherent) : (s.alerts.map (·.id)).Nodup := by
  have ids : s.alerts.map (·.id) = s.records.keys := by
    unfold alerts OrderedMap.values OrderedMap.keys
    rw [List.map_map]
    refine List.map_congr_left fun e there => ?_
    exact h.own_id (OrderedMap.find?_eq_some_iff.mpr there)
  rw [ids]
  exact s.records.distinct

theorem Coherent.nodup_alerts (h : s.Coherent) : s.alerts.Nodup :=
  List.Pairwise.of_map (·.id) (fun _ _ differ same => differ (congrArg _ same)) h.nodup_ids

theorem Coherent.nodup_openAlerts (h : s.Coherent) (fp : String) : (s.openAlerts fp).Nodup :=
  h.nodup_alerts.sublist List.filter_sublist

theorem Coherent.mem_openAlerts_iff (h : s.Coherent) {fp : String} {a : Alert} :
    a ∈ s.openAlerts fp ↔
      s.records.find? a.id = some a ∧ a.fingerprint = fp ∧ a.status.isOpen = true := by
  simp [openAlerts, h.mem_alerts_iff]

theorem length_le_one_iff {l : List Alert} (nodup : l.Nodup) :
    l.length ≤ 1 ↔ ∀ a ∈ l, ∀ b ∈ l, a = b := by
  cases l with
  | nil => simp
  | cons a rest =>
    cases rest with
    | nil => simp
    | cons b rest =>
      have differ : a ≠ b := by
        rintro rfl
        simp at nodup
      constructor
      · intro short
        simp at short
      · intro same
        exact absurd (same a (by simp) b (by simp)) differ

theorem Coherent.atMostOneOpen_iff (h : s.Coherent) :
    s.AtMostOneOpen ↔ ∀ fp, (s.openAlerts fp).length ≤ 1 := by
  constructor
  · intro unique fp
    rw [length_le_one_iff (h.nodup_openAlerts fp)]
    intro a openA b openB
    obtain ⟨foundA, fpA, openA⟩ := h.mem_openAlerts_iff.mp openA
    obtain ⟨foundB, fpB, openB⟩ := h.mem_openAlerts_iff.mp openB
    have sameId := unique _ a _ b foundA foundB (fpA.trans fpB.symm) openA openB
    rw [sameId, foundB] at foundA
    exact (Option.some.inj foundA).symm
  · intro one j a k b foundA foundB same openA openB
    have unique := (length_le_one_iff (h.nodup_openAlerts b.fingerprint)).mp (one b.fingerprint)
    have idA := h.own_id foundA
    have idB := h.own_id foundB
    subst idA idB
    have : a = b := unique a (h.mem_openAlerts_iff.mpr ⟨foundA, same, openA⟩) b
      (h.mem_openAlerts_iff.mpr ⟨foundB, rfl, openB⟩)
    rw [this]

theorem openIsLatest_empty : empty.OpenIsLatest := by
  intro id a found
  simp [empty] at found

theorem OpenIsLatest.openAlerts_eq (h : s.OpenIsLatest) (coherent : s.Coherent) (fp : String) :
    s.openAlerts fp = ((s.latestFor fp).filter (·.status.isOpen)).toList := by
  have sameMembers (a : Alert) :
      a ∈ s.openAlerts fp ↔ a ∈ ((s.latestFor fp).filter (·.status.isOpen)).toList := by
    rw [coherent.mem_openAlerts_iff, Option.mem_toList, Option.filter_eq_some_iff,
      latestFor_eq_some_iff]
    constructor
    · rintro ⟨found, rfl, isOpen⟩
      exact ⟨⟨a.id, h a.id a found isOpen, found⟩, isOpen⟩
    · rintro ⟨⟨id, latest, found⟩, isOpen⟩
      obtain ⟨b, stored, matching⟩ := coherent.latest_stored latest
      have : b = a := Option.some.inj (stored.symm.trans found)
      subst this
      rw [← coherent.own_id found] at found
      exact ⟨found, matching, isOpen⟩
  have permuted := (List.perm_ext_iff_of_nodup (coherent.nodup_openAlerts fp)
    (by cases (s.latestFor fp).filter (·.status.isOpen) <;> simp)).mpr sameMembers
  cases latest : (s.latestFor fp).filter (·.status.isOpen) with
  | none => simpa [latest] using permuted
  | some a => simpa [latest] using permuted

theorem OpenIsLatest.atMostOneOpen (h : s.OpenIsLatest) : s.AtMostOneOpen := by
  intro j a k b foundA foundB same openA openB
  have latestA := h j a foundA openA
  rw [same, h k b foundB openB] at latestA
  exact (Option.some.inj latestA).symm

theorem OpenIsLatest.put (h : s.OpenIsLatest) {id : Uuid} {old new : Alert}
    (stored : s.records.find? id = some old) (sameFingerprint : new.fingerprint = old.fingerprint)
    (opens : new.status.isOpen = true →
      old.status.isOpen = true ∨ s.latest.find? old.fingerprint = some id) :
    (s.put id new).OpenIsLatest := by
  intro k a found isOpen
  rw [find?_put] at found
  rw [put_latest]
  split at found
  · rename_i same
    cases found
    rw [sameFingerprint, same]
    exact (opens isOpen).elim (h id old stored) fun latest => latest
  · exact h k a found isOpen

theorem OpenIsLatest.add (h : s.OpenIsLatest) {new : Alert}
    (closed : s.isOpenFor new.fingerprint = false) : (s.add new).OpenIsLatest := by
  intro k a found isOpen
  rw [find?_add] at found
  rw [latest_find?_add]
  split at found
  · rename_i same
    cases found
    rw [if_pos rfl, same]
  · by_cases same : a.fingerprint = new.fingerprint
    · -- The latest alert of the fingerprint was closed, and this one was the latest.
      have latest := latestFor_eq_some_iff.mpr ⟨k, h k a found isOpen, found⟩
      rw [same] at latest
      simp [isOpenFor, latest, isOpen] at closed
    · rw [if_neg same]
      exact h k a found isOpen

theorem atMostOneOpen_empty : empty.AtMostOneOpen := by
  intro j a k b found
  simp [empty] at found

/-- Writing one record keeps the open alerts apart unless it is opened beside another one. -/
theorem AtMostOneOpen.write (h : s.AtMostOneOpen) {t : AlertStore} {id : Uuid} {new : Alert}
    (written : ∀ k, t.records.find? k = if k = id then some new else s.records.find? k)
    (alone : new.status.isOpen = true → ∀ k b, s.records.find? k = some b →
      b.fingerprint = new.fingerprint → b.status.isOpen = true → k = id) : t.AtMostOneOpen := by
  intro j a k b foundA foundB same openA openB
  rw [written] at foundA foundB
  split at foundA
  · rename_i isA
    cases foundA
    split at foundB
    · rename_i isB
      exact isA.trans isB.symm
    · exact isA.trans (alone openA k b foundB same.symm openB).symm
  · split at foundB
    · rename_i isB
      cases foundB
      exact (alone openB j a foundA same openA).trans isB.symm
    · exact h j a k b foundA foundB same openA openB

end AlertStore

namespace AlertTraffic

variable {c : AlertConfig} {s : AlertTraffic}

/-- The event resumes an alert that is not the latest of its fingerprint. -/
def ResumesStale (s : AlertTraffic) (e : AlertEvent) : Prop :=
  ∃ next old, s.Accepts e next .updated ∧ s.store.records.find? next.id = some old ∧
    old.status = .resolved ∧ s.store.latest.find? old.fingerprint ≠ some next.id

theorem Transition.openIsLatest {t : AlertTraffic} {e : AlertEvent} (h : Transition c s e t)
    (latest : s.store.OpenIsLatest) (current : c.reopenPolicy = .resume → ¬ s.ResumesStale e) :
    t.store.OpenIsLatest := by
  cases h with
  | @accept i w f rest next applied b store here drafted todo done committed =>
    cases committed with
    | created occurs absent closed fresh =>
      subst fresh
      exact latest.add closed
    | @updated now a _ occurs stored matching reopens refreshed =>
      have sameId : next.id = a.id := refreshed ▸ reopened_id a
      have sameFingerprint : next.fingerprint = a.fingerprint := refreshed ▸ reopened_fingerprint a
      refine latest.put stored sameFingerprint fun _ => ?_
      by_cases resolved : a.status = .resolved
      · refine .inr (Decidable.byContradiction fun stale => ?_)
        apply current (reopens resolved)
        refine ⟨next, a, ⟨w, b, _, here, drafted, done⟩, ?_, resolved, ?_⟩
        · rw [sameId]
          exact stored
        · rw [sameId]
          exact stale
      · exact .inl (AlertStatus.isOpen_iff.mpr resolved)
    | resolved ends stored matching wasOpen clears =>
      subst clears
      exact latest.put stored rfl fun _ => .inl wasOpen
  | operate stored allowed =>
    have adjusts := AlertAction.adjusts allowed
    refine latest.put stored adjusts.fingerprint fun _ => ?_
    exact .inl (AlertStatus.isOpen_of_mayBecome adjusts.status)
  | expire _ stored allowed =>
    have adjusts := reactivate_adjusts allowed
    refine latest.put stored adjusts.fingerprint fun _ => ?_
    exact .inl (AlertStatus.isOpen_of_mayBecome adjusts.status)
  | _ => exact latest

theorem Sound.isOpen_of_accepts (sound : Sound c s) {e : AlertEvent} {next : Alert}
    (accepts : s.Accepts e next .updated) : next.status.isOpen = true := by
  obtain ⟨connector, f, committed⟩ := sound.committed_of_accepts accepts
  generalize (AlertTraffic.step c s e).store = t at committed
  cases committed with
  | updated occurs stored matching reopens refreshed =>
    subst refreshed
    exact reopened_isOpen _

theorem openIsLatest_step_iff (e : AlertEvent) (sound : Sound c s)
    (latest : s.store.OpenIsLatest) :
    (step c s e).store.OpenIsLatest ↔ ¬ s.ResumesStale e := by
  constructor
  · rintro kept ⟨next, old, accepts, found, resolved, stale⟩
    obtain ⟨connector, f, committed⟩ := sound.committed_of_accepts accepts
    have isOpen := sound.isOpen_of_accepts accepts
    generalize (step c s e).store = t at kept committed
    have stored := committed.find? next.id
    rw [if_pos rfl] at stored
    have now := kept next.id (bumped next) stored isOpen
    cases committed with
    | @updated time a _ occurs storedA matching reopens refreshed =>
      have sameId : next.id = a.id := refreshed ▸ reopened_id a
      have sameFingerprint : next.fingerprint = a.fingerprint := refreshed ▸ reopened_fingerprint a
      rw [sameId, storedA] at found
      cases found
      exact stale ((congrArg s.store.latest.find? sameFingerprint).symm.trans now)
  · intro current
    exact (sound.transition_step e).openIsLatest latest fun _ => current

/-- After any traffic in which resolved alerts stay closed, the open alerts of a fingerprint are its
latest alert if that is open, and no others. -/
theorem openAlerts_after (retries : Nat) (events : List AlertEvent) (fp : String) :
    let store := (after ⟨.newIncident, retries⟩ events).store
    (store.openAlerts fp).length ≤ 1 ∧
      store.openAlerts fp = ((store.latestFor fp).filter (·.status.isOpen)).toList := by
  have latest : (after ⟨.newIncident, retries⟩ events).store.OpenIsLatest := by
    refine invariant_after (P := fun s => s.store.OpenIsLatest) openIsLatest_empty ?_ events
    intro s t e sound latest transition
    exact transition.openIsLatest latest fun resume => nomatch resume
  have opened := latest.openAlerts_eq (sound_after _ events).coherent fp
  refine ⟨?_, opened⟩
  rw [opened]
  cases ((after ⟨.newIncident, retries⟩ events).store.latestFor fp).filter (·.status.isOpen) <;>
    simp

/-- Under any policy, the open alerts are the latest of their fingerprints throughout a run if and
only if no commit of the run resumes an alert that is not. -/
theorem openIsLatest_iff (c : AlertConfig) (events : List AlertEvent) :
    (∀ n, (after c (events.take n)).store.OpenIsLatest) ↔
      ∀ n e, events[n]? = some e → ¬ (after c (events.take n)).ResumesStale e :=
  throughout_iff (P := fun s => s.store.OpenIsLatest) openIsLatest_empty openIsLatest_step_iff
    events

theorem atMostOneOpen_of_current {events : List AlertEvent}
    (current : ∀ n e, events[n]? = some e → ¬ (after c (events.take n)).ResumesStale e) :
    (after c events).store.AtMostOneOpen := by
  have latest := (openIsLatest_iff c events).mpr current events.length
  rw [List.take_length] at latest
  exact latest.atMostOneOpen

/-- The event commits an open alert while another alert of its fingerprint is open. -/
def OpensBeside (s : AlertTraffic) (e : AlertEvent) : Prop :=
  ∃ next applied other, s.Accepts e next applied ∧ next.status.isOpen = true ∧
    other ∈ s.store.openAlerts next.fingerprint ∧ other.id ≠ next.id

theorem Transition.atMostOneOpen {t : AlertTraffic} {e : AlertEvent} (h : Transition c s e t)
    (sound : Sound c s) (one : s.store.AtMostOneOpen) (apart : ¬ s.OpensBeside e) :
    t.store.AtMostOneOpen := by
  -- An operator or a sweep changes an alert that was open.
  have adjusted {id : Uuid} {old next : Alert} (stored : s.store.records.find? id = some old)
      (adjusts : old.Adjusts next) :
      (s.store.put id { next with version := old.version + 1 }).AtMostOneOpen := by
    refine one.write (find?_put s.store id · _) fun _ k b found same isOpen => ?_
    have wasOpen := AlertStatus.isOpen_of_mayBecome adjusts.status
    exact one k b id old found stored (same.trans adjusts.fingerprint) isOpen wasOpen
  cases h with
  | @accept i w f rest next applied b store here drafted todo done committed =>
    refine one.write committed.find? fun opens k other found same isOpen => ?_
    refine Decidable.byContradiction fun differ => apart ?_
    have ownId := sound.coherent.own_id found
    subst ownId
    exact ⟨next, applied, other, ⟨w, b, store, here, drafted, done⟩, opens,
      sound.coherent.mem_openAlerts_iff.mpr ⟨found, same, isOpen⟩, differ⟩
  | operate stored allowed => exact adjusted stored (AlertAction.adjusts allowed)
  | expire _ stored allowed => exact adjusted stored (reactivate_adjusts allowed)
  | _ => exact one

theorem atMostOneOpen_step_iff (e : AlertEvent) (sound : Sound c s)
    (one : s.store.AtMostOneOpen) :
    (step c s e).store.AtMostOneOpen ↔ ¬ s.OpensBeside e := by
  constructor
  · rintro kept ⟨next, applied, other, accepts, opens, beside, differ⟩
    obtain ⟨connector, f, committed⟩ := sound.committed_of_accepts accepts
    obtain ⟨found, same, isOpen⟩ := sound.coherent.mem_openAlerts_iff.mp beside
    have storedNext := committed.find? next.id
    rw [if_pos rfl] at storedNext
    have storedOther := committed.find? other.id
    rw [if_neg differ, found] at storedOther
    exact differ
      (kept other.id other next.id (bumped next) storedOther storedNext same isOpen opens)
  · intro apart
    exact (sound.transition_step e).atMostOneOpen sound one apart

/-- What opens an alert beside another one resumes an alert that is not the latest, or comes after
such a resumption. -/
theorem exists_resumesStale {events : List AlertEvent} {n : Nat} {e : AlertEvent}
    (there : events[n]? = some e) (beside : (after c (events.take n)).OpensBeside e) :
    ∃ m ≤ n, ∃ earlier, events[m]? = some earlier ∧
      (after c (events.take m)).ResumesStale earlier := by
  refine Classical.byContradiction fun none => ?_
  have one {k : Nat} (short : k ≤ n + 1) : (after c (events.take k)).store.AtMostOneOpen := by
    refine atMostOneOpen_of_current fun m earlier found stale => none ?_
    obtain ⟨before, found⟩ : m < k ∧ events[m]? = some earlier := by
      simpa [List.getElem?_take] using found
    rw [List.take_take, Nat.min_eq_left (Nat.le_of_lt before)] at stale
    exact ⟨m, by omega, earlier, found, stale⟩
  have kept : (step c (after c (events.take n)) e).store.AtMostOneOpen := by
    rw [← after_take_succ c there]
    exact one (Nat.le_refl _)
  exact (atMostOneOpen_step_iff e (sound_after c _) (one n.le_succ)).mp kept beside

/-- Under any policy, at most one alert of a fingerprint is open throughout a run if and only if no
commit of the run opens an alert beside another one; and such a commit resumes an alert that is not
the latest of its fingerprint, or comes after one that did. -/
theorem atMostOneOpen_throughout_iff (c : AlertConfig) (events : List AlertEvent) :
    ((∀ n, (after c (events.take n)).store.AtMostOneOpen) ↔
      ∀ n e, events[n]? = some e → ¬ (after c (events.take n)).OpensBeside e) ∧
    ∀ n e, events[n]? = some e → (after c (events.take n)).OpensBeside e →
      ∃ m ≤ n, ∃ earlier, events[m]? = some earlier ∧
        (after c (events.take m)).ResumesStale earlier := by
  refine ⟨?_, fun n e there => exists_resumesStale there⟩
  exact throughout_iff (P := fun s => s.store.AtMostOneOpen) atMostOneOpen_empty
    atMostOneOpen_step_iff events

/-- The first ingester finds no alert and the third one finds the alert of the second one resolved;
both commit what they have planned. -/
def staleResume : List AlertEvent :=
  [.arrive "a" [highCpu], .arrive "b" [highCpu], .arrive "c" [highCpu], .read 0,
    .read 1, .plan 1 default ⟨1⟩, .commit 1, .operate ⟨1⟩ .resolve default,
    .read 2, .plan 2 default ⟨2⟩, .plan 0 default ⟨3⟩, .commit 0, .commit 2]

theorem not_atMostOneOpen_staleResume :
    ¬ (after ⟨.resume, 5⟩ staleResume).store.AtMostOneOpen := by
  have two :
      ((after ⟨.resume, 5⟩ staleResume).store.openAlerts highCpu.fingerprint).length = 2 := by
    decide +kernel
  intro one
  have coherent := (sound_after ⟨.resume, 5⟩ staleResume).coherent
  have atMost := coherent.atMostOneOpen_iff.mp one highCpu.fingerprint
  omega

end AlertTraffic

end DeviceWatch
