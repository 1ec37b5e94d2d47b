import DeviceWatch.Proofs.Alert.Transitions
import Mathlib.Algebra.Ring.Nat

/-!
# Occurrences are neither lost nor counted twice

A commit that is accepted adds one occurrence to the alerts of its fingerprint if it creates or
updates, and none if it resolves; operators and sweeps add none.  The alerts are therefore in
balance with the accepted commits after any traffic, and the ingesters count the same commits.
-/

namespace DeviceWatch

open Correlation AlertStore

def Applied.occurs : Applied → Bool
  | created | updated => true
  | resolved | ignored => false

namespace AlertStore

def alertsFor (s : AlertStore) (fp : String) : List Alert :=
  s.alerts.filter fun a => a.fingerprint = fp

/-- The occurrences of all alerts whose fingerprint is in `p`. -/
def occurrences (s : AlertStore) (p : String → Bool) : Nat :=
  ((s.alerts.filter fun a => p a.fingerprint).map (·.occurrenceCount)).sum

def recordCount (s : AlertStore) (p : String → Bool) : Nat :=
  (s.alerts.filter fun a => p a.fingerprint).length

variable {s : AlertStore} {p : String → Bool}

theorem occurrences_put {id : Uuid} {old new : Alert} (stored : s.records.find? id = some old)
    (sameFingerprint : new.fingerprint = old.fingerprint) :
    (s.put id new).occurrences p + (if p old.fingerprint then old.occurrenceCount else 0) =
      s.occurrences p + (if p old.fingerprint then new.occurrenceCount else 0) := by
  obtain ⟨before, after, split, revised⟩ := exists_alerts_split stored
  unfold occurrences
  rw [split, revised new]
  by_cases counts : p old.fingerprint = true
  · simp [List.filter_append, sameFingerprint, counts]
    omega
  · simp [List.filter_append, sameFingerprint, counts]

theorem recordCount_put {id : Uuid} {old new : Alert} (stored : s.records.find? id = some old)
    (sameFingerprint : new.fingerprint = old.fingerprint) :
    (s.put id new).recordCount p = s.recordCount p := by
  obtain ⟨before, after, split, revised⟩ := exists_alerts_split stored
  unfold recordCount
  rw [split, revised new]
  by_cases counts : p old.fingerprint = true <;>
    simp [List.filter_append, sameFingerprint, counts]

theorem occurrences_adjust {id : Uuid} {old next : Alert} {version : Nat}
    (stored : s.records.find? id = some old) (adjusts : old.Adjusts next) :
    (s.put id { next with version := version }).occurrences p = s.occurrences p := by
  generalize changed : ({ next with version := version } : Alert) = new
  have sameFingerprint : new.fingerprint = old.fingerprint := changed ▸ adjusts.fingerprint
  have asMany : new.occurrenceCount = old.occurrenceCount := changed ▸ adjusts.occurrenceCount
  have balance := occurrences_put (p := p) stored sameFingerprint
  rw [asMany] at balance
  omega

theorem recordCount_adjust {id : Uuid} {old next : Alert} {version : Nat}
    (stored : s.records.find? id = some old) (adjusts : old.Adjusts next) :
    (s.put id { next with version := version }).recordCount p = s.recordCount p :=
  recordCount_put stored adjusts.fingerprint

theorem occurrences_add {a : Alert} (absent : s.records.find? a.id = none) :
    (s.add a).occurrences p =
      s.occurrences p + (if p a.fingerprint then a.occurrenceCount else 0) := by
  unfold occurrences
  rw [alerts_add absent]
  by_cases counts : p a.fingerprint = true <;> simp [List.filter_append, counts]

theorem recordCount_add {a : Alert} (absent : s.records.find? a.id = none) :
    (s.add a).recordCount p = s.recordCount p + (if p a.fingerprint then 1 else 0) := by
  unfold recordCount
  rw [alerts_add absent]
  by_cases counts : p a.fingerprint = true <;> simp [List.filter_append, counts]

end AlertStore

namespace Committed

variable {policy : ReopenPolicy} {s t : AlertStore} {connector : String} {f : Finding}
  {next : Alert}
  {applied : Applied}

theorem occurrences (h : Committed policy s connector f next applied t) (p : String → Bool) :
    t.occurrences p =
      s.occurrences p + (if p f.fingerprint && applied.occurs then 1 else 0) := by
  cases h with
  | created occurs absent closed fresh =>
    subst fresh
    rw [occurrences_add absent]
    simp [Applied.occurs, bumped, Alert.ofFinding]
  | @updated now a _ occurs stored matching reopens refreshed =>
    have sameFingerprint : (bumped next).fingerprint = a.fingerprint :=
      refreshed ▸ reopened_fingerprint a
    have oneMore : (bumped next).occurrenceCount = a.occurrenceCount + 1 :=
      refreshed ▸ congrArg (· + 1) (reopened_occurrenceCount a)
    have balance := occurrences_put (p := p) stored sameFingerprint
    rw [matching] at balance
    by_cases counts : p f.fingerprint = true <;>
      simp [counts, oneMore, Applied.occurs] at balance ⊢ <;>
      omega
  | @resolved now a _ ends stored matching wasOpen clears =>
    have sameFingerprint : (bumped next).fingerprint = a.fingerprint := by subst clears; rfl
    have balance := occurrences_put (p := p) stored sameFingerprint
    have asMany : (bumped next).occurrenceCount = a.occurrenceCount := by subst clears; rfl
    rw [asMany] at balance
    simpa [Applied.occurs] using balance

theorem recordCount (h : Committed policy s connector f next applied t) (p : String → Bool) :
    t.recordCount p =
      s.recordCount p + (if p f.fingerprint && applied = .created then 1 else 0) := by
  cases h with
  | created occurs absent closed fresh =>
    subst fresh
    rw [recordCount_add absent]
    simp [bumped, Alert.ofFinding]
  | @updated now a _ occurs stored matching reopens refreshed =>
    rw [recordCount_put stored (refreshed ▸ reopened_fingerprint a)]
    simp
  | @resolved now a _ ends stored matching wasOpen clears =>
    rw [recordCount_put stored (clears ▸ rfl)]
    simp

end Committed

namespace IngestCounts

def of (c : IngestCounts) : Applied → Nat
  | .created => c.created
  | .updated => c.updated
  | .resolved => c.resolved
  | .ignored => c.ignored

@[simp] theorem of_empty (k : Applied) : of {} k = 0 := by cases k <;> rfl

@[simp] theorem of_merge (c d : IngestCounts) (k : Applied) :
    (c.merge d).of k = c.of k + d.of k := by cases k <;> rfl

theorem of_counts (applied k : Applied) : applied.counts.of k = if applied = k then 1 else 0 := by
  cases applied <;> cases k <;> rfl

@[simp] theorem total_merge (c d : IngestCounts) : (c.merge d).total = c.total + d.total := by
  simp only [total, merge]
  omega

@[simp] theorem total_counts (applied : Applied) : applied.counts.total = 1 := by
  cases applied <;> rfl

def mergeAll (l : List IngestCounts) : IngestCounts := l.foldr merge {}

theorem of_mergeAll (l : List IngestCounts) (k : Applied) :
    (mergeAll l).of k = (l.map (·.of k)).sum := by
  induction l with
  | nil => exact of_empty k
  | cons c rest ih =>
    show (c.merge (mergeAll rest)).of k = _
    rw [of_merge, ih, List.map_cons, List.sum_cons]

theorem mergeAll_append (l l' : List IngestCounts) :
    mergeAll (l ++ l') = (mergeAll l).merge (mergeAll l') := by
  induction l with
  | nil => exact (empty_merge _).symm
  | cons c rest ih =>
    show c.merge (mergeAll (rest ++ l')) = (c.merge (mergeAll rest)).merge _
    rw [ih, merge_assoc]

end IngestCounts

namespace Ingester

/-- Each finding of the batch is still to do or has been counted once. -/
def Accounted (w : Ingester) : Prop := w.counts.total + w.todo.length = w.batch.length

variable {w : Ingester}

theorem Accounted.finish (h : w.Accounted) {f : Finding} {rest : List Finding}
    (todo : w.todo = f :: rest) (c : AlertConfig) (applied : Applied) :
    (w.finish c applied).Accounted := by
  unfold Accounted at h ⊢
  rw [todo, List.length_cons] at h
  simp only [Ingester.finish, todo, List.tail_cons, IngestCounts.total_merge,
    IngestCounts.total_counts]
  omega

theorem Accounted.retry (h : w.Accounted) {f : Finding} {rest : List Finding}
    (todo : w.todo = f :: rest) (c : AlertConfig) : (w.retry c).Accounted := by
  unfold Ingester.retry
  split
  · exact h
  · exact h.finish todo c .ignored

theorem of_finish (c : AlertConfig) (applied k : Applied) :
    (w.finish c applied).counts.of k = w.counts.of k + if applied = k then 1 else 0 := by
  rw [← IngestCounts.of_counts]
  exact IngestCounts.of_merge _ _ k

theorem of_retry (c : AlertConfig) {k : Applied} (kept : k ≠ .ignored) :
    (w.retry c).counts.of k = w.counts.of k := by
  unfold retry
  split
  · rfl
  · rw [of_finish, if_neg kept.symm]
    rfl

end Ingester

theorem sum_map_set {l : List Ingester} {i : Nat} {w : Ingester} (here : l[i]? = some w)
    (g : Ingester → Nat) (w' : Ingester) :
    ((l.set i w').map g).sum + g w = (l.map g).sum + g w' := by
  obtain ⟨before, after, split, -, replaced⟩ := exists_split_of_getElem? here
  rw [replaced w', split]
  simp only [List.map_append, List.map_cons, List.sum_append, List.sum_cons]
  omega

namespace AlertTraffic

/-- The alerts and the ingesters agree with the commits that were accepted. -/
structure Balanced (s : AlertTraffic) : Prop where
  occurrences : ∀ p : String → Bool,
    s.store.occurrences p = s.accepted.countP fun e => p e.1 && e.2.occurs
  recordCount : ∀ p : String → Bool,
    s.store.recordCount p = s.accepted.countP fun e => p e.1 && e.2 = .created
  tallied : ∀ k, k ≠ .ignored →
    (s.ingesters.map (·.counts.of k)).sum = s.accepted.countP fun e => e.2 = k
  accounted : ∀ w ∈ s.ingesters, w.Accounted

variable {c : AlertConfig} {s t : AlertTraffic} {e : AlertEvent}

theorem Transition.occurrences (h : Transition c s e t) (balanced : s.Balanced)
    (p : String → Bool) :
    t.store.occurrences p = t.accepted.countP fun e => p e.1 && e.2.occurs := by
  have before := balanced.occurrences p
  cases h with
  | @accept i w f rest next applied b store here drafted todo done committed =>
    rw [List.countP_append, committed.occurrences, before, List.countP_singleton]
  | operate stored allowed =>
    exact (occurrences_adjust stored (AlertAction.adjusts allowed)).trans before
  | expire _ stored allowed =>
    exact (occurrences_adjust stored (reactivate_adjusts allowed)).trans before
  | _ => exact before

theorem Transition.recordCount (h : Transition c s e t) (balanced : s.Balanced)
    (p : String → Bool) :
    t.store.recordCount p = t.accepted.countP fun e => p e.1 && e.2 = .created := by
  have before := balanced.recordCount p
  cases h with
  | @accept i w f rest next applied b store here drafted todo done committed =>
    rw [List.countP_append, committed.recordCount, before, List.countP_singleton]
  | operate stored allowed =>
    exact (recordCount_adjust stored (AlertAction.adjusts allowed)).trans before
  | expire _ stored allowed =>
    exact (recordCount_adjust stored (reactivate_adjusts allowed)).trans before
  | _ => exact before

theorem Transition.tallied (h : Transition c s e t) (balanced : s.Balanced) {k : Applied}
    (kept : k ≠ .ignored) :
    (t.ingesters.map (·.counts.of k)).sum = t.accepted.countP fun e => e.2 = k := by
  have before := balanced.tallied k kept
  -- An ingester whose counts stay as they were keeps the sum.
  have unchanged {i : Nat} {w w' : Ingester} (here : s.ingesters[i]? = some w)
      (same : w'.counts.of k = w.counts.of k) :
      ((s.ingesters.set i w').map (·.counts.of k)).sum = s.accepted.countP fun e => e.2 = k := by
    have sums := sum_map_set here (·.counts.of k) w'
    omega
  cases h with
  | arrive =>
    rw [List.map_append, List.sum_append, before]
    simp [Ingester.start]
  | read here ready todo => exact unchanged here rfl
  | plan here known todo planned => exact unchanged here rfl
  | ignore here known todo planned =>
    refine unchanged here ?_
    rw [Ingester.of_finish, if_neg kept.symm]
    rfl
  | conflict here drafted todo failed => exact unchanged here (Ingester.of_retry c kept)
  | @accept i w f rest next applied b store here drafted todo done committed =>
    have sums := sum_map_set here (·.counts.of k) (w.finish c applied)
    rw [Ingester.of_finish] at sums
    rw [List.countP_append, List.countP_singleton]
    simp only [decide_eq_true_eq]
    omega
  | _ => exact before

theorem Transition.accounted (h : Transition c s e t) (balanced : s.Balanced) :
    ∀ w ∈ t.ingesters, w.Accounted := by
  have before := balanced.accounted
  -- One ingester is turned, and the others stay.
  have turned {i : Nat} {w' : Ingester} (accounted : w'.Accounted) :
      ∀ w ∈ s.ingesters.set i w', w.Accounted := by
    intro w there
    rcases List.mem_or_eq_of_mem_set there with old | rfl
    · exact before w old
    · exact accounted
  cases h with
  | arrive =>
    intro w there
    rcases List.mem_append.mp there with old | new
    · exact before w old
    · obtain rfl := List.mem_singleton.mp new
      exact Nat.zero_add _
  | read here ready todo =>
    have accounted := before _ (List.mem_of_getElem? here)
    exact turned accounted
  | plan here known todo planned =>
    have accounted := before _ (List.mem_of_getElem? here)
    exact turned accounted
  | ignore here known todo unchanged =>
    exact turned ((before _ (List.mem_of_getElem? here)).finish todo c .ignored)
  | conflict here drafted todo failed =>
    exact turned ((before _ (List.mem_of_getElem? here)).retry todo c)
  | accept here drafted todo done committed =>
    exact turned ((before _ (List.mem_of_getElem? here)).finish todo c _)
  | _ => exact before

theorem balanced_after (c : AlertConfig) (events : List AlertEvent) :
    (after c events).Balanced := by
  refine invariant_after (c := c) (P := Balanced) ?_ ?_ events
  · constructor <;> simp [AlertStore.occurrences, AlertStore.recordCount, alerts, AlertStore.empty,
      OrderedMap.values]
  · intro s t e sound balanced transition
    exact ⟨transition.occurrences balanced, transition.recordCount balanced,
      fun k => transition.tallied balanced, transition.accounted balanced⟩

theorem countP_occurs (l : List (String × Applied)) :
    l.countP (·.2.occurs) =
      l.countP (fun e => e.2 = .created) + l.countP (fun e => e.2 = .updated) := by
  induction l with
  | nil => rfl
  | cons e rest ih =>
    obtain ⟨fp, applied⟩ := e
    rw [List.countP_cons, List.countP_cons, List.countP_cons, ih]
    cases applied <;> simp [Applied.occurs] <;> omega

theorem Sound.returned (sound : Sound c s) {w : Ingester} (there : w ∈ s.ingesters)
    (returned : w.result? ≠ none) : w.result? = some (.ok w.counts) ∧ w.todo = [] := by
  have grounded := sound.grounded w there
  unfold Ingester.Grounded at grounded
  unfold Ingester.result? at returned ⊢
  split at returned
  · rename_i e stage
    simp only [stage] at grounded
  · rename_i ready nothingLeft
    exact ⟨rfl, nothingLeft⟩
  · exact absurd rfl returned

theorem Balanced.outcomes (balanced : s.Balanced) (sound : Sound c s)
    (returned : ∀ w ∈ s.ingesters, w.result? ≠ none) :
    ∃ outcomes : List IngestCounts,
      s.ingesters.map (·.result?) = outcomes.map (some ∘ .ok) ∧
      outcomes.map (·.total) = s.ingesters.map (·.batch.length) ∧
      (s.store.alerts.map (·.occurrenceCount)).sum =
        (IngestCounts.mergeAll outcomes).created + (IngestCounts.mergeAll outcomes).updated := by
  refine ⟨s.ingesters.map (·.counts), ?_, ?_, ?_⟩
  · rw [List.map_map]
    exact List.map_congr_left fun w there => (sound.returned there (returned w there)).1
  · rw [List.map_map]
    refine List.map_congr_left fun w there => ?_
    have accounted := balanced.accounted w there
    rw [Ingester.Accounted, (sound.returned there (returned w there)).2] at accounted
    exact accounted
  · have total (k : Applied) : (IngestCounts.mergeAll (s.ingesters.map (·.counts))).of k =
        (s.ingesters.map (·.counts.of k)).sum := by
      rw [IngestCounts.of_mergeAll, List.map_map]
      rfl
    have created := (total .created).trans (balanced.tallied .created (by simp))
    have updated := (total .updated).trans (balanced.tallied .updated (by simp))
    have all := balanced.occurrences fun _ => true
    have kept : s.store.alerts.filter (fun _ => true) = s.store.alerts :=
      List.filter_eq_self.mpr fun _ _ => rfl
    simp only [AlertStore.occurrences, kept, Bool.true_and, countP_occurs] at all
    rw [all, ← created, ← updated]
    rfl

/-- After any traffic, the occurrences of a fingerprint are its commits that created or updated, and
its alerts are its commits that created.  When all batches have returned, the outcomes account for
each finding and for all occurrences in the store. -/
theorem occurrences_conserved (c : AlertConfig) (events : List AlertEvent) :
    let s := after c events
    (∀ fp, ((s.store.alertsFor fp).map (·.occurrenceCount)).sum =
        s.accepted.countP (fun e => e.1 = fp && e.2.occurs) ∧
      (s.store.alertsFor fp).length = s.accepted.count (fp, .created)) ∧
    ((∀ w ∈ s.ingesters, w.result? ≠ none) →
      ∃ outcomes : List IngestCounts,
        s.ingesters.map (·.result?) = outcomes.map (some ∘ .ok) ∧
        outcomes.map (·.total) = s.ingesters.map (·.batch.length) ∧
        (s.store.alerts.map (·.occurrenceCount)).sum =
          (IngestCounts.mergeAll outcomes).created + (IngestCounts.mergeAll outcomes).updated) := by
  intro s
  have balanced : s.Balanced := balanced_after c events
  refine ⟨fun fp => ⟨balanced.occurrences (· = fp), ?_⟩, balanced.outcomes (sound_after c events)⟩
  have created := balanced.recordCount (· = fp)
  refine created.trans (List.countP_congr fun e _ => ?_)
  simp [Prod.ext_iff]

/-- Two ingesters race to create an alert; the one that loses reads again and updates it. -/
def race : List AlertEvent :=
  [.arrive "a" [highCpu], .arrive "b" [highCpu], .read 0, .read 1, .plan 0 default ⟨1⟩,
    .plan 1 default ⟨2⟩, .commit 0, .commit 1, .read 1, .plan 1 default ⟨3⟩, .commit 1]

example :
    let s := after {} race
    s.store.alerts.map (·.occurrenceCount) = [2] ∧
      s.accepted.map Prod.snd = [.created, .updated] ∧
      s.ingesters.all (fun w => w.result?.isSome) := by
  decide +kernel

end AlertTraffic

end DeviceWatch
