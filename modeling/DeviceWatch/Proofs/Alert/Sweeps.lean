import DeviceWatch.Proofs.Alert.Versions

/-!
# The sweep over suppressions

A sweep lists the alerts whose window is over and then ends their suppressions one by one.  What it
has done to one alert does not touch those that it has yet to come to, so that in the end it has
released just the alerts that had lapsed at the beginning.  A window that is over stays over: an
earlier sweep finds nothing more to do, and a later one ends where it would have ended alone.
-/

namespace DeviceWatch

namespace Alert

/-- The alert is suppressed until a time that has come. -/
def lapsed (a : Alert) (now : Instant) : Bool :=
  a.status = .suppressed && match a.suppressedUntil with
    | some until' => decide (until' ≤ now)
    | none => false

/-- The alert as it is written when its suppression ends. -/
def released (a : Alert) (now : Instant) : Alert :=
  { a with
    status := .active
    suppressedUntil := none
    updatedAt := now
    version := a.version + 1 }

/-- What a sweep leaves of the alert. -/
def afterSweep (a : Alert) (now : Instant) : Alert := if a.lapsed now then a.released now else a

variable {a : Alert} {now earlier : Instant}

theorem lapsed_iff : a.lapsed now = true ↔
    a.status = .suppressed ∧ ∃ until', a.suppressedUntil = some until' ∧ until' ≤ now := by
  unfold lapsed
  cases a.suppressedUntil <;> simp

/-- Suppressed and no longer in force means lapsed. -/
theorem lapsed_eq (a : Alert) (now : Instant) :
    (a.status = .suppressed && !a.suppressionActive now) = a.lapsed now := by
  unfold lapsed suppressionActive
  by_cases suppressed : a.status = .suppressed
  · cases a.suppressedUntil with
    | none => simp [suppressed]
    | some until' => simp [suppressed, ← Std.not_lt]
  · simp [suppressed]

theorem lapsed_mono (lapses : a.lapsed earlier = true) (le : earlier ≤ now) :
    a.lapsed now = true := by
  obtain ⟨suppressed, until', found, past⟩ := lapsed_iff.mp lapses
  exact lapsed_iff.mpr ⟨suppressed, until', found, Std.le_trans past le⟩

theorem lapsed_released (a : Alert) (now later : Instant) : (a.released now).lapsed later = false :=
  rfl

theorem lapsed_afterSweep (a : Alert) (le : earlier ≤ now) :
    (a.afterSweep now).lapsed earlier = false := by
  unfold afterSweep
  split
  · rfl
  · rename_i stays
    rw [Bool.eq_false_iff]
    exact fun lapses => stays (lapsed_mono lapses le)

theorem afterSweep_id (a : Alert) (now : Instant) : (a.afterSweep now).id = a.id := by
  unfold afterSweep
  split <;> rfl

theorem afterSweep_afterSweep (a : Alert) (le : earlier ≤ now) :
    (a.afterSweep now).afterSweep earlier = a.afterSweep now := by
  rw [afterSweep, lapsed_afterSweep a le]
  rfl

theorem status_afterSweep_afterSweep (a : Alert) (le : earlier ≤ now) :
    ((a.afterSweep earlier).afterSweep now).status = (a.afterSweep now).status := by
  unfold afterSweep
  by_cases lapses : a.lapsed earlier = true
  · rw [if_pos lapses, lapsed_released, if_pos (lapsed_mono lapses le)]
    rfl
  · rw [if_neg lapses]

end Alert

namespace AlertStore

variable {s : AlertStore} {now earlier : Instant}

def OwnIds (s : AlertStore) : Prop := ∀ {id a}, s.records.find? id = some a → a.id = id

/-- The store in which every alert is as a sweep leaves it. -/
def afterSweep (s : AlertStore) (now : Instant) : AlertStore :=
  { s with records := s.records.mapEntries fun _ a => a.afterSweep now }

theorem alerts_afterSweep (s : AlertStore) (now : Instant) :
    (s.afterSweep now).alerts = s.alerts.map (·.afterSweep now) :=
  OrderedMap.values_mapEntries s.records _

theorem OwnIds.afterSweep (own : s.OwnIds) (now : Instant) : (s.afterSweep now).OwnIds := by
  intro id b found
  rw [AlertStore.afterSweep, OrderedMap.find?_mapEntries] at found
  obtain ⟨a, stored, rfl⟩ := Option.map_eq_some_iff.mp found
  rw [Alert.afterSweep_id]
  exact own stored

theorem modify_reactivate {id : Uuid} {a : Alert} (stored : s.records.find? id = some a)
    (lapses : a.lapsed now = true) :
    s.modify id (reactivate now) = .ok (a.released now, s.put id (a.released now)) := by
  rw [← a.lapsed_eq, Bool.and_eq_true, decide_eq_true_iff, Bool.not_eq_true'] at lapses
  have allowed : reactivate now a =
      .ok { a with status := .active, suppressedUntil := none, updatedAt := now } := by
    simp [reactivate, lapses]
  simp only [modify, get, stored, allowed, bind, Except.bind]
  rfl

theorem foldl_expireOne (ids : List Uuid) (distinct : ids.Nodup)
    (lapsed : ∀ id ∈ ids, ∃ a, s.records.find? id = some a ∧ a.lapsed now = true) (n : Nat) :
    ids.foldl (expireOne now) (n, s) = (n + ids.length, { s with
      records := s.records.mapEntries fun id a => if id ∈ ids then a.released now else a }) := by
  induction ids generalizing s n with
  | nil =>
    have same : (s.records.mapEntries fun _ a => a) = s.records :=
      OrderedMap.eq_of_entries_eq (List.map_id _)
    simp [same]
  | cons id rest ih =>
    obtain ⟨first, distinct⟩ := List.nodup_cons.mp distinct
    obtain ⟨a, stored, lapses⟩ := lapsed id List.mem_cons_self
    have ended : expireOne now (n, s) id = (n + 1, s.put id (a.released now)) := by
      rw [expireOne, modify_reactivate stored lapses]
    -- What is still to do has not been touched.
    have others : ∀ k ∈ rest, ∃ b, (s.put id (a.released now)).records.find? k = some b ∧
        b.lapsed now = true := by
      intro k later
      have differ : k ≠ id := fun same => first (same ▸ later)
      obtain ⟨b, found, lapses⟩ := lapsed k (List.mem_cons_of_mem id later)
      exact ⟨b, by rw [find?_put, if_neg differ, found], lapses⟩
    have replaced : s.records.insert id (a.released now) =
        s.records.mapEntries fun k b => if k = id then a.released now else b :=
      dif_pos (OrderedMap.mem_keys_iff.mpr ⟨a, stored⟩)
    have together : (s.records.mapEntries fun k b =>
          if k ∈ rest then (if k = id then a.released now else b).released now
          else if k = id then a.released now else b) =
        s.records.mapEntries fun k b => if k ∈ id :: rest then b.released now else b := by
      refine OrderedMap.mapEntries_congr fun k b found => ?_
      by_cases same : k = id
      · subst same
        obtain rfl := Option.some.inj (stored.symm.trans found)
        simp [first]
      · simp [same]
    rw [List.foldl_cons, ended, ih distinct others]
    simp only [put, replaced, OrderedMap.mapEntries_mapEntries, together, List.length_cons,
      Nat.add_right_comm n 1, Nat.add_assoc]

theorem expiredSuppressions_eq (s : AlertStore) (now : Instant) :
    s.expiredSuppressions now = (s.alerts.filter (·.lapsed now)).map (·.id) := by
  simp only [expiredSuppressions, Alert.lapsed_eq]

theorem expireSuppressions_eq (own : s.OwnIds) (now : Instant) :
    s.expireSuppressions now = (s.alerts.countP (·.lapsed now), s.afterSweep now) := by
  have listed (id : Uuid) : id ∈ s.expiredSuppressions now ↔
      ∃ a, s.records.find? id = some a ∧ a.lapsed now = true := by
    rw [expiredSuppressions_eq, List.mem_map]
    constructor
    · rintro ⟨a, found, rfl⟩
      obtain ⟨there, lapses⟩ := List.mem_filter.mp found
      obtain ⟨id, stored⟩ := mem_alerts_iff.mp there
      rw [own stored]
      exact ⟨a, stored, lapses⟩
    · rintro ⟨a, stored, lapses⟩
      exact ⟨a, List.mem_filter.mpr ⟨mem_alerts_iff.mpr ⟨id, stored⟩, lapses⟩, own stored⟩
  have distinct : (s.expiredSuppressions now).Nodup := by
    rw [expiredSuppressions_eq]
    exact OrderedMap.nodup_filter_values (fun id a => own) _
  have released : (s.records.mapEntries fun id a =>
        if id ∈ s.expiredSuppressions now then a.released now else a) =
      s.records.mapEntries fun _ a => a.afterSweep now := by
    refine OrderedMap.mapEntries_congr fun id a stored => ?_
    have lapses : id ∈ s.expiredSuppressions now ↔ a.lapsed now = true := by
      rw [listed, stored]
      simp
    simp only [lapses, Alert.afterSweep]
  rw [expireSuppressions, foldl_expireOne _ distinct fun id => (listed id).mp, released,
    expiredSuppressions_eq, List.length_map, ← List.countP_eq_length_filter, Nat.zero_add]
  rfl

theorem expireSuppressions_afterSweep (own : s.OwnIds) (le : earlier ≤ now) :
    (s.afterSweep now).expireSuppressions earlier = (0, s.afterSweep now) := by
  rw [expireSuppressions_eq (own.afterSweep now), alerts_afterSweep, Prod.mk.injEq]
  constructor
  · rw [List.countP_eq_zero]
    intro b there
    obtain ⟨a, -, rfl⟩ := List.mem_map.mp there
    rw [Alert.lapsed_afterSweep a le]
    exact Bool.false_ne_true
  · simp only [afterSweep, OrderedMap.mapEntries_mapEntries, Alert.afterSweep_afterSweep _ le]

theorem statuses_afterSweep_afterSweep (s : AlertStore) (le : earlier ≤ now) :
    ((s.afterSweep earlier).afterSweep now).alerts.map (fun a => (a.id, a.status)) =
      (s.afterSweep now).alerts.map fun a => (a.id, a.status) := by
  simp only [alerts_afterSweep, List.map_map]
  refine List.map_congr_left fun a _ => ?_
  simp only [Function.comp_apply, Alert.afterSweep_id, Alert.status_afterSweep_afterSweep a le]

/-- In every store that calls lead to, a sweep tells how many alerts have lapsed.  It writes these as
released, and leaves the other alerts, their order and what is the latest of a fingerprint as they
are.  A second sweep that is not later finds nothing and changes nothing, and two sweeps leave the
statuses of the later one. -/
theorem sweep_exact (calls : List AlertCall) (now : Instant) :
    let s := empty.performAll calls
    let swept := (s.expireSuppressions now).2
    (s.expireSuppressions now).1 = s.alerts.countP (·.lapsed now) ∧
    swept.records = s.records.mapEntries (fun _ a => if a.lapsed now then a.released now else a) ∧
    swept.latest = s.latest ∧
    (∀ earlier, earlier ≤ now → swept.expireSuppressions earlier = (0, swept)) ∧
    ∀ later, now ≤ later →
      (swept.expireSuppressions later).2.alerts.map (fun a => (a.id, a.status)) =
        (s.expireSuppressions later).2.alerts.map fun a => (a.id, a.status) := by
  intro s swept
  have own : s.OwnIds := (versioned_empty.performAll calls).own_id
  have result : s.expireSuppressions now = (s.alerts.countP (·.lapsed now), s.afterSweep now) :=
    expireSuppressions_eq own now
  have store : swept = s.afterSweep now := congrArg Prod.snd result
  refine ⟨congrArg Prod.fst result, ?_, ?_, fun earlier le => ?_, fun later le => ?_⟩
  · rw [store]
    rfl
  · rw [store]
    rfl
  · rw [store]
    exact expireSuppressions_afterSweep own le
  · rw [store, expireSuppressions_eq (own.afterSweep now), expireSuppressions_eq own]
    exact statuses_afterSweep_afterSweep s le

/-- Three alerts are suppressed, until a time, until a later one, and for good. -/
def threeSuppressed : List AlertCall :=
  let alert (n : Nat) (fp : String) := Alert.ofFinding ⟨n⟩ fp none AlertTraffic.highCpu ⟨1⟩
  [.commit (alert 1 "first"), .commit (alert 2 "second"), .commit (alert 3 "third"),
    .apply ⟨1⟩ (.suppress (some ⟨10⟩)) ⟨2⟩, .apply ⟨2⟩ (.suppress (some ⟨20⟩)) ⟨2⟩,
    .apply ⟨3⟩ (.suppress none) ⟨2⟩]

/-- At the end of the first window one alert is released, and a sweep after the second window
releases the other one. -/
theorem sweep_exact_threeSuppressed :
    let s := empty.performAll threeSuppressed
    let swept := (s.expireSuppressions ⟨10⟩).2
    (s.expireSuppressions ⟨10⟩).1 = 1 ∧ swept.expireSuppressions ⟨9⟩ = (0, swept) ∧
    (swept.expireSuppressions ⟨25⟩).2.alerts.map (fun a => (a.id, a.status)) =
      [(⟨1⟩, .active), (⟨2⟩, .active), (⟨3⟩, .suppressed)] := by
  intro s swept
  obtain ⟨count, -, -, again, later⟩ := sweep_exact threeSuppressed ⟨10⟩
  refine ⟨count.trans (by decide +kernel), again ⟨9⟩ (by decide), ?_⟩
  exact (later ⟨25⟩ (by decide)).trans (by decide +kernel)

end AlertStore

end DeviceWatch
