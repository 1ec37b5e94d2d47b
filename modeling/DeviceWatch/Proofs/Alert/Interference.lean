import Mathlib.Data.List.Induction
import DeviceWatch.Proofs.Alert.Versions

/-!
# Interference between writers

Ingesters, operators and sweeps write to the same alerts.  A write to an alert leaves the latest
alerts of all other fingerprints as they are, and a commit is accepted so long as the latest alert
of its fingerprint is the one that it was planned from.  What makes a commit fail is thus a write to
the same fingerprint.  A new alert needs an identifier besides that has not been drawn before.
-/

namespace DeviceWatch

open Correlation AlertStore

/-- Who writes to the alerts; an ingester or a sweep is known by its place in the traffic. -/
inductive Writer where
  | ingester (i : Nat)
  | operator
  | sweep (i : Nat)
  deriving DecidableEq

/-- A write that the store has accepted, with the fingerprint of the alert that was written. -/
structure AlertWrite where
  writer : Writer
  fingerprint : String
  deriving DecidableEq

def Ingester.draft? (w : Ingester) : Option Alert :=
  match w.stage, w.todo with
  | .planned next _, _ :: _ => some next
  | _, _ => none

namespace AlertTraffic

/-- The write that an event asks for, and the answer of the store. -/
def asks? (s : AlertTraffic) : AlertEvent → Option (Writer × Outcome (Alert × AlertStore))
  | .commit i =>
    (s.ingesters[i]?.bind Ingester.draft?).map fun next => (.ingester i, s.store.commit next)
  | .operate id action now => some (.operator, s.store.apply id action now)
  | .expire i =>
    match s.sweeps[i]? with
    | some ⟨now, id :: _⟩ => some (.sweep i, s.store.modify id (reactivate now))
    | _ => none
  | _ => none

def write? (s : AlertTraffic) (e : AlertEvent) : Option AlertWrite :=
  match s.asks? e with
  | some (writer, .ok (a, _)) => some ⟨writer, a.fingerprint⟩
  | _ => none

variable {c : AlertConfig} {s : AlertTraffic} {e : AlertEvent} {x : AlertWrite} {writer : Writer}
  {answer : Outcome (Alert × AlertStore)} {w : Ingester}

theorem draft?_eq_some {next : Alert} (drafted : w.draft? = some next) :
    ∃ applied f rest, w.stage = .planned next applied ∧ w.todo = f :: rest := by
  unfold Ingester.draft? at drafted
  split at drafted
  · rename_i stage todo
    cases drafted
    exact ⟨_, _, _, stage, todo⟩
  · cases drafted

theorem write?_eq_some (written : s.write? e = some x) :
    ∃ a t, s.asks? e = some (x.writer, .ok (a, t)) ∧ x.fingerprint = a.fingerprint := by
  unfold write? at written
  split at written
  · rename_i asked
    cases written
    exact ⟨_, _, asked, rfl⟩
  · cases written

theorem asks?_commit_eq_some {i : Nat} (asked : s.asks? (.commit i) = some (writer, answer)) :
    ∃ w next applied f rest, s.ingesters[i]? = some w ∧ w.stage = .planned next applied ∧
      w.todo = f :: rest ∧ writer = .ingester i ∧ answer = s.store.commit next := by
  obtain ⟨next, found, made⟩ := Option.map_eq_some_iff.mp asked
  obtain ⟨w, here, drafted⟩ := Option.bind_eq_some_iff.mp found
  obtain ⟨applied, f, rest, stage, todo⟩ := draft?_eq_some drafted
  cases made
  exact ⟨w, next, applied, f, rest, here, stage, todo, rfl, rfl⟩

theorem asks?_expire_eq_some {i : Nat} (asked : s.asks? (.expire i) = some (writer, answer)) :
    ∃ now id rest, s.sweeps[i]? = some ⟨now, id :: rest⟩ ∧ writer = .sweep i ∧
      answer = s.store.modify id (reactivate now) := by
  simp only [asks?] at asked
  split at asked
  · rename_i here
    cases asked
    exact ⟨_, _, _, here, rfl, rfl⟩
  · cases asked

/-- An event leaves the store as the write that it asks for does. -/
theorem store_step_of_asks (asked : s.asks? e = some (writer, answer)) :
    (step c s e).store = s.store.settled answer := by
  cases e with
  | commit i =>
    obtain ⟨w, next, applied, f, rest, here, stage, todo, -, rfl⟩ := asks?_commit_eq_some asked
    cases done : s.store.commit next <;>
      simp [step, here, AlertTraffic.commit, stage, todo, done, settled]
  | operate id action now =>
    cases asked
    cases done : s.store.apply id action now <;> simp [step, done, settled]
  | expire i =>
    obtain ⟨now, id, rest, here, -, rfl⟩ := asks?_expire_eq_some asked
    simp only [step, here]
    exact expireOne_eq now (0, s.store) id
  | _ => cases asked

theorem store_step_of_silent (silent : s.asks? e = none) : (step c s e).store = s.store := by
  cases e with
  | read i | plan i =>
    simp only [step]
    split <;> rfl
  | commit i =>
    simp only [step]
    split
    · rename_i w here
      unfold AlertTraffic.commit
      split
      · rename_i next applied f rest stage todo
        simp [asks?, here, Ingester.draft?, stage, todo] at silent
      · rfl
    · rfl
  | expire i =>
    simp only [step]
    split
    · rename_i now id rest here
      simp [asks?, here] at silent
    · rfl
  | operate => cases silent
  | _ => rfl

theorem settled_eq_iff (asked : s.asks? e = some (writer, answer)) :
    s.store.settled answer = s.store ↔ ∃ error, answer = .error error := by
  cases e with
  | commit i =>
    obtain ⟨w, next, applied, f, rest, -, -, -, -, rfl⟩ := asks?_commit_eq_some asked
    exact settled_commit_eq_iff next
  | operate id action now =>
    cases asked
    exact settled_modify_eq_iff id (action.applyTo now)
  | expire i =>
    obtain ⟨now, id, rest, -, -, rfl⟩ := asks?_expire_eq_some asked
    exact settled_modify_eq_iff id (reactivate now)
  | _ => cases asked

/-- The events that make a write are those that change the store. -/
theorem store_step_eq_iff : (step c s e).store = s.store ↔ s.write? e = none := by
  cases asked : s.asks? e with
  | none => simp [store_step_of_silent asked, write?, asked]
  | some result =>
    obtain ⟨writer, answer⟩ := result
    rw [store_step_of_asks asked, settled_eq_iff asked]
    cases answer <;> simp [write?, asked]

end AlertTraffic

namespace AlertStore

inductive WritesTo (s : AlertStore) (fp : String) : AlertStore → Prop
  | revise {id : Uuid} {old new : Alert} (stored : s.records.find? id = some old)
      (matching : old.fingerprint = fp) : WritesTo s fp (s.put id new)
  | create {new : Alert} (absent : s.records.find? new.id = none)
      (matching : new.fingerprint = fp) : WritesTo s fp (s.add new)

variable {s t : AlertStore} {fp : String}

theorem WritesTo.latestFor (h : s.WritesTo fp t) (coherent : s.Coherent) {other : String}
    (differ : fp ≠ other) : t.latestFor other = s.latestFor other := by
  -- The record that was written is not the latest of the other fingerprint.
  cases h with
  | @revise id old new stored matching =>
    unfold AlertStore.latestFor
    rw [put_latest]
    cases found : s.latest.find? other with
    | none => rfl
    | some k =>
      obtain ⟨a, storedA, otherOne⟩ := coherent.latest_stored found
      have apart : k ≠ id := by
        rintro rfl
        cases stored.symm.trans storedA
        exact differ (matching.symm.trans otherOne)
      exact (find?_put s id k new).trans (if_neg apart)
  | @create new absent matching =>
    unfold AlertStore.latestFor
    rw [latest_find?_add, if_neg fun same => differ (matching.symm.trans same.symm)]
    cases found : s.latest.find? other with
    | none => rfl
    | some k =>
      obtain ⟨a, storedA, -⟩ := coherent.latest_stored found
      have apart : k ≠ new.id := by
        rintro rfl
        cases absent.symm.trans storedA
      exact (find?_add s k new).trans (if_neg apart)

end AlertStore

theorem Committed.writesTo {policy : ReopenPolicy} {s t : AlertStore} {connector : String}
    {f : Finding} {next : Alert} {applied : Applied}
    (h : Committed policy s connector f next applied t) :
    s.WritesTo f.fingerprint t ∧ next.fingerprint = f.fingerprint := by
  cases h with
  | created occurs absent closed fresh =>
    subst fresh
    exact ⟨.create absent rfl, rfl⟩
  | @updated now a _ occurs stored matching reopens refreshed =>
    have kept : next.fingerprint = a.fingerprint := refreshed ▸ reopened_fingerprint a
    exact ⟨.revise stored matching, kept.trans matching⟩
  | @resolved now a _ ends stored matching wasOpen clears =>
    have kept : next.fingerprint = a.fingerprint := clears ▸ rfl
    exact ⟨.revise stored matching, kept.trans matching⟩

namespace AlertTraffic

variable {c : AlertConfig} {s : AlertTraffic} {e : AlertEvent} {x : AlertWrite} {fp : String}

theorem Sound.writesTo (sound : Sound c s) (written : s.write? e = some x) :
    s.store.WritesTo x.fingerprint (step c s e).store := by
  obtain ⟨a, t, asked, sameFingerprint⟩ := write?_eq_some written
  rw [store_step_of_asks asked, sameFingerprint]
  -- An operator or a sweep writes to a stored alert and keeps its fingerprint.
  have adjusted {id : Uuid} {change : Alert → Outcome Alert}
      (adjusts : ∀ {old next}, change old = .ok next → old.Adjusts next)
      (done : s.store.modify id change = .ok (a, t)) : s.store.WritesTo a.fingerprint t := by
    obtain ⟨old, next, stored, changed, rfl, rfl⟩ := modify_eq_ok done
    exact .revise stored (adjusts changed).fingerprint.symm
  cases e with
  | commit i =>
    obtain ⟨w, next, applied, f, rest, here, stage, todo, -, done⟩ := asks?_commit_eq_some asked
    have accepts : s.Accepts (.commit i) next applied := ⟨w, a, t, here, stage, done.symm⟩
    obtain ⟨connector, g, committed⟩ := sound.committed_of_accepts accepts
    rw [store_step_of_asks asked] at committed
    obtain ⟨writes, matching⟩ := committed.writesTo
    rw [eq_bumped_of_commit done.symm]
    exact matching ▸ writes
  | operate id action now =>
    obtain ⟨-, done⟩ := Prod.mk.inj (Option.some.inj asked)
    exact adjusted AlertAction.adjusts done
  | expire i =>
    obtain ⟨now, id, rest, -, -, done⟩ := asks?_expire_eq_some asked
    exact adjusted reactivate_adjusts done.symm
  | _ => cases asked

/-- A fingerprint that is not written to keeps its latest alert. -/
theorem Sound.latestFor_step (sound : Sound c s)
    (elsewhere : ∀ x, s.write? e = some x → x.fingerprint ≠ fp) :
    (step c s e).store.latestFor fp = s.store.latestFor fp := by
  cases written : s.write? e with
  | none => rw [store_step_eq_iff.mpr written]
  | some x => exact (sound.writesTo written).latestFor sound.coherent (elsewhere x written)

end AlertTraffic

/-- A plan from the latest alert of its fingerprint is accepted, if a new alert has an identifier that
is not in use. -/
theorem commit_of_latest {policy : ReopenPolicy} {s : AlertStore} {connector : String}
    {f : Finding} {latest : Option Alert} {now : Instant} {id : Uuid} {next : Alert}
    {applied : Applied} (coherent : s.Coherent) (current : s.latestFor f.fingerprint = latest)
    (planned : plan policy connector f.fingerprint latest f now id = some (next, applied))
    (unused : applied = .created → s.records.find? next.id = none) :
    ∃ t, s.commit next = .ok (bumped next, t) := by
  -- The alert that was read is the stored one.
  have stored {a : Alert} (read : latest = some a) : s.records.find? a.id = some a := by
    obtain ⟨id, -, found⟩ := latestFor_eq_some_iff.mp (current.trans read)
    rwa [← coherent.own_id found] at found
  rcases plan_eq_some planned with ⟨rfl, -, closed, rfl⟩ | ⟨a, read, -, -, -, rfl⟩ |
    ⟨a, read, -, -, -, rfl⟩
  · refine ⟨_, commit_of_absent (unused rfl) rfl ?_⟩
    show s.isOpenFor f.fingerprint = false
    unfold isOpenFor
    rw [current]
    cases read : latest with
    | none => rfl
    | some a => exact congrArg AlertStatus.isOpen (closed a read).1
  · have found := (congrArg s.records.find? (reopened_id a)).trans (stored read)
    exact ⟨_, commit_of_current found (reopened_version a).symm⟩
  · have found : s.records.find? (cleared a f now).id = some a := stored read
    exact ⟨_, commit_of_current found rfl⟩

def AlertEvent.drawn? : AlertEvent → Option Uuid
  | .plan _ _ id => some id
  | _ => none

/-- The ingester has planned a new alert under the identifier. -/
def Ingester.claims (id : Uuid) (w : Ingester) : Bool :=
  match w.stage with
  | .planned next .created => next.id = id
  | _ => false

theorem Ingester.claims_of_ready {w : Ingester} (ready : w.stage = .ready) (id : Uuid) :
    w.claims id = false := by
  unfold claims
  rw [ready]

namespace AlertStore

/-- One if a record has the identifier. -/
def inUse (s : AlertStore) (id : Uuid) : Nat := (s.records.find? id).isSome.toNat

theorem inUse_put {s : AlertStore} {id : Uuid} {old : Alert} (stored : s.records.find? id = some old)
    (new : Alert) (k : Uuid) : (s.put id new).inUse k = s.inUse k := by
  unfold inUse
  rw [find?_put]
  split
  · rename_i same
    rw [same, stored]
    rfl
  · rfl

theorem inUse_add {s : AlertStore} {a : Alert} (absent : s.records.find? a.id = none) (k : Uuid) :
    (s.add a).inUse k = s.inUse k + if a.id = k then 1 else 0 := by
  unfold inUse
  rw [find?_add]
  by_cases same : k = a.id
  · simp [same, absent]
  · simp [same, Ne.symm same]

end AlertStore

namespace AlertTraffic

/-- No identifier is drawn twice. -/
def DrawnOnce (events : List AlertEvent) : Prop := (events.filterMap AlertEvent.drawn?).Nodup

instance (events : List AlertEvent) : Decidable (DrawnOnce events) :=
  inferInstanceAs (Decidable (events.filterMap AlertEvent.drawn?).Nodup)

/-- How many plans and records there are for an identifier. -/
def claimsOf (s : AlertTraffic) (id : Uuid) : Nat :=
  s.ingesters.countP (·.claims id) + s.store.inUse id

variable {c : AlertConfig} {s t : AlertTraffic} {e : AlertEvent} {w w' : Ingester} {i : Nat}

theorem countP_claims_le (here : s.ingesters[i]? = some w) {id : Uuid}
    (unclaimed : w'.claims id = false) :
    (s.ingesters.set i w').countP (·.claims id) ≤ s.ingesters.countP (·.claims id) := by
  have balance := countP_set_add here (·.claims id) w'
  rw [unclaimed, if_neg Bool.false_ne_true] at balance
  omega

theorem countP_claims_plan {policy : ReopenPolicy} {connector fp : String} {latest : Option Alert}
    {f : Finding} {now : Instant} {drawn : Uuid} {next : Alert} {applied : Applied}
    (here : s.ingesters[i]? = some w)
    (planned : plan policy connector fp latest f now drawn = some (next, applied)) (id : Uuid) :
    (s.ingesters.set i { w with stage := .planned next applied }).countP (·.claims id) ≤
      s.ingesters.countP (·.claims id) + if drawn = id then 1 else 0 := by
  have balance := countP_set_add here (·.claims id) { w with stage := .planned next applied }
  rcases plan_eq_some planned with ⟨rfl, -, -, rfl⟩ | ⟨a, -, rfl, -⟩ | ⟨a, -, rfl, -⟩
  · have claimed : Ingester.claims id
        { w with stage := .planned (Alert.ofFinding drawn fp (some connector) f now) .created } =
          decide (drawn = id) := rfl
    rw [claimed] at balance
    simp only [decide_eq_true_eq] at balance
    omega
  · exact Nat.le_add_right_of_le (countP_claims_le here rfl)
  · exact Nat.le_add_right_of_le (countP_claims_le here rfl)

/-- A commit turns the claim of the ingester into a record. -/
theorem claimsOf_accept {policy : ReopenPolicy} {f : Finding} {next : Alert} {applied : Applied}
    {store : AlertStore} (here : s.ingesters[i]? = some w)
    (drafted : w.stage = .planned next applied)
    (committed : Committed policy s.store w.connector f next applied store) (id : Uuid) :
    (s.ingesters.set i (w.finish c applied)).countP (·.claims id) + store.inUse id ≤
      s.claimsOf id := by
  have ready := Ingester.claims_of_ready (w := w.finish c applied) rfl id
  cases committed with
  | created occurs absent closed fresh =>
    have claimed : w.claims id = decide (next.id = id) := by
      unfold Ingester.claims
      rw [drafted]
    have balance := countP_set_add here (·.claims id) (w.finish c .created)
    rw [claimed, ready, if_neg Bool.false_ne_true] at balance
    simp only [decide_eq_true_eq] at balance
    have added : (s.store.add (bumped next)).inUse id =
        s.store.inUse id + if next.id = id then 1 else 0 := by
      subst fresh
      exact inUse_add absent id
    rw [added, claimsOf]
    omega
  | updated occurs stored =>
    rw [inUse_put stored]
    exact Nat.add_le_add_right (countP_claims_le here ready) _
  | resolved ends stored =>
    rw [inUse_put stored]
    exact Nat.add_le_add_right (countP_claims_le here ready) _

theorem Transition.claimsOf_le (h : Transition c s e t) (id : Uuid) :
    t.claimsOf id ≤ s.claimsOf id + if e.drawn? = some id then 1 else 0 := by
  -- Whoever is turned without a plan for a new alert adds no claim.
  have turned {i : Nat} {w w' : Ingester} (here : s.ingesters[i]? = some w)
      (unclaimed : w'.claims id = false) :
      (s.ingesters.set i w').countP (·.claims id) + s.store.inUse id ≤ s.claimsOf id :=
    Nat.add_le_add_right (countP_claims_le here unclaimed) _
  cases h with
  | arrive =>
    refine Nat.le_add_right_of_le (Nat.add_le_add_right ?_ _)
    simp [Ingester.claims_of_ready, Ingester.start]
  | read here => exact turned here rfl
  | plan here known todo planned =>
    have claims := countP_claims_plan here planned id
    simp only [claimsOf, AlertEvent.drawn?, Option.some.injEq]
    omega
  | ignore here => exact Nat.le_add_right_of_le (turned here (Ingester.claims_of_ready rfl id))
  | accept here drafted todo done committed => exact claimsOf_accept here drafted committed id
  | conflict here => exact turned here (Ingester.claims_of_ready (Ingester.retry_stage c _) id)
  | operate stored => exact Nat.le_of_eq (congrArg (_ + ·) (inUse_put stored _ id))
  | expire here stored => exact Nat.le_of_eq (congrArg (_ + ·) (inUse_put stored _ id))
  | _ => exact Nat.le_add_right _ _

theorem claimsOf_after_le (c : AlertConfig) (events : List AlertEvent) (id : Uuid) :
    (after c events).claimsOf id ≤ (events.filterMap AlertEvent.drawn?).count id := by
  induction events using List.reverseRecOn with
  | nil => exact Nat.le_refl 0
  | append_singleton events e ih =>
    have step := ((sound_after c events).transition_step e).claimsOf_le id
    rw [List.filterMap_append, List.count_append]
    have counted : ([e].filterMap AlertEvent.drawn?).count id =
        if e.drawn? = some id then 1 else 0 := by
      cases drawn : e.drawn? <;> simp [drawn, List.count_singleton]
    rw [after, run_append]
    change (AlertTraffic.step c (after c events) e).claimsOf id ≤ _
    omega

/-- If no identifier is drawn twice, the identifier of a plan for a new alert is not in use. -/
theorem unused_after {events : List AlertEvent} (once : DrawnOnce events)
    (there : w ∈ (after c events).ingesters) {next : Alert}
    (drafted : w.stage = .planned next .created) :
    (after c events).store.records.find? next.id = none := by
  have claimed : w.claims next.id = true := by
    unfold Ingester.claims
    rw [drafted]
    exact decide_eq_true rfl
  have claims : 0 < (after c events).ingesters.countP (·.claims next.id) :=
    List.countP_pos_iff.mpr ⟨w, there, claimed⟩
  have all := claimsOf_after_le c events next.id
  have drawn := List.nodup_iff_count.mp once next.id
  unfold claimsOf inUse at all
  cases found : (after c events).store.records.find? next.id with
  | none => rfl
  | some a =>
    rw [found] at all
    simp only [Option.isSome_some, Bool.toNat_true] at all
    omega

end AlertTraffic

end DeviceWatch
