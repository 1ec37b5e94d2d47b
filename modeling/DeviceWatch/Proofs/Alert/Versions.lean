import DeviceWatch.Alert.Query
import DeviceWatch.Proofs.Alert.Transitions

/-!
# Versions

Every successful write raises the version of one record by one, so that the version of a record
counts the writes to it, and no version of a record comes round again.  A copy of a record can
therefore be committed, however it has been edited, just as long as nobody has written to the record
since the copy was taken.

A sweep that others disturb is a listing and calls of `modify` with `reactivate`.
-/

namespace DeviceWatch

/-- A change of an alert that may refuse, and leaves the id alone. -/
structure AlertChange where
  change : Alert → Outcome Alert
  keepsId : ∀ {a b : Alert}, change a = .ok b → b.id = a.id

/-- The calls that may write to a store. -/
inductive AlertCall where
  | commit (draft : Alert)
  | modify (id : Uuid) (change : AlertChange)
  | apply (id : Uuid) (action : AlertAction) (now : Instant)
  | expire (now : Instant)

namespace AlertStore

def wrote : Outcome (Alert × AlertStore) → List Uuid
  | .ok (a, _) => [a.id]
  | .error _ => []

def perform (s : AlertStore) : AlertCall → AlertStore
  | .commit draft => s.settled (s.commit draft)
  | .modify id change => s.settled (s.modify id change.change)
  | .apply id action now => s.settled (s.apply id action now)
  | .expire now => (s.expireSuppressions now).2

/-- The records that a sweep writes, of those that it is to look at. -/
def swept (now : Instant) : AlertStore → List Uuid → List Uuid
  | _, [] => []
  | s, id :: rest =>
    wrote (s.modify id (reactivate now)) ++
      swept now (s.settled (s.modify id (reactivate now))) rest

/-- The record of each successful write that a call makes. -/
def writes (s : AlertStore) : AlertCall → List Uuid
  | .commit draft => wrote (s.commit draft)
  | .modify id change => wrote (s.modify id change.change)
  | .apply id action now => wrote (s.apply id action now)
  | .expire now => swept now s (s.expiredSuppressions now)

def performAll (s : AlertStore) (calls : List AlertCall) : AlertStore := calls.foldl perform s

def allWrites (s : AlertStore) : List AlertCall → List Uuid
  | [] => []
  | call :: rest => s.writes call ++ allWrites (s.perform call) rest

/-- The store hands out a copy of a record, and is left as the other store. -/
inductive Hands (s : AlertStore) : Alert → AlertStore → Prop
  | get {id : Uuid} {a : Alert} (found : s.get id = .ok a) : Hands s a s
  | latest {fp : String} {a : Alert} (found : s.latestFor fp = some a) : Hands s a s
  | query {q : AlertQuery} {a : Alert} (listed : a ∈ (s.query q).items) : Hands s a s
  | commit {draft a : Alert} {t : AlertStore} (done : s.commit draft = .ok (a, t)) : Hands s a t
  | modify {id : Uuid} {change : AlertChange} {a : Alert} {t : AlertStore}
      (done : s.modify id change.change = .ok (a, t)) : Hands s a t
  | apply {id : Uuid} {action : AlertAction} {now : Instant} {a : Alert} {t : AlertStore}
      (done : s.apply id action now = .ok (a, t)) : Hands s a t

/-- The version of every record is the number of writes to it that are on record. -/
structure Versioned (s : AlertStore) (log : List Uuid) : Prop where
  own_id : ∀ {id a}, s.records.find? id = some a → a.id = id
  version : ∀ {id a}, s.records.find? id = some a → a.version = log.count id
  unwritten : ∀ {id}, s.records.find? id = none ↔ log.count id = 0

variable {s t : AlertStore} {log : List Uuid} {a : Alert}

theorem versioned_empty : empty.Versioned [] := by
  constructor <;> simp [empty]

theorem Versioned.write (h : s.Versioned log) {id : Uuid} {new : Alert}
    (written : ∀ k, t.records.find? k = if k = id then some new else s.records.find? k)
    (sameId : new.id = id) (version : new.version = log.count id + 1) :
    t.Versioned (log ++ [id]) := by
  have counted {k : Uuid} (differ : k ≠ id) : (log ++ [id]).count k = log.count k := by
    simp [List.count_append, differ.symm]
  constructor
  · intro k a found
    rw [written] at found
    split at found
    · rename_i same
      cases found
      exact sameId.trans same.symm
    · exact h.own_id found
  · intro k a found
    rw [written] at found
    split at found
    · rename_i same
      cases found
      rw [same, version, List.count_append, List.count_singleton_self]
    · rename_i differ
      rw [counted differ]
      exact h.version found
  · intro k
    rw [written]
    split
    · rename_i same
      simp [same]
    · rename_i differ
      rw [counted differ]
      exact h.unwritten

theorem Versioned.commit (h : s.Versioned log) {draft : Alert}
    (done : s.commit draft = .ok (a, t)) : t.Versioned (log ++ [a.id]) := by
  obtain rfl := eq_bumped_of_commit done
  rcases commit_eq_ok done with ⟨stored, found, current, rfl⟩ | ⟨absent, unwritten, -, rfl⟩
  · have counted : draft.version = log.count draft.id := current.symm.trans (h.version found)
    exact h.write (find?_put s draft.id · (bumped draft)) rfl (congrArg (· + 1) counted)
  · have counted : draft.version = log.count draft.id :=
      unwritten.trans (h.unwritten.mp absent).symm
    exact h.write (find?_add s · (bumped draft)) rfl (congrArg (· + 1) counted)

theorem Versioned.modify (h : s.Versioned log) {id : Uuid} {change : Alert → Outcome Alert}
    (keepsId : ∀ {a b : Alert}, change a = .ok b → b.id = a.id)
    (done : s.modify id change = .ok (a, t)) : t.Versioned (log ++ [a.id]) := by
  obtain ⟨old, next, stored, changed, rfl, rfl⟩ := modify_eq_ok done
  have sameId : next.id = id := (keepsId changed).trans (h.own_id stored)
  subst sameId
  exact h.write (find?_put s next.id · _) rfl (congrArg (· + 1) (h.version stored))

theorem Versioned.settled (h : s.Versioned log) {o : Outcome (Alert × AlertStore)}
    (written : ∀ {a t}, o = .ok (a, t) → t.Versioned (log ++ [a.id])) :
    (s.settled o).Versioned (log ++ wrote o) := by
  cases o with
  | ok result => exact written rfl
  | error e =>
    rw [wrote, List.append_nil]
    exact h

theorem Versioned.sweep (now : Instant) (ids : List Uuid) (acc : Nat × AlertStore)
    (h : acc.2.Versioned log) :
    (ids.foldl (expireOne now) acc).2.Versioned (log ++ swept now acc.2 ids) := by
  induction ids generalizing acc log with
  | nil =>
    rw [swept, List.append_nil]
    exact h
  | cons id rest ih =>
    have ended : (expireOne now acc id).2.Versioned
        (log ++ wrote (acc.2.modify id (reactivate now))) := by
      rw [expireOne_eq]
      exact h.settled fun done => h.modify (fun allowed => (reactivate_adjusts allowed).id) done
    rw [List.foldl_cons, swept, ← List.append_assoc, ← expireOne_eq]
    exact ih _ ended

theorem Versioned.perform (h : s.Versioned log) (call : AlertCall) :
    (s.perform call).Versioned (log ++ s.writes call) := by
  cases call with
  | commit draft => exact h.settled h.commit
  | modify id change => exact h.settled (h.modify change.keepsId)
  | apply id action now =>
    exact h.settled (h.modify fun allowed => (AlertAction.adjusts allowed).id)
  | expire now => exact Versioned.sweep now _ (0, s) h

theorem Versioned.performAll (h : s.Versioned log) (calls : List AlertCall) :
    (s.performAll calls).Versioned (log ++ s.allWrites calls) := by
  induction calls generalizing s log with
  | nil =>
    rw [allWrites, List.append_nil]
    exact h
  | cons call rest ih =>
    rw [allWrites, ← List.append_assoc]
    exact ih (h.perform call)

theorem put_ne {id : Uuid} {old new : Alert} (stored : s.records.find? id = some old)
    (version : new.version = old.version + 1) : s.put id new ≠ s := by
  intro same
  have found := find?_put s id id new
  rw [same, if_pos rfl, stored] at found
  cases found
  omega

theorem settled_commit_eq_iff (draft : Alert) :
    s.settled (s.commit draft) = s ↔ ∃ e, s.commit draft = .error e := by
  cases done : s.commit draft with
  | error e => exact ⟨fun _ => ⟨e, rfl⟩, fun _ => rfl⟩
  | ok result =>
    obtain ⟨a, t⟩ := result
    refine ⟨fun same => ?_, fun failed => nomatch failed⟩
    rcases commit_eq_ok done with ⟨stored, found, current, rfl⟩ | ⟨absent, -, -, rfl⟩
    · exact absurd same (put_ne found (congrArg (· + 1) current.symm))
    · have found := find?_add s draft.id (bumped draft)
      change (s.add (bumped draft)) = s at same
      rw [same, absent] at found
      simp [bumped] at found

theorem settled_modify_eq_iff (id : Uuid) (change : Alert → Outcome Alert) :
    s.settled (s.modify id change) = s ↔ ∃ e, s.modify id change = .error e := by
  cases done : s.modify id change with
  | error e => exact ⟨fun _ => ⟨e, rfl⟩, fun _ => rfl⟩
  | ok result =>
    obtain ⟨a, t⟩ := result
    refine ⟨fun same => ?_, fun failed => nomatch failed⟩
    obtain ⟨old, next, stored, -, rfl, rfl⟩ := modify_eq_ok done
    exact absurd same (put_ne stored rfl)

theorem mem_alerts_of_listed {q : AlertQuery} (listed : a ∈ (s.query q).items) : a ∈ s.alerts := by
  have found : a ∈ newestFirst (s.matching q) := List.mem_of_mem_drop (List.mem_of_mem_take listed)
  have matching : a ∈ s.matching q := List.mem_mergeSort.mp found
  exact (List.mem_filter.mp matching).1

theorem Versioned.stored_of_hands (h : s.Versioned log) (handed : s.Hands a t) :
    t.records.find? a.id = some a := by
  have own {id : Uuid} (found : s.records.find? id = some a) : s.records.find? a.id = some a := by
    rw [h.own_id found, found]
  cases handed with
  | @get id _ found =>
    unfold get at found
    split at found
    · rename_i b stored
      cases found
      exact own stored
    · cases found
  | latest found =>
    obtain ⟨id, -, stored⟩ := latestFor_eq_some_iff.mp found
    exact own stored
  | query listed =>
    obtain ⟨id, stored⟩ := mem_alerts_iff.mp (mem_alerts_of_listed listed)
    exact own stored
  | @commit draft _ _ done =>
    obtain rfl := eq_bumped_of_commit done
    rcases commit_eq_ok done with ⟨_, _, _, rfl⟩ | ⟨_, _, _, rfl⟩
    · exact (find?_put s _ _ _).trans (if_pos rfl)
    · exact (find?_add s _ _).trans (if_pos rfl)
  | @modify id change _ _ done =>
    obtain ⟨old, next, stored, changed, rfl, rfl⟩ := modify_eq_ok done
    exact (find?_put s _ _ _).trans (if_pos ((change.keepsId changed).trans (h.own_id stored)))
  | @apply id action now _ _ done =>
    obtain ⟨old, next, stored, allowed, rfl, rfl⟩ := modify_eq_ok done
    exact (find?_put s _ _ _).trans
      (if_pos ((AlertAction.adjusts allowed).id.trans (h.own_id stored)))

theorem Versioned.hands (h : s.Versioned log) (handed : s.Hands a t) :
    ∃ log', t.Versioned log' := by
  cases handed with
  | commit done => exact ⟨_, h.commit done⟩
  | @modify id change _ _ done => exact ⟨_, h.modify change.keepsId done⟩
  | apply done => exact ⟨_, h.modify (fun allowed => (AlertAction.adjusts allowed).id) done⟩
  | _ => exact ⟨_, h⟩

/-- A copy that was taken when `log` was on record is current if nothing has been written since. -/
theorem Versioned.commit_iff {since : List Uuid} (h : s.Versioned (log ++ since)) (draft : Alert)
    (copied : draft.version = log.count draft.id) (written : log.count draft.id ≠ 0) :
    ((∃ b t, s.commit draft = .ok (b, t)) ↔ draft.id ∉ since) ∧
      ∀ b t, s.commit draft = .ok (b, t) → b = bumped draft ∧ t = s.put draft.id b := by
  cases found : s.records.find? draft.id with
  | none =>
    have none := h.unwritten.mp found
    rw [List.count_append] at none
    omega
  | some stored =>
    have version := h.version found
    rw [List.count_append, ← copied] at version
    by_cases quiet : draft.id ∈ since
    · have raised := List.count_pos_iff.mpr quiet
      have refused := commit_of_stale found (by omega)
      simp [refused, quiet]
    · have unraised := List.count_eq_zero_of_not_mem quiet
      have accepted := commit_of_current found (by omega)
      refine ⟨⟨fun _ => quiet, fun _ => ⟨_, _, accepted⟩⟩, fun b t done => ?_⟩
      rw [accepted] at done
      cases done
      exact ⟨rfl, rfl⟩

/-- After any calls from an empty store on: the version of a record is the number of writes to it; a
copy of a record, edited in any way that leaves id and version alone, is accepted if and only if
nobody has written to the record since, and is then stored with the next version; and a call that
fails, and no other one, leaves the store as it is. -/
theorem no_write_lost (calls : List AlertCall) :
    let s := empty.performAll calls
    (∀ id, (∀ a, s.records.find? id = some a → a.version = (empty.allWrites calls).count id) ∧
      (s.records.find? id = none ↔ id ∉ empty.allWrites calls)) ∧
    (∀ copy t, s.Hands copy t → ∀ later (edited : Alert),
      let u := t.performAll later
      let draft := { edited with id := copy.id, version := copy.version }
      ((∃ b v, u.commit draft = .ok (b, v)) ↔ copy.id ∉ t.allWrites later) ∧
        ∀ b v, u.commit draft = .ok (b, v) →
          b = { draft with version := copy.version + 1 } ∧ v = u.put copy.id b) ∧
    (∀ draft, s.perform (.commit draft) = s ↔ ∃ e, s.commit draft = .error e) ∧
    (∀ id change, s.perform (.modify id change) = s ↔ ∃ e, s.modify id change.change = .error e) ∧
    ∀ id action now,
      s.perform (.apply id action now) = s ↔ ∃ e, s.apply id action now = .error e := by
  intro s
  have counted : s.Versioned (empty.allWrites calls) := versioned_empty.performAll calls
  refine ⟨fun id => ⟨fun a found => counted.version found, ?_⟩, ?_, settled_commit_eq_iff,
    fun id change => settled_modify_eq_iff id change.change,
    fun id action now => settled_modify_eq_iff id _⟩
  · rw [counted.unwritten, List.count_eq_zero]
  · intro copy t handed later edited u draft
    have stored := counted.stored_of_hands handed
    obtain ⟨log, before⟩ := counted.hands handed
    have written : log.count copy.id ≠ 0 := fun none => by
      rw [before.unwritten.mpr none] at stored
      cases stored
    have copied : copy.version = log.count copy.id := before.version stored
    exact (before.performAll later).commit_iff draft copied written

/-- A copy that was taken before an operator acknowledged the alert is refused, and one that is
taken afterwards is accepted as the third write. -/
theorem no_write_lost_acknowledged :
    let s := empty.performAll [.commit (Alert.ofFinding ⟨1⟩ "fp" none AlertTraffic.highCpu default)]
    ∃ early late t, s.Hands early s ∧ s.Hands late t ∧ late.version = 2 ∧
      (¬ ∃ b v, t.commit early = .ok (b, v)) ∧ ∃ b v, t.commit late = .ok (b, v) := by
  intro s
  obtain ⟨-, copies, -⟩ :=
    no_write_lost [.commit (Alert.ofFinding ⟨1⟩ "fp" none AlertTraffic.highCpu default)]
  have read : ∃ early, s.get ⟨1⟩ = .ok early ∧ early.id = ⟨1⟩ := ⟨_, rfl, rfl⟩
  have acknowledged : ∃ late t, s.apply ⟨1⟩ .acknowledge default = .ok (late, t) ∧
      t = s.perform (.apply ⟨1⟩ .acknowledge default) ∧ late.version = 2 := ⟨_, _, rfl, rfl, rfl⟩
  obtain ⟨early, read, id⟩ := read
  obtain ⟨late, t, done, rfl, version⟩ := acknowledged
  refine ⟨early, late, _, .get read, .apply done, version, ?_, ?_⟩
  · have written : early.id ∈ s.allWrites [.apply ⟨1⟩ .acknowledge default] := by
      rw [id]
      exact List.mem_singleton.mpr rfl
    intro accepted
    obtain ⟨quiet, -⟩ := copies early s (.get read) [.apply ⟨1⟩ .acknowledge default] early
    exact quiet.mp accepted written
  · exact (copies late _ (.apply done) [] late).1.mpr List.not_mem_nil

end AlertStore

end DeviceWatch
