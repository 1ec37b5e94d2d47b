import DeviceWatch.Alert.Action
import DeviceWatch.Alert.Correlation

/-!
# Writes to the alert store

Every operation that changes the store does one of two things: it revises a stored record, whose
id and fingerprint stay, or it creates a record under an id that was not in use.  A reader's copy
is recalled by the store as long as the record of its id has kept its fingerprint and has not
changed without raising its version; both kinds of write keep that.
-/

namespace DeviceWatch

namespace AlertStore

def put (s : AlertStore) (id : Uuid) (a : Alert) : AlertStore :=
  { s with records := s.records.insert id a }

def add (s : AlertStore) (a : Alert) : AlertStore :=
  { records := s.records.insert a.id a, latest := s.latest.insert a.fingerprint a.id }

@[simp] theorem put_latest (s : AlertStore) (id : Uuid) (a : Alert) :
    (s.put id a).latest = s.latest := rfl

theorem find?_put (s : AlertStore) (id k : Uuid) (a : Alert) :
    (s.put id a).records.find? k = if k = id then some a else s.records.find? k :=
  OrderedMap.find?_insert _ _ _ _

theorem find?_add (s : AlertStore) (k : Uuid) (a : Alert) :
    (s.add a).records.find? k = if k = a.id then some a else s.records.find? k :=
  OrderedMap.find?_insert _ _ _ _

theorem latest_find?_add (s : AlertStore) (fp : String) (a : Alert) :
    (s.add a).latest.find? fp = if fp = a.fingerprint then some a.id else s.latest.find? fp :=
  OrderedMap.find?_insert _ _ _ _

theorem mem_alerts_iff {s : AlertStore} {a : Alert} :
    a ∈ s.alerts ↔ ∃ id, s.records.find? id = some a := OrderedMap.mem_values_iff

theorem exists_alerts_split {s : AlertStore} {id : Uuid} {old : Alert}
    (stored : s.records.find? id = some old) :
    ∃ before after, s.alerts = before ++ old :: after ∧
      ∀ new, (s.put id new).alerts = before ++ new :: after := by
  obtain ⟨before, after, split, revised⟩ := OrderedMap.exists_entries_split stored
  refine ⟨before.map Prod.snd, after.map Prod.snd, ?_, fun new => ?_⟩
  · simp [alerts, OrderedMap.values, split]
  · simp [alerts, OrderedMap.values, put, revised]

theorem alerts_add {s : AlertStore} {a : Alert} (absent : s.records.find? a.id = none) :
    (s.add a).alerts = s.alerts ++ [a] := by
  simp [alerts, OrderedMap.values, add, OrderedMap.entries_insert_of_absent absent]

/-- What holds of every store that was filled through its operations. -/
structure Coherent (s : AlertStore) : Prop where
  own_id : ∀ {id a}, s.records.find? id = some a → a.id = id
  written : ∀ {id a}, s.records.find? id = some a → 0 < a.version
  has_latest : ∀ {id a}, s.records.find? id = some a → ∃ k, s.latest.find? a.fingerprint = some k
  latest_stored : ∀ {fp id}, s.latest.find? fp = some id →
    ∃ a, s.records.find? id = some a ∧ a.fingerprint = fp

theorem coherent_empty : empty.Coherent := by
  constructor <;> intro _ _ found <;> simp [empty] at found

inductive Write (s : AlertStore) : AlertStore → Prop
  | revise {id : Uuid} {old new : Alert} (stored : s.records.find? id = some old)
      (sameId : new.id = id) (sameFingerprint : new.fingerprint = old.fingerprint)
      (version : new.version = old.version + 1) : Write s (s.put id new)
  | create {new : Alert} (absent : s.records.find? new.id = none) (version : new.version = 1) :
      Write s (s.add new)

theorem Coherent.write {s t : AlertStore} (h : s.Coherent) (w : s.Write t) : t.Coherent := by
  cases w with
  | @revise id old new stored sameId sameFingerprint version =>
    constructor
    · intro k a found
      rw [find?_put] at found
      split at found
      · rename_i same
        cases found
        exact sameId.trans same.symm
      · exact h.own_id found
    · intro k a found
      rw [find?_put] at found
      split at found
      · cases found
        omega
      · exact h.written found
    · intro k a found
      rw [find?_put] at found
      split at found
      · cases found
        rw [sameFingerprint]
        exact h.has_latest stored
      · exact h.has_latest found
    · intro fp k found
      obtain ⟨a, stored', matching⟩ := h.latest_stored found
      by_cases same : k = id
      · subst same
        have : a = old := Option.some.inj (stored'.symm.trans stored)
        subst this
        exact ⟨new, by rw [find?_put, if_pos rfl], sameFingerprint.trans matching⟩
      · exact ⟨a, by rw [find?_put, if_neg same, stored'], matching⟩
  | @create new absent version =>
    constructor
    · intro k a found
      rw [find?_add] at found
      split at found
      · rename_i same
        cases found
        exact same.symm
      · exact h.own_id found
    · intro k a found
      rw [find?_add] at found
      split at found
      · cases found
        omega
      · exact h.written found
    · intro k a found
      rw [latest_find?_add]
      split
      · exact ⟨_, rfl⟩
      · rename_i other
        rw [find?_add] at found
        split at found
        · cases found
          exact absurd rfl other
        · exact h.has_latest found
    · intro fp k found
      rw [latest_find?_add] at found
      split at found
      · rename_i same
        cases found
        exact ⟨new, by rw [find?_add, if_pos rfl], same.symm⟩
      · obtain ⟨a, stored, matching⟩ := h.latest_stored found
        have differ : k ≠ new.id := by
          rintro rfl
          simp [absent] at stored
        exact ⟨a, by rw [find?_add, if_neg differ, stored], matching⟩

theorem Coherent.mem_alerts_iff {s : AlertStore} (h : s.Coherent) {a : Alert} :
    a ∈ s.alerts ↔ s.records.find? a.id = some a := by
  rw [AlertStore.mem_alerts_iff]
  constructor
  · rintro ⟨id, found⟩
    rw [h.own_id found, found]
  · exact fun found => ⟨a.id, found⟩

/-- The store still has the record that a copy was taken from, and the copy is up to date unless the
version has been raised since. -/
def Recalls (s : AlertStore) (a : Alert) : Prop :=
  ∃ stored, s.records.find? a.id = some stored ∧ stored.fingerprint = a.fingerprint ∧
    a.version ≤ stored.version ∧ (a.version = stored.version → a = stored)

theorem Coherent.recalls {s : AlertStore} (h : s.Coherent) {id : Uuid} {a : Alert}
    (found : s.records.find? id = some a) : s.Recalls a :=
  ⟨a, by rw [h.own_id found, found], rfl, Nat.le_refl _, fun _ => rfl⟩

theorem Recalls.write {s t : AlertStore} {a : Alert} (r : s.Recalls a) (w : s.Write t) :
    t.Recalls a := by
  obtain ⟨stored, found, matching, le, current⟩ := r
  cases w with
  | @revise id old new present sameId sameFingerprint version =>
    by_cases same : a.id = id
    · subst same
      have : stored = old := Option.some.inj (found.symm.trans present)
      subst this
      refine ⟨new, by rw [find?_put, if_pos rfl], sameFingerprint.trans matching, by omega, ?_⟩
      intro equal
      omega
    · exact ⟨stored, by rw [find?_put, if_neg same, found], matching, le, current⟩
  | @create new absent version =>
    have differ : a.id ≠ new.id := by
      intro same
      rw [same, absent] at found
      cases found
    exact ⟨stored, by rw [find?_add, if_neg differ, found], matching, le, current⟩

/-- What an ingester knows of a fingerprint: a copy of an alert of it, or nothing. -/
def Remembers (s : AlertStore) (fp : String) (latest : Option Alert) : Prop :=
  ∀ a, latest = some a → s.Recalls a ∧ a.fingerprint = fp

theorem Remembers.write {s t : AlertStore} {fp : String} {latest : Option Alert}
    (r : s.Remembers fp latest) (w : s.Write t) : t.Remembers fp latest :=
  fun a known => ⟨(r a known).1.write w, (r a known).2⟩

theorem latestFor_eq_some_iff {s : AlertStore} {fp : String} {a : Alert} :
    s.latestFor fp = some a ↔ ∃ id, s.latest.find? fp = some id ∧ s.records.find? id = some a :=
  Option.bind_eq_some_iff

theorem Coherent.remembers_latestFor {s : AlertStore} (h : s.Coherent) (fp : String) :
    s.Remembers fp (s.latestFor fp) := by
  intro a known
  obtain ⟨id, latest, found⟩ := latestFor_eq_some_iff.mp known
  obtain ⟨b, stored, matching⟩ := h.latest_stored latest
  have : b = a := Option.some.inj (stored.symm.trans found)
  subst this
  exact ⟨h.recalls found, matching⟩

/-- The store after an attempt to write one record. -/
def settled (s : AlertStore) : Outcome (Alert × AlertStore) → AlertStore
  | .ok (_, t) => t
  | .error _ => s

theorem expireOne_eq (now : Instant) (acc : Nat × AlertStore) (id : Uuid) :
    (expireOne now acc id).2 = acc.2.settled (acc.2.modify id (reactivate now)) := by
  unfold expireOne
  cases acc.2.modify id (reactivate now) <;> rfl

theorem modify_eq_ok {s t : AlertStore} {id : Uuid} {change : Alert → Outcome Alert} {a : Alert}
    (done : s.modify id change = .ok (a, t)) :
    ∃ old next, s.records.find? id = some old ∧ change old = .ok next ∧
      a = { next with version := old.version + 1 } ∧ t = s.put id a := by
  unfold modify get at done
  cases found : s.records.find? id with
  | none => simp [found, bind, Except.bind] at done
  | some old =>
    cases changed : change old with
    | error e => simp [found, changed, bind, Except.bind] at done
    | ok next =>
      simp only [found, changed, bind, Except.bind, pure, Except.pure, Except.ok.injEq,
        Prod.mk.injEq] at done
      obtain ⟨rfl, rfl⟩ := done
      exact ⟨old, next, rfl, changed, rfl, rfl⟩

theorem commit_eq_ok {s t : AlertStore} {a b : Alert} (done : s.commit a = .ok (b, t)) :
    (∃ stored, s.records.find? a.id = some stored ∧ stored.version = a.version ∧
      t = s.put a.id (bumped a)) ∨
    (s.records.find? a.id = none ∧ a.version = 0 ∧ s.isOpenFor a.fingerprint = false ∧
      t = s.add (bumped a)) := by
  unfold commit at done
  split at done
  · rename_i stored found
    split at done
    · rename_i current
      cases done
      exact .inl ⟨stored, found, current, rfl⟩
    · cases done
  · rename_i absent
    split at done
    · cases done
    · rename_i unwritten
      split at done
      · cases done
      · rename_i closed
        cases done
        exact .inr ⟨absent, by omega, by simpa using closed, rfl⟩

theorem eq_bumped_of_commit {s t : AlertStore} {a b : Alert} (done : s.commit a = .ok (b, t)) :
    b = bumped a := by
  unfold commit at done
  split at done
  · split at done <;> cases done
    rfl
  · split at done
    · cases done
    · split at done <;> cases done
      rfl

theorem commit_of_current {s : AlertStore} {a stored : Alert}
    (found : s.records.find? a.id = some stored) (current : stored.version = a.version) :
    s.commit a = .ok (bumped a, s.put a.id (bumped a)) := by
  unfold commit
  rw [found]
  exact if_pos current

theorem commit_of_stale {s : AlertStore} {a stored : Alert}
    (found : s.records.find? a.id = some stored) (stale : stored.version ≠ a.version) :
    s.commit a = .error (staleError stored a) := by
  unfold commit
  rw [found]
  exact if_neg stale

theorem commit_of_absent {s : AlertStore} {a : Alert} (absent : s.records.find? a.id = none)
    (unwritten : a.version = 0) (closed : s.isOpenFor a.fingerprint = false) :
    s.commit a = .ok (bumped a, s.add (bumped a)) := by
  unfold commit
  rw [absent]
  simp [unwritten, closed, add, bumped]

theorem commit_eq_error {s : AlertStore} {a : Alert} {e : ServiceError}
    (known : a.version ≠ 0 → ∃ stored, s.records.find? a.id = some stored)
    (failed : s.commit a = .error e) : ∃ reason, e = .conflict reason := by
  unfold commit at failed
  split at failed
  · split at failed
    · cases failed
    · cases failed
      exact ⟨_, rfl⟩
  · rename_i absent
    split at failed
    · rename_i written
      obtain ⟨stored, found⟩ := known written
      simp [absent] at found
    · split at failed
      · cases failed
        exact ⟨_, rfl⟩
      · cases failed

end AlertStore

end DeviceWatch
