import DeviceWatch.Proofs.Alert.Conservation
import DeviceWatch.Proofs.Alert.OneOpen

/-!
# Requests that are served one after the other

When nobody else writes between the reading of an alert and its commit, the alert that is read is
the newest of its fingerprint, and the commit of what was planned from it is accepted.  The first
attempt at a finding therefore succeeds, and the answer to a batch counts each of its findings for
what it did.

A batch has one time here; a batch during which the clock moves is several requests.
-/

namespace DeviceWatch

open Correlation AlertStore

inductive AlertRequest where
  | ingest (connector : String) (now : Instant) (batch : List Finding)
  | operate (id : Uuid) (action : AlertAction) (now : Instant)
  | sweep (now : Instant)

theorem IdSupply.eq_of_nth_eq {m n : Nat} (same : nth m = nth n) : m = n := by
  have values := congrArg Uuid.value same
  simp only [nth] at values
  omega

namespace AlertStore

variable {s t : AlertStore} {id : Uuid} {old new : Alert}

def recent (s : AlertStore) (fp : String) : List Alert := (s.alertsFor fp).reverse

def replaced (old new a : Alert) : Alert := if a = old then new else a

theorem map_replaced_of_not_mem {l : List Alert} (other : old ∉ l) :
    l.map (replaced old new) = l := by
  refine (List.map_congr_left fun a there => ?_).trans l.map_id
  refine if_neg fun same => other ?_
  rwa [← same]

theorem recent_add {a : Alert} (absent : s.records.find? a.id = none) (fp : String) :
    (s.add a).recent fp = if fp = a.fingerprint then a :: s.recent fp else s.recent fp := by
  unfold recent alertsFor
  rw [alerts_add absent, List.filter_append]
  by_cases same : fp = a.fingerprint
  · simp [same]
  · have other : a.fingerprint ≠ fp := fun h => same h.symm
    simp [same, other]

namespace Coherent

variable (h : s.Coherent)

include h

theorem nodup_recent (fp : String) : (s.recent fp).Nodup :=
  (List.reverse_perm _).nodup_iff.mpr (h.nodup_alerts.sublist List.filter_sublist)

theorem mem_recent_iff {fp : String} {a : Alert} :
    a ∈ s.recent fp ↔ s.records.find? a.id = some a ∧ a.fingerprint = fp := by
  simp [recent, alertsFor, h.mem_alerts_iff]

theorem stored_of_newest {fp : String} {a : Alert} {older : List Alert}
    (newest : s.recent fp = a :: older) : s.records.find? a.id = some a ∧ a.fingerprint = fp :=
  h.mem_recent_iff.mp (newest ▸ List.mem_cons_self)

theorem alerts_put (stored : s.records.find? id = some old) (new : Alert) :
    (s.put id new).alerts = s.alerts.map (replaced old new) := by
  obtain ⟨before, after, split, revised⟩ := exists_alerts_split stored
  have nodup := h.nodup_alerts
  rw [split, List.nodup_append, List.nodup_cons] at nodup
  obtain ⟨-, ⟨notAfter, -⟩, apart⟩ := nodup
  have notBefore : old ∉ before := fun there => apart old there old List.mem_cons_self rfl
  rw [revised new, split, List.map_append, List.map_cons, map_replaced_of_not_mem notBefore,
    map_replaced_of_not_mem notAfter]
  simp [replaced]

theorem recent_put (stored : s.records.find? id = some old)
    (sameFingerprint : new.fingerprint = old.fingerprint) (fp : String) :
    (s.put id new).recent fp = (s.recent fp).map (replaced old new) := by
  have kept (a : Alert) : (replaced old new a).fingerprint = a.fingerprint := by
    unfold replaced
    split
    · rename_i same
      rw [same, sameFingerprint]
    · rfl
  unfold recent alertsFor
  rw [h.alerts_put stored, List.filter_map, List.map_reverse]
  simp only [Function.comp_def, kept]

/-- Revising the newest alert of a fingerprint leaves the older ones alone. -/
theorem recent_put_newest {older : List Alert} (newest : s.recent old.fingerprint = old :: older)
    (sameFingerprint : new.fingerprint = old.fingerprint) (fp : String) :
    (s.put old.id new).recent fp =
      if fp = old.fingerprint then new :: older else s.recent fp := by
  rw [h.recent_put (h.stored_of_newest newest).1 sameFingerprint]
  split
  · rename_i same
    have nodup := h.nodup_recent old.fingerprint
    rw [newest, List.nodup_cons] at nodup
    rw [same, newest, List.map_cons, map_replaced_of_not_mem nodup.1]
    simp [replaced]
  · rename_i other
    exact map_replaced_of_not_mem fun there => other (h.mem_recent_iff.mp there).2.symm

end Coherent

def LatestIsNewest (s : AlertStore) : Prop :=
  ∀ fp, s.latest.find? fp = (s.recent fp).head?.map (·.id)

theorem latestIsNewest_empty : empty.LatestIsNewest := fun _ => rfl

theorem LatestIsNewest.latestFor (h : s.LatestIsNewest) (coherent : s.Coherent) (fp : String) :
    s.latestFor fp = (s.recent fp).head? := by
  unfold AlertStore.latestFor
  rw [h fp]
  cases recent : s.recent fp with
  | nil => rfl
  | cons a older => exact (coherent.stored_of_newest recent).1

theorem LatestIsNewest.write (h : s.LatestIsNewest) (coherent : s.Coherent) (w : s.Write t) :
    t.LatestIsNewest := by
  intro fp
  cases w with
  | @revise id old new stored sameId sameFingerprint version =>
    have kept (a : Alert) : (replaced old new a).id = a.id := by
      unfold replaced
      split
      · rename_i same
        rw [same, sameId, coherent.own_id stored]
      · rfl
    rw [put_latest, h fp, coherent.recent_put stored sameFingerprint, List.head?_map,
      Option.map_map]
    simp only [Function.comp_def, kept]
  | @create new absent version =>
    rw [latest_find?_add, recent_add absent, h fp]
    split <;> rfl

end AlertStore

namespace Correlation

/-- What becomes of a finding, given the alerts of its fingerprint. -/
def verdict (policy : ReopenPolicy) (alerts : List Alert) (f : Finding) : Applied :=
  if f.severity = .clear then
    if alerts.any (·.status.isOpen) then .resolved else .ignored
  else if alerts.any (·.status.isOpen) || (policy = .resume && !alerts.isEmpty) then .updated
  else .created

theorem verdict_reverse (policy : ReopenPolicy) (alerts : List Alert) (f : Finding) :
    verdict policy alerts.reverse f = verdict policy alerts f := by
  simp [verdict]

/-- What holds between requests. -/
structure State.Orderly (s : State) : Prop where
  coherent : s.store.Coherent
  openIsLatest : s.store.OpenIsLatest
  latestIsNewest : s.store.LatestIsNewest
  unused : ∀ n, s.ids.drawn ≤ n → s.store.records.find? (IdSupply.nth n) = none

/-- What an attempt at a finding does, and that it succeeds. -/
inductive Received (policy : ReopenPolicy) (connector : String) (f : Finding) (now : Instant)
    (s : State) : Applied → State → Prop
  | ignored (ends : f.severity = .clear)
      (closed : ∀ a, (s.store.recent f.fingerprint).head? = some a → a.status = .resolved) :
      Received policy connector f now s .ignored ⟨s.store, s.ids.draw.2⟩
  | created {new : Alert} (occurs : f.severity ≠ .clear)
      (closed : ∀ a, (s.store.recent f.fingerprint).head? = some a →
        a.status = .resolved ∧ policy = .newIncident)
      (absent : s.store.records.find? new.id = none)
      (fresh : new = bumped (Alert.ofFinding s.ids.draw.1 f.fingerprint (some connector) f now)) :
      Received policy connector f now s .created ⟨s.store.add new, s.ids.draw.2⟩
  | updated {a new : Alert} {older : List Alert}
      (newest : s.store.recent f.fingerprint = a :: older) (occurs : f.severity ≠ .clear)
      (reopens : a.status = .resolved → policy = .resume)
      (refreshed : new = bumped (refresh (reopened a) connector f now)) :
      Received policy connector f now s .updated ⟨s.store.put a.id new, s.ids.draw.2⟩
  | resolved {a new : Alert} {older : List Alert}
      (newest : s.store.recent f.fingerprint = a :: older) (ends : f.severity = .clear)
      (wasOpen : a.status.isOpen = true) (clears : new = bumped (cleared a f now)) :
      Received policy connector f now s .resolved ⟨s.store.put a.id new, s.ids.draw.2⟩

def receive (policy : ReopenPolicy) (connector : String) (now : Instant) (s : State)
    (f : Finding) : State := (attempt policy connector f now s).2

def verdicts (policy : ReopenPolicy) (connector : String) (now : Instant) :
    List Finding → State → List Applied
  | [], _ => []
  | f :: rest, s => verdict policy (s.store.alertsFor f.fingerprint) f ::
      verdicts policy connector now rest (receive policy connector now s f)

theorem plan_eq_none {policy : ReopenPolicy} {connector fp : String} {latest : Option Alert}
    {f : Finding} {now : Instant} {id : Uuid}
    (unplanned : plan policy connector fp latest f now id = none) :
    f.severity = .clear ∧ ∀ a, latest = some a → a.status = .resolved := by
  unfold plan at unplanned
  split at unplanned
  · rename_i clear
    refine ⟨clear, ?_⟩
    rintro a rfl
    by_cases isOpen : a.status.isOpen = true
    · simp [isOpen] at unplanned
    · exact Decidable.not_not.mp fun other => isOpen (AlertStatus.isOpen_iff.mpr other)
  · split at unplanned
    · cases unplanned
    · split at unplanned <;> cases unplanned

namespace State.Orderly

variable {s t : State} {policy : ReopenPolicy} {connector : String} {f : Finding} {now : Instant}

theorem start (ids : IdSupply) : Orderly ⟨.empty, ids⟩ where
  coherent := coherent_empty
  openIsLatest := openIsLatest_empty
  latestIsNewest := latestIsNewest_empty
  unused _ _ := rfl

theorem latestFor (h : s.Orderly) (fp : String) :
    s.store.latestFor fp = (s.store.recent fp).head? :=
  h.latestIsNewest.latestFor h.coherent fp

theorem newest_of_isOpen (h : s.Orderly) {fp : String} {a b : Alert} {older : List Alert}
    (newest : s.store.recent fp = a :: older) (there : b ∈ s.store.recent fp)
    (isOpen : b.status.isOpen = true) : b = a := by
  obtain ⟨storedA, -⟩ := h.coherent.stored_of_newest newest
  obtain ⟨storedB, rfl⟩ := h.coherent.mem_recent_iff.mp there
  have latest := h.openIsLatest b.id b storedB isOpen
  rw [h.latestIsNewest, newest] at latest
  have sameId : a.id = b.id := Option.some.inj latest
  rw [sameId, storedB] at storedA
  exact Option.some.inj storedA

theorem resolved_of_older (h : s.Orderly) {fp : String} {a b : Alert} {older : List Alert}
    (newest : s.store.recent fp = a :: older) (there : b ∈ older) : b.status = .resolved := by
  refine Decidable.not_not.mp fun other => ?_
  have same := h.newest_of_isOpen newest (newest ▸ List.mem_cons_of_mem a there)
    (AlertStatus.isOpen_iff.mpr other)
  have nodup := h.coherent.nodup_recent fp
  rw [newest, List.nodup_cons] at nodup
  exact nodup.1 (same ▸ there)

theorem resolved_of_mem_dropLast (h : s.Orderly) {fp : String} {a : Alert}
    (there : a ∈ (s.store.alertsFor fp).dropLast) : a.status = .resolved := by
  rw [← List.mem_reverse, ← List.tail_reverse] at there
  change a ∈ (s.store.recent fp).tail at there
  cases recent : s.store.recent fp with
  | nil => simp [recent] at there
  | cons newest older =>
    rw [recent] at there
    exact h.resolved_of_older recent there

theorem isOpenFor_eq_false (h : s.Orderly) {fp : String}
    (closed : ∀ a, (s.store.recent fp).head? = some a → a.status = .resolved) :
    s.store.isOpenFor fp = false := by
  unfold isOpenFor
  rw [h.latestFor]
  split
  · rename_i a latest
    rw [closed a latest]
    rfl
  · rfl

/-- The first attempt at a finding succeeds. -/
theorem attempt (h : s.Orderly) (policy : ReopenPolicy) (connector : String) (f : Finding)
    (now : Instant) :
    ∃ applied t, Correlation.attempt policy connector f now s = (.ok applied, t) ∧
      Received policy connector f now s applied t := by
  have absent := h.unused s.ids.drawn (Nat.le_refl _)
  have read := h.latestFor f.fingerprint
  cases planned : plan policy connector f.fingerprint (s.store.latestFor f.fingerprint) f now
      s.ids.draw.1 with
  | none =>
    obtain ⟨ends, closed⟩ := plan_eq_none planned
    rw [read] at closed
    refine ⟨.ignored, _, ?_, .ignored ends closed⟩
    simp only [Correlation.attempt]
    rw [planned]
  | some result =>
    obtain ⟨next, applied⟩ := result
    have accepted {store : AlertStore} (done : s.store.commit next = .ok (bumped next, store)) :
        Correlation.attempt policy connector f now s = (.ok applied, ⟨store, s.ids.draw.2⟩) := by
      simp only [Correlation.attempt]
      rw [planned]
      simp only [done]
    -- What was read is the newest alert, as it is stored.
    have current {a : Alert} (latest : s.store.latestFor f.fingerprint = some a) :
        s.store.records.find? a.id = some a ∧
          ∃ older, s.store.recent f.fingerprint = a :: older := by
      rw [read] at latest
      obtain ⟨older, newest⟩ := List.head?_eq_some_iff.mp latest
      exact ⟨(h.coherent.stored_of_newest newest).1, older, newest⟩
    rcases plan_eq_some planned with ⟨rfl, occurs, closed, rfl⟩ |
      ⟨a, latest, rfl, occurs, reopens, rfl⟩ | ⟨a, latest, rfl, ends, wasOpen, rfl⟩
    · rw [read] at closed
      have notOpen := h.isOpenFor_eq_false fun a newest => (closed a newest).1
      have done := commit_of_absent
        (a := Alert.ofFinding s.ids.draw.1 f.fingerprint (some connector) f now) absent rfl notOpen
      exact ⟨.created, _, accepted done, .created occurs closed absent rfl⟩
    · obtain ⟨stored, older, newest⟩ := current latest
      rw [← reopened_id a] at stored
      have done := commit_of_current (a := refresh (reopened a) connector f now) stored
        (reopened_version a).symm
      refine ⟨.updated, _, accepted done, ?_⟩
      have sameId : (refresh (reopened a) connector f now).id = a.id := reopened_id a
      rw [sameId]
      exact .updated newest occurs reopens rfl
    · obtain ⟨stored, older, newest⟩ := current latest
      have done := commit_of_current (a := cleared a f now) stored rfl
      refine ⟨.resolved, _, accepted done, ?_⟩
      exact .resolved (a := a) newest ends wasOpen rfl

/-- Revising a record in its place keeps the order, unless it opens an alert that is not the
latest. -/
theorem put (h : s.Orderly) {id : Uuid} {old new : Alert} {ids : IdSupply}
    (stored : s.store.records.find? id = some old) (sameId : new.id = old.id)
    (sameFingerprint : new.fingerprint = old.fingerprint) (version : new.version = old.version + 1)
    (opens : new.status.isOpen = true →
      old.status.isOpen = true ∨ s.store.latest.find? old.fingerprint = some id)
    (later : s.ids.drawn ≤ ids.drawn) : Orderly ⟨s.store.put id new, ids⟩ := by
  have write : s.store.Write (s.store.put id new) :=
    .revise stored (sameId.trans (h.coherent.own_id stored)) sameFingerprint version
  constructor
  case coherent => exact h.coherent.write write
  case openIsLatest => exact h.openIsLatest.put stored sameFingerprint opens
  case latestIsNewest => exact h.latestIsNewest.write h.coherent write
  case unused =>
    intro n undrawn
    have absent := h.unused n (Nat.le_trans later undrawn)
    have differ : IdSupply.nth n ≠ id := by
      rintro rfl
      rw [absent] at stored
      cases stored
    rw [find?_put, if_neg differ]
    exact absent

theorem adjust (h : s.Orderly) {id : Uuid} {old next : Alert}
    (stored : s.store.records.find? id = some old) (adjusts : old.Adjusts next) :
    Orderly { s with store := s.store.put id { next with version := old.version + 1 } } :=
  h.put stored adjusts.id adjusts.fingerprint rfl
    (fun _ => .inl (AlertStatus.isOpen_of_mayBecome adjusts.status)) (Nat.le_refl _)

theorem any_isOpen (h : s.Orderly) (fp : String) :
    (s.store.recent fp).any (·.status.isOpen) =
      (s.store.recent fp).head?.any (·.status.isOpen) := by
  cases newest : s.store.recent fp with
  | nil => rfl
  | cons a older =>
    have closed : older.any (·.status.isOpen) = false := by
      rw [List.any_eq_false]
      intro b there isOpen
      exact AlertStatus.isOpen_iff.mp isOpen (h.resolved_of_older newest there)
    simp [closed]

theorem received (h : s.Orderly) {applied : Applied}
    (r : Received policy connector f now s applied t) : t.Orderly := by
  have later : s.ids.drawn ≤ s.ids.draw.2.drawn := Nat.le_succ _
  have newestStored {a : Alert} {older : List Alert}
      (newest : s.store.recent f.fingerprint = a :: older) :
      s.store.records.find? a.id = some a ∧ s.store.latest.find? a.fingerprint = some a.id := by
    obtain ⟨stored, matching⟩ := h.coherent.stored_of_newest newest
    refine ⟨stored, ?_⟩
    rw [h.latestIsNewest, matching, newest]
    rfl
  cases r with
  | ignored ends closed =>
    exact { h with unused := fun n undrawn => h.unused n (Nat.le_trans later undrawn) }
  | @created new occurs closed absent fresh =>
    have write : s.store.Write (s.store.add new) := .create absent (fresh ▸ rfl)
    have matching : new.fingerprint = f.fingerprint := fresh ▸ rfl
    constructor
    case coherent => exact h.coherent.write write
    case openIsLatest =>
      refine h.openIsLatest.add ?_
      rw [matching]
      exact h.isOpenFor_eq_false fun a newest => (closed a newest).1
    case latestIsNewest => exact h.latestIsNewest.write h.coherent write
    case unused =>
      intro n undrawn
      have differ : IdSupply.nth n ≠ new.id := by
        intro same
        have drawn : n = s.ids.drawn := IdSupply.eq_of_nth_eq (same.trans (fresh ▸ rfl))
        exact absurd undrawn (by simp [IdSupply.draw, drawn])
      rw [find?_add, if_neg differ]
      exact h.unused n (Nat.le_trans later undrawn)
  | @updated a new older newest occurs reopens refreshed =>
    obtain ⟨stored, latest⟩ := newestStored newest
    subst refreshed
    exact h.put stored (reopened_id a) (reopened_fingerprint a)
      (congrArg (· + 1) (reopened_version a)) (fun _ => .inr latest) later
  | @resolved a new older newest ends wasOpen clears =>
    obtain ⟨stored, -⟩ := newestStored newest
    subst clears
    exact h.put stored rfl rfl rfl (fun _ => .inl wasOpen) later

theorem eq_verdict (h : s.Orderly) {applied : Applied}
    (r : Received policy connector f now s applied t) :
    applied = verdict policy (s.store.alertsFor f.fingerprint) f := by
  rw [← verdict_reverse]
  change applied = verdict policy (s.store.recent f.fingerprint) f
  unfold verdict
  rw [h.any_isOpen]
  cases r with
  | ignored ends closed =>
    cases newest : s.store.recent f.fingerprint with
    | nil => simp [ends]
    | cons a older =>
      have resolved := closed a (by rw [newest]; rfl)
      simp [ends, resolved, AlertStatus.isOpen]
  | created occurs closed absent fresh =>
    cases newest : s.store.recent f.fingerprint with
    | nil => simp [occurs]
    | cons a older =>
      obtain ⟨resolved, policy⟩ := closed a (by rw [newest]; rfl)
      simp [occurs, resolved, policy, AlertStatus.isOpen]
  | @updated a new older newest occurs reopens refreshed =>
    by_cases resolved : a.status = .resolved
    · simp [newest, occurs, reopens resolved]
    · simp [newest, occurs, AlertStatus.isOpen_iff.mpr resolved]
  | resolved newest ends wasOpen clears => simp [newest, ends, wasOpen]

/-- A finding makes an alert of its fingerprint if it is counted as created, and no other. -/
theorem recordCount (h : s.Orderly) {applied : Applied}
    (r : Received policy connector f now s applied t) (p : String → Bool) :
    t.store.recordCount p =
      s.store.recordCount p + (if p f.fingerprint && applied = .created then 1 else 0) := by
  cases r with
  | ignored ends closed => simp
  | created occurs closed absent fresh =>
    rw [recordCount_add absent, fresh]
    simp [bumped, Alert.ofFinding]
  | @updated a new older newest occurs reopens refreshed =>
    obtain ⟨stored, -⟩ := h.coherent.stored_of_newest newest
    rw [recordCount_put stored (refreshed ▸ reopened_fingerprint a)]
    simp
  | @resolved a new older newest ends wasOpen clears =>
    obtain ⟨stored, -⟩ := h.coherent.stored_of_newest newest
    rw [recordCount_put stored (clears ▸ rfl)]
    simp

theorem recent_of_ne (h : s.Orderly) {applied : Applied}
    (r : Received policy connector f now s applied t) {fp : String} (other : fp ≠ f.fingerprint) :
    t.store.recent fp = s.store.recent fp := by
  have put {a new : Alert} {older : List Alert}
      (newest : s.store.recent f.fingerprint = a :: older)
      (sameFingerprint : new.fingerprint = a.fingerprint) :
      (s.store.put a.id new).recent fp = s.store.recent fp := by
    obtain ⟨-, matching⟩ := h.coherent.stored_of_newest newest
    rw [← matching] at newest other
    rw [h.coherent.recent_put_newest newest sameFingerprint, if_neg other]
  cases r with
  | ignored ends closed => rfl
  | created occurs closed absent fresh =>
    subst fresh
    exact (recent_add absent fp).trans (if_neg other)
  | @updated a new older newest occurs reopens refreshed =>
    exact put newest (refreshed ▸ reopened_fingerprint a)
  | @resolved a new older newest ends wasOpen clears => exact put newest (clears ▸ rfl)

theorem ingestOne (h : s.Orderly) (c : AlertConfig) (connector : String) (f : Finding)
    (now : Instant) (left : Nat) :
    Correlation.ingestOne c connector f now left s =
        (.ok (verdict c.reopenPolicy (s.store.alertsFor f.fingerprint) f),
          receive c.reopenPolicy connector now s f) ∧
      (receive c.reopenPolicy connector now s f).Orderly := by
  obtain ⟨applied, t, attempted, r⟩ := h.attempt c.reopenPolicy connector f now
  have there : receive c.reopenPolicy connector now s f = t := congrArg Prod.snd attempted
  unfold Correlation.ingestOne
  rw [attempted, there, ← h.eq_verdict r]
  exact ⟨rfl, h.received r⟩

/-- No finding of a batch is given up, and the answer counts each for what became of it. -/
theorem ingest (h : s.Orderly) (c : AlertConfig) (connector : String) (now : Instant)
    (batch : List Finding) :
    Correlation.ingest c connector now batch s =
        (.ok (.mergeAll ((verdicts c.reopenPolicy connector now batch s).map Applied.counts)),
          batch.foldl (receive c.reopenPolicy connector now) s) ∧
      (batch.foldl (receive c.reopenPolicy connector now) s).Orderly := by
  induction batch generalizing s with
  | nil => exact ⟨rfl, h⟩
  | cons f rest ih =>
    obtain ⟨one, next⟩ := h.ingestOne c connector f now c.maxCommitRetries
    obtain ⟨others, last⟩ := ih next
    refine ⟨?_, last⟩
    unfold Correlation.ingest
    rw [one]
    simp only [others]
    rfl

end State.Orderly

def State.serve (c : AlertConfig) (s : State) : AlertRequest → State
  | .ingest connector now batch => (ingest c connector now batch s).2
  | .operate id action now => { s with store := s.store.settled (s.store.apply id action now) }
  | .sweep now => { s with store := (s.store.expireSuppressions now).2 }

def State.serveAll (c : AlertConfig) (s : State) (requests : List AlertRequest) : State :=
  requests.foldl (serve c) s

/-- What ending one suppression keeps is kept by a sweep. -/
theorem sweep_induction {P : AlertStore → Prop} {now : Instant} {s : AlertStore} (start : P s)
    (keep : ∀ {s : AlertStore} {id : Uuid} {old next : Alert}, P s →
      s.records.find? id = some old → reactivate now old = .ok next →
      P (s.put id { next with version := old.version + 1 })) : P (s.expireSuppressions now).2 := by
  unfold expireSuppressions
  refine List.foldlRecOn (motive := fun acc : Nat × AlertStore => P acc.2) _ _ start ?_
  intro acc held id _
  rw [expireOne_eq]
  cases ended : acc.2.modify id (reactivate now) with
  | error e => exact held
  | ok result =>
    obtain ⟨a, t⟩ := result
    obtain ⟨old, next, stored, allowed, rfl, rfl⟩ := modify_eq_ok ended
    exact keep held stored allowed

theorem State.Orderly.serve {s : State} (h : s.Orderly) (c : AlertConfig)
    (request : AlertRequest) : (s.serve c request).Orderly := by
  cases request with
  | ingest connector now batch =>
    obtain ⟨served, last⟩ := h.ingest c connector now batch
    rw [State.serve, served]
    exact last
  | operate id action now =>
    rw [State.serve]
    cases applied : s.store.apply id action now with
    | error e => exact h
    | ok result =>
      obtain ⟨a, t⟩ := result
      obtain ⟨old, next, stored, allowed, rfl, rfl⟩ := modify_eq_ok applied
      exact h.adjust stored (AlertAction.adjusts allowed)
  | sweep now =>
    refine sweep_induction (P := fun store => Orderly ⟨store, s.ids⟩) h ?_
    intro store id old next orderly stored allowed
    exact orderly.adjust stored (reactivate_adjusts allowed)

theorem State.Orderly.serveAll {s : State} (h : s.Orderly) (c : AlertConfig)
    (requests : List AlertRequest) : (s.serveAll c requests).Orderly := by
  induction requests generalizing s with
  | nil => exact h
  | cons request rest ih =>
    apply ih
    exact h.serve c request

theorem recordCount_serve {s : State} {c : AlertConfig} {request : AlertRequest}
    (other : ∀ connector now batch, request ≠ .ingest connector now batch) (p : String → Bool) :
    (s.serve c request).store.recordCount p = s.store.recordCount p := by
  cases request with
  | ingest connector now batch => exact absurd rfl (other connector now batch)
  | operate id action now =>
    rw [State.serve]
    cases applied : s.store.apply id action now with
    | error e => rfl
    | ok result =>
      obtain ⟨a, t⟩ := result
      obtain ⟨old, next, stored, allowed, rfl, rfl⟩ := modify_eq_ok applied
      exact recordCount_adjust stored (AlertAction.adjusts allowed)
  | sweep now =>
    refine sweep_induction (P := fun store => store.recordCount p = s.store.recordCount p) rfl ?_
    intro store id old next same stored allowed
    exact (recordCount_adjust stored (reactivate_adjusts allowed)).trans same

end Correlation

end DeviceWatch
