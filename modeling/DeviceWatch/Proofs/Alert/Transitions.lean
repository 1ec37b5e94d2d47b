import DeviceWatch.Proofs.Alert.Traffic
import DeviceWatch.Proofs.Lists

/-!
# What an event of alert traffic does

An ingester that has read or planned holds a copy of an alert, and the store recalls that copy.
A commit that is accepted was therefore planned from the record as it is stored now, so that it
either creates a record or applies the finding to the stored one; and no commit fails but by a
conflict.  `transition_step` lists what an event can do, and invariants are proved from that list.
-/

namespace DeviceWatch

open Correlation AlertStore

namespace AlertStatus

theorem isOpen_iff {s : AlertStatus} : s.isOpen = true ↔ s ≠ .resolved := by
  cases s <;> simp [isOpen]

theorem isOpen_of_mayBecome {s t : AlertStatus} (h : s.mayBecome t = true) : s.isOpen = true := by
  cases s with
  | resolved => simp [mayBecome] at h
  | _ => rfl

end AlertStatus

/-- An alert after a change of status that leaves its occurrences alone. -/
structure Alert.Adjusts (a b : Alert) : Prop where
  id : b.id = a.id
  fingerprint : b.fingerprint = a.fingerprint
  occurrenceCount : b.occurrenceCount = a.occurrenceCount
  status : a.status.mayBecome b.status = true

theorem AlertAction.applyTo_eq_ok {action : AlertAction} {now : Instant} {a b : Alert}
    (allowed : action.applyTo now a = .ok b) :
    action.checkSource a = .ok () ∧ a.status.mayBecome action.target = true ∧
      action.checkEnd now = .ok () ∧
      b = { action.stamp now a with status := action.target, updatedAt := now } := by
  unfold applyTo at allowed
  cases source : action.checkSource a with
  | error e => simp [source, bind, Except.bind] at allowed
  | ok _ =>
    by_cases may : a.status.mayBecome action.target = true
    · cases ended : action.checkEnd now with
      | error e =>
        simp [source, AlertStatus.ensureTransition, may, ended, bind, Except.bind] at allowed
      | ok _ =>
        simp only [source, AlertStatus.ensureTransition, may, ended, bind, Except.bind, pure,
          Except.pure, if_true, Except.ok.injEq] at allowed
        exact ⟨rfl, may, rfl, allowed.symm⟩
    · simp [source, AlertStatus.ensureTransition, may, bind, Except.bind] at allowed

theorem AlertAction.adjusts {action : AlertAction} {now : Instant} {a b : Alert}
    (allowed : action.applyTo now a = .ok b) : a.Adjusts b := by
  obtain ⟨-, may, -, rfl⟩ := applyTo_eq_ok allowed
  constructor
  case status => exact may
  all_goals cases action <;> rfl

theorem AlertStore.reactivate_eq_ok {now : Instant} {a b : Alert}
    (allowed : reactivate now a = .ok b) :
    a.status = .suppressed ∧ a.suppressionActive now = false ∧
      b = { a with status := .active, suppressedUntil := none, updatedAt := now } := by
  unfold reactivate at allowed
  split at allowed
  · cases allowed
  · rename_i lapsed
    cases allowed
    rw [not_or, Decidable.not_not, Bool.not_eq_true] at lapsed
    exact ⟨lapsed.1, lapsed.2, rfl⟩

theorem AlertStore.reactivate_adjusts {now : Instant} {a b : Alert}
    (allowed : reactivate now a = .ok b) : a.Adjusts b := by
  obtain ⟨suppressed, -, rfl⟩ := reactivate_eq_ok allowed
  exact ⟨rfl, rfl, rfl, by rw [suppressed]; rfl⟩

namespace Correlation

@[simp] theorem reopened_id (a : Alert) : (reopened a).id = a.id := by
  unfold reopened
  split <;> rfl

@[simp] theorem reopened_fingerprint (a : Alert) : (reopened a).fingerprint = a.fingerprint := by
  unfold reopened
  split <;> rfl

@[simp] theorem reopened_version (a : Alert) : (reopened a).version = a.version := by
  unfold reopened
  split <;> rfl

@[simp] theorem reopened_occurrenceCount (a : Alert) :
    (reopened a).occurrenceCount = a.occurrenceCount := by
  unfold reopened
  split <;> rfl

@[simp] theorem reopened_occurredAt (a : Alert) : (reopened a).occurredAt = a.occurredAt := by
  unfold reopened
  split <;> rfl

theorem reopened_isOpen (a : Alert) : (reopened a).status.isOpen = true := by
  unfold reopened
  split
  · rfl
  · rfl
  · rename_i open' _
    exact AlertStatus.isOpen_iff.mpr open'

theorem plan_eq_some {policy : ReopenPolicy} {connector fp : String} {latest : Option Alert}
    {f : Finding} {now : Instant} {id : Uuid} {next : Alert} {applied : Applied}
    (planned : plan policy connector fp latest f now id = some (next, applied)) :
    (applied = .created ∧ f.severity ≠ .clear ∧
      (∀ a, latest = some a → a.status = .resolved ∧ policy = .newIncident) ∧
      next = Alert.ofFinding id fp (some connector) f now) ∨
    (∃ a, latest = some a ∧ applied = .updated ∧ f.severity ≠ .clear ∧
      (a.status = .resolved → policy = .resume) ∧ next = refresh (reopened a) connector f now) ∨
    (∃ a, latest = some a ∧ applied = .resolved ∧ f.severity = .clear ∧
      a.status.isOpen = true ∧ next = cleared a f now) := by
  unfold plan at planned
  split at planned
  · rename_i clear
    split at planned
    · rename_i a
      split at planned
      · rename_i wasOpen
        cases planned
        exact .inr (.inr ⟨a, rfl, rfl, clear, wasOpen, rfl⟩)
      · cases planned
    · cases planned
  · rename_i occurs
    split at planned
    · cases planned
      exact .inl ⟨rfl, occurs, by simp, rfl⟩
    · rename_i a
      split at planned
      · rename_i fresh
        cases planned
        refine .inl ⟨rfl, occurs, ?_, rfl⟩
        rintro b ⟨⟩
        exact fresh
      · rename_i kept
        cases planned
        refine .inr (.inl ⟨a, rfl, rfl, occurs, fun resolved => ?_, rfl⟩)
        cases policy with
        | newIncident => exact absurd ⟨resolved, rfl⟩ kept
        | resume => rfl

end Correlation

/-- What an accepted commit of `next` does to the store: it creates an alert, or applies the finding
to an alert as it is stored. -/
inductive Committed (policy : ReopenPolicy) (s : AlertStore) (connector : String) (f : Finding) :
    Alert → Applied → AlertStore → Prop
  | created {now : Instant} {id : Uuid} {next : Alert} (occurs : f.severity ≠ .clear)
      (absent : s.records.find? id = none) (closed : s.isOpenFor f.fingerprint = false)
      (fresh : next = Alert.ofFinding id f.fingerprint (some connector) f now) :
      Committed policy s connector f next .created (s.add (bumped next))
  | updated {now : Instant} {a next : Alert} (occurs : f.severity ≠ .clear)
      (stored : s.records.find? a.id = some a) (matching : a.fingerprint = f.fingerprint)
      (reopens : a.status = .resolved → policy = .resume)
      (refreshed : next = refresh (reopened a) connector f now) :
      Committed policy s connector f next .updated (s.put a.id (bumped next))
  | resolved {now : Instant} {a next : Alert} (ends : f.severity = .clear)
      (stored : s.records.find? a.id = some a) (matching : a.fingerprint = f.fingerprint)
      (wasOpen : a.status.isOpen = true) (clears : next = cleared a f now) :
      Committed policy s connector f next .resolved (s.put a.id (bumped next))

namespace Committed

variable {policy : ReopenPolicy} {s t : AlertStore} {connector : String} {f : Finding}
  {next : Alert}
  {applied : Applied}

theorem write (h : Committed policy s connector f next applied t) : s.Write t := by
  cases h with
  | created _ absent _ fresh =>
    subst fresh
    exact .create absent rfl
  | updated _ stored _ _ refreshed =>
    subst refreshed
    exact .revise stored (reopened_id _) (reopened_fingerprint _)
      (congrArg (· + 1) (reopened_version _))
  | resolved _ stored _ _ clears =>
    subst clears
    exact .revise stored rfl rfl rfl

theorem find? (h : Committed policy s connector f next applied t) (id : Uuid) :
    t.records.find? id = if id = next.id then some (bumped next) else s.records.find? id := by
  cases h with
  | created _ _ _ _ => exact find?_add s id (bumped next)
  | @updated _ a _ _ _ _ _ refreshed =>
    have sameId : next.id = a.id := refreshed ▸ reopened_id a
    rw [sameId]
    exact find?_put s a.id id (bumped next)
  | @resolved _ a _ _ _ _ _ clears =>
    have sameId : next.id = a.id := clears ▸ rfl
    rw [sameId]
    exact find?_put s a.id id (bumped next)

end Committed

theorem commit_copy {s t : AlertStore} {a next b : Alert} (done : s.commit next = .ok (b, t))
    (known : s.Recalls a) (sameId : next.id = a.id) (sameVersion : next.version = a.version) :
    s.records.find? a.id = some a ∧ t = s.put a.id (bumped next) := by
  obtain ⟨stored, found, _, _, current⟩ := known
  rcases commit_eq_ok done with ⟨stored', found', version, rfl⟩ | ⟨absent, _, _, _⟩
  · rw [sameId] at found' ⊢
    have : stored' = stored := Option.some.inj (found'.symm.trans found)
    subst this
    have := current (sameVersion.symm.trans version.symm)
    subst this
    exact ⟨found, rfl⟩
  · rw [sameId, found] at absent
    cases absent

/-- A plan that was made from a copy and is accepted applies the finding to the stored record. -/
theorem committed_of_plan {policy : ReopenPolicy} {s t : AlertStore} {connector : String}
    {f : Finding} {latest : Option Alert} {now : Instant} {id : Uuid} {next b : Alert}
    {applied : Applied} (coherent : s.Coherent) (known : s.Remembers f.fingerprint latest)
    (planned : plan policy connector f.fingerprint latest f now id = some (next, applied))
    (done : s.commit next = .ok (b, t)) : Committed policy s connector f next applied t := by
  rcases plan_eq_some planned with ⟨rfl, occurs, _, rfl⟩ | ⟨a, rfl, rfl, occurs, reopens, rfl⟩ |
    ⟨a, rfl, rfl, ends, wasOpen, rfl⟩
  · rcases commit_eq_ok done with ⟨stored, found, current, _⟩ | ⟨absent, _, closed, rfl⟩
    · have written := coherent.written found
      rw [current] at written
      exact absurd written (Nat.lt_irrefl 0)
    · exact .created occurs absent closed rfl
  · obtain ⟨recalled, matching⟩ := known a rfl
    obtain ⟨stored, rfl⟩ := commit_copy done recalled (reopened_id a) (reopened_version a)
    exact .updated occurs stored matching reopens rfl
  · obtain ⟨recalled, matching⟩ := known a rfl
    obtain ⟨stored, rfl⟩ := commit_copy done recalled rfl rfl
    exact .resolved ends stored matching wasOpen rfl

/-- A plan that was made from a copy is refused by a conflict, if at all. -/
theorem conflict_of_plan {policy : ReopenPolicy} {s : AlertStore} {connector : String}
    {f : Finding} {latest : Option Alert} {now : Instant} {id : Uuid} {next : Alert}
    {applied : Applied} {e : ServiceError} (known : s.Remembers f.fingerprint latest)
    (planned : plan policy connector f.fingerprint latest f now id = some (next, applied))
    (failed : s.commit next = .error e) : ∃ reason, e = .conflict reason := by
  refine commit_eq_error (fun written => ?_) failed
  rcases plan_eq_some planned with ⟨_, _, _, rfl⟩ | ⟨a, rfl, _, _, _, rfl⟩ | ⟨a, rfl, _, _, _, rfl⟩
  · exact absurd rfl written
  · obtain ⟨⟨stored, found, _⟩, _⟩ := known a rfl
    exact ⟨stored, (congrArg s.records.find? (reopened_id a)).trans found⟩
  · obtain ⟨⟨stored, found, _⟩, _⟩ := known a rfl
    exact ⟨stored, found⟩

/-- What an ingester holds is backed by the store. -/
def Ingester.Grounded (policy : ReopenPolicy) (s : AlertStore) (w : Ingester) : Prop :=
  match w.stage with
  | .ready => True
  | .read latest => ∃ f rest, w.todo = f :: rest ∧ s.Remembers f.fingerprint latest
  | .planned next applied => ∃ f rest latest now id, w.todo = f :: rest ∧
      s.Remembers f.fingerprint latest ∧
      Correlation.plan policy w.connector f.fingerprint latest f now id = some (next, applied)
  | .failed _ => False

namespace Ingester

variable {policy : ReopenPolicy} {s t : AlertStore} {w : Ingester}

theorem Grounded.write (h : w.Grounded policy s) (written : s.Write t) : w.Grounded policy t := by
  unfold Grounded at h ⊢
  split
  · trivial
  · rename_i latest stage
    simp only [stage] at h
    obtain ⟨f, rest, todo, known⟩ := h
    exact ⟨f, rest, todo, known.write written⟩
  · rename_i next applied stage
    simp only [stage] at h
    obtain ⟨f, rest, latest, now, id, todo, known, planned⟩ := h
    exact ⟨f, rest, latest, now, id, todo, known.write written, planned⟩
  · rename_i e stage
    simp only [stage] at h

theorem grounded_of_ready (ready : w.stage = .ready) : w.Grounded policy s := by
  unfold Grounded
  rw [ready]
  trivial

theorem retry_stage (c : AlertConfig) (w : Ingester) : (w.retry c).stage = .ready := by
  unfold retry
  split <;> rfl

end Ingester

namespace AlertTraffic

structure Sound (c : AlertConfig) (s : AlertTraffic) : Prop where
  coherent : s.store.Coherent
  grounded : ∀ w ∈ s.ingesters, w.Grounded c.reopenPolicy s.store

/-- What an event can do. -/
inductive Transition (c : AlertConfig) (s : AlertTraffic) : AlertEvent → AlertTraffic → Prop
  | idle {e : AlertEvent} : Transition c s e s
  | arrive {connector : String} {batch : List Finding} :
      Transition c s (.arrive connector batch)
        { s with ingesters := s.ingesters ++ [.start c connector batch] }
  | read {i : Nat} {w : Ingester} {f : Finding} {rest : List Finding}
      (here : s.ingesters[i]? = some w) (ready : w.stage = .ready) (todo : w.todo = f :: rest) :
      Transition c s (.read i) { s with
        ingesters := s.ingesters.set i
          { w with stage := .read (s.store.latestFor f.fingerprint) } }
  | plan {i : Nat} {now : Instant} {id : Uuid} {w : Ingester} {f : Finding} {rest : List Finding}
      {latest : Option Alert} {next : Alert} {applied : Applied} (here : s.ingesters[i]? = some w)
      (known : w.stage = .read latest) (todo : w.todo = f :: rest)
      (planned : Correlation.plan c.reopenPolicy w.connector f.fingerprint latest f now id =
        some (next, applied)) :
      Transition c s (.plan i now id) { s with
        ingesters := s.ingesters.set i { w with stage := .planned next applied } }
  /-- The finding changes nothing. -/
  | ignore {i : Nat} {now : Instant} {id : Uuid} {w : Ingester} {f : Finding} {rest : List Finding}
      {latest : Option Alert} (here : s.ingesters[i]? = some w) (known : w.stage = .read latest)
      (todo : w.todo = f :: rest)
      (unchanged :
        Correlation.plan c.reopenPolicy w.connector f.fingerprint latest f now id = none) :
      Transition c s (.plan i now id) { s with
        ingesters := s.ingesters.set i (w.finish c .ignored) }
  | accept {i : Nat} {w : Ingester} {f : Finding} {rest : List Finding} {next : Alert}
      {applied : Applied} {b : Alert} {store : AlertStore} (here : s.ingesters[i]? = some w)
      (drafted : w.stage = .planned next applied) (todo : w.todo = f :: rest)
      (done : s.store.commit next = .ok (b, store))
      (committed : Committed c.reopenPolicy s.store w.connector f next applied store) :
      Transition c s (.commit i) { s with
        store := store
        ingesters := s.ingesters.set i (w.finish c applied)
        accepted := s.accepted ++ [(f.fingerprint, applied)] }
  | conflict {i : Nat} {w : Ingester} {f : Finding} {rest : List Finding} {next : Alert}
      {applied : Applied} {reason : String} (here : s.ingesters[i]? = some w)
      (drafted : w.stage = .planned next applied) (todo : w.todo = f :: rest)
      (failed : s.store.commit next = .error (.conflict reason)) :
      Transition c s (.commit i) { s with ingesters := s.ingesters.set i (w.retry c) }
  | operate {id : Uuid} {action : AlertAction} {now : Instant} {old next : Alert}
      (stored : s.store.records.find? id = some old) (allowed : action.applyTo now old = .ok next) :
      Transition c s (.operate id action now) { s with
        store := s.store.put id { next with version := old.version + 1 } }
  | sweep {now : Instant} :
      Transition c s (.sweep now) { s with
        sweeps := s.sweeps ++ [⟨now, s.store.expiredSuppressions now⟩] }
  | expire {i : Nat} {now : Instant} {id : Uuid} {rest : List Uuid} {old next : Alert}
      (here : s.sweeps[i]? = some ⟨now, id :: rest⟩)
      (stored : s.store.records.find? id = some old)
      (allowed : AlertStore.reactivate now old = .ok next) :
      Transition c s (.expire i) { s with
        store := s.store.put id { next with version := old.version + 1 }
        sweeps := s.sweeps.set i ⟨now, rest⟩ }
  /-- The suppression has ended otherwise. -/
  | pass {i : Nat} {now : Instant} {id : Uuid} {rest : List Uuid} {e : ServiceError}
      (here : s.sweeps[i]? = some ⟨now, id :: rest⟩)
      (failed : s.store.modify id (AlertStore.reactivate now) = .error e) :
      Transition c s (.expire i) { s with sweeps := s.sweeps.set i ⟨now, rest⟩ }

variable {c : AlertConfig} {s t : AlertTraffic}

theorem transition_read (s : AlertTraffic) (i : Nat) :
    Transition c s (.read i) (step c s (.read i)) := by
  simp only [step]
  split
  · rename_i w here
    cases ready : w.stage with
    | ready =>
      cases todo : w.todo with
      | nil => simpa [Ingester.read, ready, todo, set_self_of_getElem? here] using Transition.idle
      | cons f rest => simpa [Ingester.read, ready, todo] using Transition.read here ready todo
    | _ => simpa [Ingester.read, ready, set_self_of_getElem? here] using Transition.idle
  · exact .idle

theorem transition_plan (s : AlertTraffic) (i : Nat) (now : Instant) (id : Uuid) :
    Transition c s (.plan i now id) (step c s (.plan i now id)) := by
  simp only [step]
  split
  · rename_i w here
    cases known : w.stage with
    | read latest =>
      cases todo : w.todo with
      | nil => simpa [Ingester.plan, known, todo, set_self_of_getElem? here] using Transition.idle
      | cons f rest =>
        cases planned :
          Correlation.plan c.reopenPolicy w.connector f.fingerprint latest f now id with
        | none =>
          simpa [Ingester.plan, known, todo, planned] using
            Transition.ignore here known todo planned
        | some result =>
          simpa [Ingester.plan, known, todo, planned] using
            Transition.plan here known todo planned
    | _ => simpa [Ingester.plan, known, set_self_of_getElem? here] using Transition.idle
  · exact .idle

theorem Sound.transition_commit (sound : Sound c s) (i : Nat) :
    Transition c s (.commit i) (step c s (.commit i)) := by
  simp only [step]
  split
  · rename_i w here
    unfold AlertTraffic.commit
    split
    · rename_i next applied f rest drafted todo
      have grounded := sound.grounded w (List.mem_of_getElem? here)
      simp only [Ingester.Grounded, drafted, todo] at grounded
      obtain ⟨_, _, latest, now, id, ⟨⟩, known, planned⟩ := grounded
      cases done : s.store.commit next with
      | ok result =>
        exact .accept here drafted todo done (committed_of_plan sound.coherent known planned done)
      | error e =>
        obtain ⟨reason, rfl⟩ := conflict_of_plan known planned done
        exact .conflict here drafted todo done
    · exact .idle
  · exact .idle

theorem Sound.transition_step (sound : Sound c s) (e : AlertEvent) :
    Transition c s e (step c s e) := by
  cases e with
  | arrive connector batch => exact .arrive
  | read i => exact transition_read s i
  | plan i now id => exact transition_plan s i now id
  | commit i => exact sound.transition_commit i
  | operate id action now =>
    simp only [step]
    cases applied : s.store.apply id action now with
    | ok result =>
      obtain ⟨a, store⟩ := result
      obtain ⟨old, next, stored, allowed, rfl, rfl⟩ := modify_eq_ok applied
      exact .operate stored allowed
    | error e => exact .idle
  | sweep now => exact .sweep
  | expire i =>
    simp only [step]
    split
    · rename_i now id rest here
      cases ended : s.store.modify id (reactivate now) with
      | ok result =>
        obtain ⟨a, store⟩ := result
        obtain ⟨old, next, stored, allowed, rfl, rfl⟩ := modify_eq_ok ended
        simpa [expireOne, ended] using Transition.expire here stored allowed
      | error e => simpa [expireOne, ended] using Transition.pass here ended
    · exact .idle

theorem Transition.write {e : AlertEvent} (h : Transition c s e t) (coherent : s.store.Coherent) :
    t.store = s.store ∨ s.store.Write t.store := by
  cases h with
  | accept _ _ _ _ committed => exact .inr committed.write
  | operate stored allowed =>
    have adjusts := AlertAction.adjusts allowed
    exact .inr (.revise stored (adjusts.id.trans (coherent.own_id stored)) adjusts.fingerprint rfl)
  | expire _ stored allowed =>
    have adjusts := reactivate_adjusts allowed
    exact .inr (.revise stored (adjusts.id.trans (coherent.own_id stored)) adjusts.fingerprint rfl)
  | _ => exact .inl rfl

/-- An ingester is left as it was, or starts on a finding, or holds what the event gave it. -/
theorem Transition.ingester {e : AlertEvent} (h : Transition c s e t) (sound : Sound c s)
    {w : Ingester} (there : w ∈ t.ingesters) :
    w ∈ s.ingesters ∨ w.stage = .ready ∨ w.Grounded c.reopenPolicy s.store := by
  cases h with
  | arrive =>
    rcases List.mem_append.mp there with old | new
    · exact .inl old
    · obtain rfl := List.mem_singleton.mp new
      exact .inr (.inl rfl)
  | read here ready todo =>
    refine (List.mem_or_eq_of_mem_set there).imp_right fun turned => .inr ?_
    subst turned
    exact ⟨_, _, todo, sound.coherent.remembers_latestFor _⟩
  | plan here known todo planned =>
    refine (List.mem_or_eq_of_mem_set there).imp_right fun turned => .inr ?_
    subst turned
    have grounded := sound.grounded _ (List.mem_of_getElem? here)
    simp only [Ingester.Grounded, known, todo] at grounded
    obtain ⟨_, _, ⟨⟩, remembers⟩ := grounded
    exact ⟨_, _, _, _, _, todo, remembers, planned⟩
  | ignore | accept =>
    refine (List.mem_or_eq_of_mem_set there).imp_right fun turned => .inl ?_
    subst turned
    rfl
  | conflict =>
    refine (List.mem_or_eq_of_mem_set there).imp_right fun turned => .inl ?_
    subst turned
    exact Ingester.retry_stage c _
  | _ => exact .inl there

theorem sound_step (sound : Sound c s) (e : AlertEvent) : Sound c (step c s e) := by
  have transition := sound.transition_step e
  have written := transition.write sound.coherent
  constructor
  · rcases written with same | write
    · rw [same]
      exact sound.coherent
    · exact sound.coherent.write write
  · intro w there
    have grounded : w.Grounded c.reopenPolicy s.store ∨ w.stage = .ready := by
      rcases transition.ingester sound there with old | ready | grounded
      · exact .inl (sound.grounded w old)
      · exact .inr ready
      · exact .inl grounded
    rcases grounded with grounded | ready
    · rcases written with same | write
      · rwa [same]
      · exact grounded.write write
    · exact Ingester.grounded_of_ready ready

/-- The event commits what an ingester has planned, and the store accepts it. -/
def Accepts (s : AlertTraffic) : AlertEvent → Alert → Applied → Prop
  | .commit i, next, applied => ∃ w b store, s.ingesters[i]? = some w ∧
      w.stage = .planned next applied ∧ s.store.commit next = .ok (b, store)
  | _, _, _ => False

theorem Sound.committed_of_accepts (sound : Sound c s) {e : AlertEvent} {next : Alert}
    {applied : Applied} (accepts : s.Accepts e next applied) :
    ∃ connector f,
      Committed c.reopenPolicy s.store connector f next applied (step c s e).store := by
  cases e with
  | commit i =>
    obtain ⟨w, b, store, here, drafted, done⟩ := accepts
    have grounded := sound.grounded w (List.mem_of_getElem? here)
    simp only [Ingester.Grounded, drafted] at grounded
    obtain ⟨f, rest, latest, now, id, todo, known, planned⟩ := grounded
    refine ⟨w.connector, f, ?_⟩
    simp only [step, here, AlertTraffic.commit, drafted, todo, done]
    exact committed_of_plan sound.coherent known planned done
  | _ => exact accepts.elim

theorem sound_start (c : AlertConfig) : Sound c {} :=
  ⟨coherent_empty, by simp⟩

theorem sound_after (c : AlertConfig) (events : List AlertEvent) : Sound c (after c events) :=
  run_induction (sound_start c) (fun _ e sound => sound_step sound e) events

/-- What holds at the start and is kept by every transition from a sound state always holds. -/
theorem invariant_after {P : AlertTraffic → Prop} (start : P {})
    (keep : ∀ {s t : AlertTraffic} {e : AlertEvent}, Sound c s → P s → Transition c s e t → P t)
    (events : List AlertEvent) : P (after c events) := by
  have both : Sound c (after c events) ∧ P (after c events) := by
    refine run_induction (P := fun s => Sound c s ∧ P s) ⟨sound_start c, start⟩ ?_ events
    intro s e h
    exact ⟨sound_step h.1 e, keep h.1 h.2 (h.1.transition_step e)⟩
  exact both.2

theorem after_take_succ (c : AlertConfig) {events : List AlertEvent} {n : Nat} {e : AlertEvent}
    (there : events[n]? = some e) :
    after c (events.take (n + 1)) = step c (after c (events.take n)) e := by
  obtain ⟨within, rfl⟩ := List.getElem?_eq_some_iff.mp there
  rw [List.take_succ_eq_append_getElem within]
  exact run_append c {} _ [events[n]]

/-- What only certain events break holds throughout a run if and only if none of them occurs. -/
theorem throughout_iff {P : AlertTraffic → Prop} {breaks : AlertTraffic → AlertEvent → Prop}
    (start : P {})
    (keep : ∀ {s : AlertTraffic} (e : AlertEvent), Sound c s → P s →
      (P (step c s e) ↔ ¬ breaks s e)) (events : List AlertEvent) :
    (∀ n, P (after c (events.take n))) ↔
      ∀ n e, events[n]? = some e → ¬ breaks (after c (events.take n)) e := by
  constructor
  · intro holds n e there
    have next := holds (n + 1)
    rw [after_take_succ c there] at next
    exact (keep e (sound_after c _) (holds n)).mp next
  · intro unbroken n
    induction n with
    | zero => exact start
    | succ n ih =>
      cases there : events[n]? with
      | none =>
        rw [List.take_of_length_le (Nat.le_succ_of_le (List.getElem?_eq_none_iff.mp there))]
        rwa [List.take_of_length_le (List.getElem?_eq_none_iff.mp there)] at ih
      | some e =>
        rw [after_take_succ c there]
        exact (keep e (sound_after c _) ih).mpr (unbroken n e there)

end AlertTraffic

end DeviceWatch
