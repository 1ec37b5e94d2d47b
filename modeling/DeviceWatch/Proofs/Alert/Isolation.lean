import Mathlib.Data.List.Dedup
import Mathlib.Data.List.Forall2
import DeviceWatch.Proofs.Alert.Requests

/-!
# Fingerprints do not interfere

A finding reads and writes the alerts of its own fingerprint, and no others.  What a batch does to the
alerts of a fingerprint is therefore what the findings of that fingerprint do when they come alone,
but for the identifiers of new alerts; and the answer to the batch adds up the answers to its parts.
-/

namespace DeviceWatch

open Correlation AlertStore

namespace IngestCounts

theorem merge_left_comm (c d e : IngestCounts) : c.merge (d.merge e) = d.merge (c.merge e) := by
  simp only [merge, Nat.add_left_comm]

variable {κ : Type} [DecidableEq κ]

theorem mergeAll_bump {keys : List κ} (nodup : keys.Nodup) {key : κ} (there : key ∈ keys)
    (c : IngestCounts) (part : κ → IngestCounts) :
    mergeAll (keys.map fun k => if k = key then c.merge (part k) else part k) =
      c.merge (mergeAll (keys.map part)) := by
  induction keys with
  | nil => cases there
  | cons k rest ih =>
    obtain ⟨absent, nodup⟩ := List.nodup_cons.mp nodup
    rw [List.map_cons, List.map_cons]
    show merge _ (mergeAll _) = c.merge (merge (part k) (mergeAll _))
    by_cases same : k = key
    · subst same
      have others : rest.map (fun j => if j = k then c.merge (part j) else part j) =
          rest.map part := by
        apply List.map_congr_left
        intro j member
        apply if_neg
        rintro rfl
        exact absent member
      rw [if_pos rfl, others, merge_assoc]
    · have later := List.mem_of_ne_of_mem (Ne.symm same) there
      rw [if_neg same, ih nodup later, merge_left_comm]

theorem mergeAll_parts {keys : List κ} (nodup : keys.Nodup) {l : List (κ × IngestCounts)}
    (covered : ∀ e ∈ l, e.1 ∈ keys) :
    mergeAll (keys.map fun k => mergeAll ((l.filter (·.1 = k)).map Prod.snd)) =
      mergeAll (l.map Prod.snd) := by
  induction l with
  | nil =>
    induction keys with
    | nil => rfl
    | cons k rest ih =>
      show merge {} (mergeAll _) = _
      rw [empty_merge]
      exact ih (List.nodup_cons.mp nodup).2 (by simp)
  | cons e rest ih =>
    have smaller := ih fun e' there => covered e' (List.mem_cons_of_mem e there)
    have bumped := mergeAll_bump nodup (covered e List.mem_cons_self) e.2 fun k =>
      mergeAll ((rest.filter (·.1 = k)).map Prod.snd)
    rw [smaller] at bumped
    rw [List.map_cons]
    refine Eq.trans ?_ bumped
    congr 1
    apply List.map_congr_left
    intro k _
    by_cases same : k = e.1
    · subst same
      simp [mergeAll]
    · have other : e.1 ≠ k := Ne.symm same
      simp [same, other]

end IngestCounts

/-- Two alerts agree in all but their ids, and in these too if one of them was stored before. -/
structure AlertStore.Alike (base : AlertStore) (a b : Alert) : Prop where
  same : b = { a with id := b.id }
  known : a.id = b.id ∨ base.records.find? a.id = none ∧ base.records.find? b.id = none

namespace AlertStore.Alike

variable {base : AlertStore} {a b d : Alert}

theorem refl (base : AlertStore) (a : Alert) : base.Alike a a := ⟨rfl, .inl rfl⟩

theorem symm (h : base.Alike a b) : base.Alike b a := by
  constructor
  · rw [h.same]
  · rcases h.known with same | ⟨new, new'⟩
    · exact .inl same.symm
    · exact .inr ⟨new', new⟩

theorem trans (h : base.Alike a b) (g : base.Alike b d) : base.Alike a d := by
  constructor
  · rw [g.same, h.same]
  · rcases h.known with same | ⟨new, new'⟩
    · rw [same]
      exact g.known
    · rcases g.known with same' | ⟨-, new''⟩
      · exact .inr ⟨new, same' ▸ new'⟩
      · exact .inr ⟨new, new''⟩

theorem change (h : base.Alike a b) {f : Alert → Alert} (keeps : ∀ a, (f a).id = a.id)
    (blind : ∀ a id, f { a with id := id } = { f a with id := id }) :
    base.Alike (f a) (f b) := by
  constructor
  · rw [keeps, ← blind, ← h.same]
  · rw [keeps, keeps]
    exact h.known

theorem statuses {l l' : List Alert} (h : List.Forall₂ base.Alike l l') :
    l.map (·.status) = l'.map (·.status) := by
  induction h with
  | nil => rfl
  | cons alike _ ih =>
    rw [List.map_cons, List.map_cons, ih, alike.same]

end AlertStore.Alike

/-- The alerts of a fingerprint in two stores are alike, one by one, up to the choice of new ids. -/
def AlertStore.SameFor (base : AlertStore) (fp : String) (s t : AlertStore) : Prop :=
  List.Forall₂ base.Alike (s.alertsFor fp) (t.alertsFor fp)

namespace AlertStore.SameFor

variable {base s t u : AlertStore} {fp : String}

theorem refl (base : AlertStore) (fp : String) (s : AlertStore) : base.SameFor fp s s := by
  apply List.forall₂_same.mpr
  intro a _
  exact .refl base a

theorem symm (h : base.SameFor fp s t) : base.SameFor fp t s := by
  apply List.Forall₂.flip
  exact h.imp fun _ _ alike => alike.symm

theorem trans (h : base.SameFor fp s t) (g : base.SameFor fp t u) : base.SameFor fp s u := by
  unfold SameFor at h g ⊢
  generalize s.alertsFor fp = l at h
  generalize t.alertsFor fp = l' at h g
  generalize u.alertsFor fp = l'' at g
  induction h generalizing l'' with
  | nil =>
    cases g
    exact .nil
  | cons first _ ih =>
    cases g with
    | cons second rest => exact .cons (first.trans second) (ih _ rest)

theorem recent_iff : base.SameFor fp s t ↔ List.Forall₂ base.Alike (s.recent fp) (t.recent fp) :=
  List.forall₂_reverse_iff.symm

end AlertStore.SameFor

namespace Correlation

variable {base s t : State} {policy : ReopenPolicy} {connector fp : String} {now : Instant}
  {f : Finding}

/-- Both states come after the base, and have alerts of the fingerprint that are alike. -/
structure Tracks (base : State) (fp : String) (s t : State) : Prop where
  origin : base.Orderly
  left : s.Orderly
  right : t.Orderly
  drawnLeft : base.ids.drawn ≤ s.ids.drawn
  drawnRight : base.ids.drawn ≤ t.ids.drawn
  same : base.store.SameFor fp s.store t.store

theorem Tracks.refl (h : base.Orderly) (fp : String) : Tracks base fp base base :=
  ⟨h, h, h, Nat.le_refl _, Nat.le_refl _, .refl _ fp _⟩

/-- What becomes of a finding hangs on the statuses of the alerts only. -/
theorem verdict_congr {l l' : List Alert} (same : l.map (·.status) = l'.map (·.status))
    (policy : ReopenPolicy) (f : Finding) : verdict policy l f = verdict policy l' f := by
  have anyOpen (l : List Alert) :
      l.any (·.status.isOpen) = (l.map (·.status)).any AlertStatus.isOpen := by
    rw [List.any_map]
    rfl
  have none (l : List Alert) : l.isEmpty = (l.map (·.status)).isEmpty := by simp
  unfold verdict
  rw [anyOpen, anyOpen l', none, none l', same]

theorem Tracks.verdict_eq (h : Tracks base fp s t) (policy : ReopenPolicy) (f : Finding) :
    verdict policy (s.store.alertsFor fp) f = verdict policy (t.store.alertsFor fp) f :=
  verdict_congr (Alike.statuses h.same) policy f

theorem State.Orderly.exists_received (h : s.Orderly) (policy : ReopenPolicy) (connector : String)
    (now : Instant) (f : Finding) :
    Received policy connector f now s (verdict policy (s.store.alertsFor f.fingerprint) f)
      (receive policy connector now s f) := by
  obtain ⟨applied, t, attempted, r⟩ := h.attempt policy connector f now
  have reached : receive policy connector now s f = t := congrArg Prod.snd attempted
  rw [reached, ← h.eq_verdict r]
  exact r

theorem Received.drawn {applied : Applied} (r : Received policy connector f now s applied t) :
    t.ids = s.ids.draw.2 := by
  cases r <;> rfl

theorem Tracks.alike_ofFinding (h : Tracks base fp s t) (connector : String) (f : Finding)
    (now : Instant) :
    base.store.Alike
      (bumped (Alert.ofFinding s.ids.draw.1 f.fingerprint (some connector) f now))
      (bumped (Alert.ofFinding t.ids.draw.1 f.fingerprint (some connector) f now)) where
  same := rfl
  known := .inr ⟨h.origin.unused _ h.drawnLeft, h.origin.unused _ h.drawnRight⟩

theorem alike_refreshed {base : AlertStore} {a b : Alert} (alike : base.Alike a b)
    (connector : String) (f : Finding) (now : Instant) :
    base.Alike (bumped (refresh (reopened a) connector f now))
      (bumped (refresh (reopened b) connector f now)) := by
  apply alike.change (f := fun a => bumped (refresh (reopened a) connector f now))
  · exact fun a => reopened_id a
  · intro a id
    cases status : a.status <;> simp [reopened, status, refresh, bumped]

theorem alike_cleared {base : AlertStore} {a b : Alert} (alike : base.Alike a b) (f : Finding)
    (now : Instant) : base.Alike (bumped (cleared a f now)) (bumped (cleared b f now)) :=
  alike.change (f := fun a => bumped (cleared a f now)) (fun _ => rfl) fun _ _ => rfl

/-- A finding of the fingerprint does the same in both states. -/
theorem Tracks.receive_own (h : Tracks base f.fingerprint s t) (policy : ReopenPolicy)
    (connector : String) (now : Instant) :
    Tracks base f.fingerprint (receive policy connector now s f)
      (receive policy connector now t f) := by
  have r := h.left.exists_received policy connector now f
  have r' := h.right.exists_received policy connector now f
  rw [← h.verdict_eq] at r'
  refine ⟨h.origin, h.left.received r, h.right.received r', ?_, ?_, ?_⟩
  · rw [r.drawn]
    exact Nat.le_succ_of_le h.drawnLeft
  · rw [r'.drawn]
    exact Nat.le_succ_of_le h.drawnRight
  have alike := SameFor.recent_iff.mp h.same
  apply SameFor.recent_iff.mpr
  -- A revision replaces the newest alert, in both states.
  have revised {a a' new new' : Alert} {older older' : List Alert}
      (newest : s.store.recent f.fingerprint = a :: older)
      (newest' : t.store.recent f.fingerprint = a' :: older')
      (sameFingerprint : new.fingerprint = a.fingerprint)
      (sameFingerprint' : new'.fingerprint = a'.fingerprint)
      (change : base.store.Alike a a' → base.store.Alike new new') :
      List.Forall₂ base.store.Alike ((s.store.put a.id new).recent f.fingerprint)
        ((t.store.put a'.id new').recent f.fingerprint) := by
    obtain ⟨-, matching⟩ := h.left.coherent.stored_of_newest newest
    obtain ⟨-, matching'⟩ := h.right.coherent.stored_of_newest newest'
    rw [newest, newest'] at alike
    obtain ⟨first, rest⟩ := List.forall₂_cons.mp alike
    rw [← matching] at newest
    rw [← matching'] at newest'
    rw [h.left.coherent.recent_put_newest newest sameFingerprint, if_pos matching.symm,
      h.right.coherent.recent_put_newest newest' sameFingerprint', if_pos matching'.symm]
    exact .cons (change first) rest
  generalize verdict policy (s.store.alertsFor f.fingerprint) f = applied at r r'
  generalize receive policy connector now s f = s' at r
  generalize receive policy connector now t f = t' at r'
  cases r with
  | ignored _ _ =>
    cases r'
    exact alike
  | @created new _ _ absent fresh =>
    cases r' with
    | @created new' _ _ absent' fresh' =>
      have own : f.fingerprint = new.fingerprint := by rw [fresh]; rfl
      have own' : f.fingerprint = new'.fingerprint := by rw [fresh']; rfl
      rw [recent_add absent, recent_add absent', if_pos own, if_pos own', fresh, fresh']
      exact .cons (h.alike_ofFinding connector f now) alike
  | @updated a new _ newest _ _ refreshed =>
    cases r' with
    | @updated a' new' _ newest' _ _ refreshed' =>
      have own : new.fingerprint = a.fingerprint := refreshed ▸ reopened_fingerprint a
      have own' : new'.fingerprint = a'.fingerprint := refreshed' ▸ reopened_fingerprint a'
      apply revised newest newest' own own'
      rw [refreshed, refreshed']
      exact fun first => alike_refreshed first connector f now
  | @resolved a new _ newest _ _ clears =>
    cases r' with
    | @resolved a' new' _ newest' _ _ clears' =>
      have own : new.fingerprint = a.fingerprint := by rw [clears]; rfl
      have own' : new'.fingerprint = a'.fingerprint := by rw [clears']; rfl
      apply revised newest newest' own own'
      rw [clears, clears']
      exact fun first => alike_cleared first f now

theorem Tracks.receive_other (h : Tracks base fp s t) (other : fp ≠ f.fingerprint)
    (policy : ReopenPolicy) (connector : String) (now : Instant) :
    Tracks base fp (receive policy connector now s f) t := by
  have r := h.left.exists_received policy connector now f
  refine { h with left := h.left.received r, drawnLeft := ?_, same := ?_ }
  · rw [r.drawn]
    exact Nat.le_succ_of_le h.drawnLeft
  · apply SameFor.recent_iff.mpr
    rw [h.left.recent_of_ne r other]
    exact SameFor.recent_iff.mp h.same

/-- The findings of a batch that have the fingerprint. -/
def part (fp : String) (batch : List Finding) : List Finding :=
  batch.filter (·.fingerprint = fp)

/-- What each finding of a batch is counted for, by its fingerprint. -/
def answers (policy : ReopenPolicy) (connector : String) (now : Instant) (batch : List Finding)
    (s : State) : List (String × IngestCounts) :=
  (batch.map (·.fingerprint)).zip ((verdicts policy connector now batch s).map Applied.counts)

theorem Tracks.batch (h : Tracks base fp s t) (policy : ReopenPolicy) (connector : String)
    (now : Instant) (batch : List Finding) :
    Tracks base fp (batch.foldl (receive policy connector now) s)
        ((part fp batch).foldl (receive policy connector now) t) ∧
      ((answers policy connector now batch s).filter (·.1 = fp)).map Prod.snd =
        (verdicts policy connector now (part fp batch) t).map Applied.counts := by
  induction batch generalizing s t with
  | nil => exact ⟨h, rfl⟩
  | cons f rest ih =>
    by_cases own : f.fingerprint = fp
    · subst own
      have split : part f.fingerprint (f :: rest) = f :: part f.fingerprint rest := by simp [part]
      obtain ⟨later, counts⟩ := ih (h.receive_own policy connector now)
      rw [split]
      refine ⟨later, ?_⟩
      simp only [answers, verdicts, List.map_cons, List.zip_cons_cons, decide_true,
        List.filter_cons_of_pos, h.verdict_eq]
      exact congrArg _ counts
    · have split : part fp (f :: rest) = part fp rest := by simp [part, own]
      obtain ⟨later, counts⟩ := ih (h.receive_other (Ne.symm own) policy connector now)
      rw [split]
      refine ⟨later, ?_⟩
      simp only [answers, verdicts, List.map_cons, List.zip_cons_cons]
      rw [List.filter_cons_of_neg (by simpa using own)]
      exact counts

theorem length_verdicts (policy : ReopenPolicy) (connector : String) (now : Instant)
    (batch : List Finding) (s : State) :
    (verdicts policy connector now batch s).length = batch.length := by
  induction batch generalizing s with
  | nil => rfl
  | cons f rest ih =>
    rw [verdicts, List.length_cons, ih, List.length_cons]

theorem verdicts_append (policy : ReopenPolicy) (connector : String) (now : Instant)
    (first second : List Finding) (s : State) :
    verdicts policy connector now (first ++ second) s =
      verdicts policy connector now first s ++
        verdicts policy connector now second (first.foldl (receive policy connector now) s) := by
  induction first generalizing s with
  | nil => rfl
  | cons f rest ih =>
    rw [List.cons_append, verdicts, ih, verdicts, List.cons_append, List.foldl_cons]

/-- What the findings of a fingerprint are counted for. -/
def partCounts (c : AlertConfig) (connector : String) (now : Instant) (s : State)
    (batch : List Finding) (fp : String) : IngestCounts :=
  .mergeAll ((verdicts c.reopenPolicy connector now (part fp batch) s).map Applied.counts)

namespace State.Orderly

variable (h : s.Orderly) (c : AlertConfig)

include h

theorem ingest_sameFor (connector : String) (now : Instant) (batch : List Finding) (fp : String) :
    s.store.SameFor fp (Correlation.ingest c connector now batch s).2.store
      (Correlation.ingest c connector now (part fp batch) s).2.store := by
  rw [(h.ingest c connector now batch).1, (h.ingest c connector now (part fp batch)).1]
  exact ((Tracks.refl h fp).batch c.reopenPolicy connector now batch).1.same

theorem ingest_counts (connector : String) (now : Instant) {batch : List Finding}
    {fps : List String} (nodup : fps.Nodup) (covered : ∀ f ∈ batch, f.fingerprint ∈ fps) :
    (Correlation.ingest c connector now batch s).1 =
      .ok (.mergeAll (fps.map (partCounts c connector now s batch))) := by
  rw [(h.ingest c connector now batch).1]
  have all : (answers c.reopenPolicy connector now batch s).map Prod.snd =
      (verdicts c.reopenPolicy connector now batch s).map Applied.counts := by
    apply List.map_snd_zip
    simp [length_verdicts]
  have known : ∀ e ∈ answers c.reopenPolicy connector now batch s, e.1 ∈ fps := by
    intro e there
    obtain ⟨f, member, same⟩ := List.mem_map.mp (List.of_mem_zip there).1
    rw [← same]
    exact covered f member
  have parts := IngestCounts.mergeAll_parts nodup known
  rw [all] at parts
  show Except.ok _ = Except.ok _
  rw [← parts]
  congr 2
  apply List.map_congr_left
  intro fp _
  rw [((Tracks.refl h fp).batch c.reopenPolicy connector now batch).2]
  rfl

theorem ingest_append (connector : String) (now : Instant) (first second : List Finding) :
    ∃ k k', (Correlation.ingest c connector now first s).1 = .ok k ∧
      Correlation.ingest c connector now second (Correlation.ingest c connector now first s).2 =
        (.ok k', (Correlation.ingest c connector now (first ++ second) s).2) ∧
      (Correlation.ingest c connector now (first ++ second) s).1 = .ok (k.merge k') := by
  obtain ⟨before, orderly⟩ := h.ingest c connector now first
  obtain ⟨after, -⟩ := orderly.ingest c connector now second
  obtain ⟨whole, -⟩ := h.ingest c connector now (first ++ second)
  rw [before, whole, verdicts_append, List.foldl_append, List.map_append]
  refine ⟨_, _, rfl, after, ?_⟩
  show Except.ok _ = Except.ok _
  rw [IngestCounts.mergeAll_append]

end State.Orderly

/-- After any requests that were served one after the other, a batch at one moment falls apart by
fingerprint.  The alerts of a fingerprint are, up to the choice of new ids, those that its own findings
lead to without the others, and the answer is the sum of the answers to these parts.  Therefore findings
of different fingerprints may change places, and a batch may be cut in two. -/
theorem fingerprints_isolated (c : AlertConfig) (ids : IdSupply) (requests : List AlertRequest)
    (connector : String) (now : Instant) (batch : List Finding) :
    let s := State.serveAll c ⟨.empty, ids⟩ requests
    let served (findings : List Finding) := ingest c connector now findings s
    (∀ fp, s.store.SameFor fp (served batch).2.store (served (part fp batch)).2.store) ∧
    (∃ counts : String → IngestCounts, (∀ fp, (served (part fp batch)).1 = .ok (counts fp)) ∧
      ∀ fps : List String, fps.Nodup → (∀ f ∈ batch, f.fingerprint ∈ fps) →
        (served batch).1 = .ok (.mergeAll (fps.map counts))) ∧
    (∀ reordered, (∀ fp, part fp reordered = part fp batch) →
      (served reordered).1 = (served batch).1 ∧
        ∀ fp, s.store.SameFor fp (served reordered).2.store (served batch).2.store) ∧
    ∀ first second, batch = first ++ second →
      ∃ k k', (served first).1 = .ok k ∧
        ingest c connector now second (served first).2 = (.ok k', (served batch).2) ∧
        (served batch).1 = .ok (k.merge k') := by
  intro s served
  have orderly : s.Orderly := (State.Orderly.start ids).serveAll c requests
  refine ⟨orderly.ingest_sameFor c connector now batch, ?_, ?_, ?_⟩
  · refine ⟨partCounts c connector now s batch, ?_, ?_⟩
    · intro fp
      exact congrArg Prod.fst (orderly.ingest c connector now (part fp batch)).1
    · intro fps nodup covered
      exact orderly.ingest_counts c connector now nodup covered
  · intro reordered sameParts
    constructor
    · let fps := (batch.map (·.fingerprint)).dedup
      have nodup : fps.Nodup := List.nodup_dedup _
      have covered : ∀ f ∈ batch, f.fingerprint ∈ fps := by
        intro f there
        apply List.mem_dedup.mpr
        exact List.mem_map_of_mem there
      have covered' : ∀ f ∈ reordered, f.fingerprint ∈ fps := by
        intro f there
        have own : f ∈ part f.fingerprint reordered := by simp [part, there]
        rw [sameParts] at own
        exact covered f (List.mem_of_mem_filter own)
      have sameCounts : partCounts c connector now s reordered =
          partCounts c connector now s batch := by
        funext fp
        rw [partCounts, sameParts, partCounts]
      calc
        (served reordered).1
          = .ok (.mergeAll (fps.map (partCounts c connector now s reordered))) :=
            orderly.ingest_counts c connector now nodup covered'
        _ = .ok (.mergeAll (fps.map (partCounts c connector now s batch))) := by rw [sameCounts]
        _ = (served batch).1 := (orderly.ingest_counts c connector now nodup covered).symm
    · intro fp
      have alone := orderly.ingest_sameFor c connector now reordered fp
      rw [sameParts] at alone
      exact alone.trans (orderly.ingest_sameFor c connector now batch fp).symm
  · rintro first second rfl
    exact orderly.ingest_append c connector now first second

/-- Two conditions are found by turns, one of them for the first time. -/
theorem fingerprints_isolated_byTurns :
    let f := AlertTraffic.highCpu
    let g := { f with alertType := "link_down" }
    let s := State.serveAll {} ⟨.empty, {}⟩ [.ingest "a" ⟨5⟩ [g]]
    let served (findings : List Finding) := ingest {} "a" ⟨10⟩ findings s
    (∀ fp, part fp [g, f, f] = part fp [f, g, f]) ∧
      (served [f, g, f]).1 = .ok { created := 1, updated := 2 } ∧
      (served [g, f, f]).1 = (served [f, g, f]).1 ∧
      s.store.SameFor f.fingerprint (served [g, f, f]).2.store (served [f, g, f]).2.store := by
  intro f g s served
  have apart : f.fingerprint ≠ g.fingerprint := by decide +kernel
  have sameParts (fp : String) : part fp [g, f, f] = part fp [f, g, f] := by
    by_cases own : f.fingerprint = fp
    · have other : g.fingerprint ≠ fp := own ▸ apart.symm
      simp [part, own, other]
    · by_cases second : g.fingerprint = fp <;> simp [part, own, second]
  have counts : (served [f, g, f]).1 = .ok { created := 1, updated := 2 } := by decide +kernel
  obtain ⟨-, -, reorder, -⟩ :=
    fingerprints_isolated {} {} [.ingest "a" ⟨5⟩ [g]] "a" ⟨10⟩ [f, g, f]
  obtain ⟨outcome, alike⟩ := reorder [g, f, f] sameParts
  subst served s
  exact ⟨sameParts, counts, outcome, alike f.fingerprint⟩

end Correlation

end DeviceWatch
