import DeviceWatch.Proofs.Alert.Writes

/-!
# Alert traffic

Any number of ingesters share one store with operators and suppression sweeps.  What holds a lock of
the store is one event: reading the latest alert of a finding, committing a planned alert, applying
an action, listing the expired suppressions, ending one of them.  Events come in any order; one
that does not fit the stage of its ingester changes nothing.  A plan may draw any identifier.

A batch that is ingested in one go is a run of events that nothing disturbs (`ingest_eq_run`), and
so is a sweep in one go (`expireSuppressions_eq_run`).
-/

namespace DeviceWatch

open Correlation

/-- How far an ingester has come with the finding at hand. -/
inductive Stage where
  | ready
  | read (latest : Option Alert)
  | planned (next : Alert) (applied : Applied)
  | failed (e : ServiceError)

/-- Somebody who ingests a batch; the finding at hand is the first of those still to do. -/
structure Ingester where
  connector : String
  batch : List Finding
  todo : List Finding
  /-- How often the finding at hand may be tried again. -/
  left : Nat
  stage : Stage
  counts : IngestCounts

namespace Ingester

def start (c : AlertConfig) (connector : String) (batch : List Finding) : Ingester where
  connector := connector
  batch := batch
  todo := batch
  left := c.maxCommitRetries
  stage := .ready
  counts := {}

def finish (c : AlertConfig) (w : Ingester) (applied : Applied) : Ingester :=
  { w with
    todo := w.todo.tail
    left := c.maxCommitRetries
    stage := .ready
    counts := w.counts.merge applied.counts }

def read (w : Ingester) (s : AlertStore) : Ingester :=
  match w.stage, w.todo with
  | .ready, f :: _ => { w with stage := .read (s.latestFor f.fingerprint) }
  | _, _ => w

def plan (c : AlertConfig) (w : Ingester) (now : Instant) (id : Uuid) : Ingester :=
  match w.stage, w.todo with
  | .read latest, f :: _ =>
    match Correlation.plan c.reopenPolicy w.connector f.fingerprint latest f now id with
    | some (next, applied) => { w with stage := .planned next applied }
    | none => w.finish c .ignored
  | _, _ => w

/-- After a conflict the finding is read again, or given up. -/
def retry (c : AlertConfig) (w : Ingester) : Ingester :=
  match w.left with
  | left + 1 => { w with left := left, stage := .ready }
  | 0 => w.finish c .ignored

/-- What a commit of the planned alert means for the finding at hand. -/
def conclude (c : AlertConfig) (w : Ingester) : Outcome Applied → Ingester
  | .ok applied => w.finish c applied
  | .error (.conflict _) => w.retry c
  | .error e => { w with left := 0, stage := .failed e }

def result? (w : Ingester) : Option (Outcome IngestCounts) :=
  match w.stage, w.todo with
  | .failed e, _ => some (.error e)
  | .ready, [] => some (.ok w.counts)
  | _, _ => none

end Ingester

/-- A sweep over the suppressions that it found expired, with those that it has yet to end. -/
structure Sweep where
  now : Instant
  ids : List Uuid

/-- The store, whoever is at work on it, and the commits of findings that it has accepted. -/
structure AlertTraffic where
  store : AlertStore := .empty
  ingesters : List Ingester := []
  sweeps : List Sweep := []
  /-- By the fingerprint of the finding. -/
  accepted : List (String × Applied) := []

inductive AlertEvent where
  | arrive (connector : String) (batch : List Finding)
  | read (ingester : Nat)
  | plan (ingester : Nat) (now : Instant) (id : Uuid)
  | commit (ingester : Nat)
  | operate (id : Uuid) (action : AlertAction) (now : Instant)
  | sweep (now : Instant)
  | expire (sweep : Nat)

namespace AlertTraffic

def commit (c : AlertConfig) (s : AlertTraffic) (i : Nat) (w : Ingester) : AlertTraffic :=
  match w.stage, w.todo with
  | .planned next applied, f :: _ =>
    match s.store.commit next with
    | .ok (_, store) =>
      { s with
        store := store
        ingesters := s.ingesters.set i (w.conclude c (.ok applied))
        accepted := s.accepted ++ [(f.fingerprint, applied)] }
    | .error e => { s with ingesters := s.ingesters.set i (w.conclude c (.error e)) }
  | _, _ => s

def step (c : AlertConfig) (s : AlertTraffic) : AlertEvent → AlertTraffic
  | .arrive connector batch =>
    { s with ingesters := s.ingesters ++ [.start c connector batch] }
  | .read i =>
    match s.ingesters[i]? with
    | some w => { s with ingesters := s.ingesters.set i (w.read s.store) }
    | none => s
  | .plan i now id =>
    match s.ingesters[i]? with
    | some w => { s with ingesters := s.ingesters.set i (w.plan c now id) }
    | none => s
  | .commit i =>
    match s.ingesters[i]? with
    | some w => s.commit c i w
    | none => s
  | .operate id action now =>
    match s.store.apply id action now with
    | .ok (_, store) => { s with store := store }
    | .error _ => s
  | .sweep now => { s with sweeps := s.sweeps ++ [⟨now, s.store.expiredSuppressions now⟩] }
  | .expire i =>
    match s.sweeps[i]? with
    | some ⟨now, id :: rest⟩ =>
      { s with
        store := (AlertStore.expireOne now (0, s.store) id).2
        sweeps := s.sweeps.set i ⟨now, rest⟩ }
    | _ => s

def run (c : AlertConfig) (s : AlertTraffic) (events : List AlertEvent) : AlertTraffic :=
  events.foldl (step c) s

/-- What a sequence of events leads to from an empty store. -/
def after (c : AlertConfig) (events : List AlertEvent) : AlertTraffic := run c {} events

theorem run_cons (c : AlertConfig) (s : AlertTraffic) (e : AlertEvent) (events : List AlertEvent) :
    run c s (e :: events) = run c (step c s e) events := rfl

theorem run_append (c : AlertConfig) (s : AlertTraffic) (first second : List AlertEvent) :
    run c s (first ++ second) = run c (run c s first) second := List.foldl_append

/-- What every event keeps is kept by every run. -/
theorem run_induction {c : AlertConfig} {P : AlertTraffic → Prop} {s : AlertTraffic} (start : P s)
    (keep : ∀ s e, P s → P (step c s e)) (events : List AlertEvent) : P (run c s events) := by
  induction events generalizing s with
  | nil => exact start
  | cons e rest ih => exact ih (keep s e start)

def highCpu : Finding where
  sourceSystem := "snmp"
  deviceIp := some "10.1.1.1"
  deviceName := none
  alertType := "high_cpu"
  severity := .major
  category := none
  message := "load above 95 percent"
  attributes := .empty
  observedAt := default
  raw := .null

section Undisturbed

variable {c : AlertConfig} {s : AlertTraffic} {others : List Ingester} {w : Ingester} {f : Finding}
  {rest : List Finding}

theorem conclude_stage (w : Ingester) (stage : Stage) (outcome : Outcome Applied) :
    Ingester.conclude c { w with stage := stage } outcome = w.conclude c outcome := by
  cases outcome with
  | ok applied => rfl
  | error e => cases e <;> cases w <;> rename_i left _ _ <;> cases left <;> rfl

theorem exists_run_attempt (last : s.ingesters = others ++ [w]) (ready : w.stage = .ready)
    (todo : w.todo = f :: rest) (now : Instant) (ids : IdSupply) :
    ∃ events,
      (run c s events).store = (attempt c.reopenPolicy w.connector f now ⟨s.store, ids⟩).2.store ∧
      (run c s events).ingesters =
        others ++ [w.conclude c (attempt c.reopenPolicy w.connector f now ⟨s.store, ids⟩).1] := by
  let i := others.length
  let latest := s.store.latestFor f.fingerprint
  let reader : Ingester := { w with stage := .read latest }
  have readStep : step c s (.read i) = { s with ingesters := others ++ [reader] } := by
    simp [step, last, Ingester.read, ready, todo, reader, latest, i]
  have planStep (t : AlertTraffic) (lastReader : t.ingesters = others ++ [reader]) :
      step c t (.plan i now ids.draw.1) =
        { t with ingesters := others ++ [reader.plan c now ids.draw.1] } := by
    simp [step, lastReader, i]
  cases planned : Correlation.plan c.reopenPolicy w.connector f.fingerprint latest f now
      ids.draw.1 with
  | none =>
    have attempted : attempt c.reopenPolicy w.connector f now ⟨s.store, ids⟩ =
        (.ok .ignored, ⟨s.store, ids.draw.2⟩) := by
      simp only [attempt, latest] at planned ⊢
      rw [planned]
    have passed : reader.plan c now ids.draw.1 = w.finish c .ignored := by
      simp [Ingester.plan, reader, todo, planned, Ingester.finish]
    refine ⟨[.read i, .plan i now ids.draw.1], ?_⟩
    rw [run_cons, run_cons, readStep, planStep _ rfl, passed, attempted]
    exact ⟨rfl, rfl⟩
  | some result =>
    obtain ⟨next, applied⟩ := result
    let planner : Ingester := { w with stage := .planned next applied }
    have drafted : reader.plan c now ids.draw.1 = planner := by
      simp [Ingester.plan, reader, todo, planned, planner]
    have commitStep (t : AlertTraffic) (lastPlanner : t.ingesters = others ++ [planner]) :
        step c t (.commit i) = t.commit c i planner := by
      simp [step, lastPlanner, i]
    have staged : planner.stage = .planned next applied := rfl
    have pending : planner.todo = f :: rest := todo
    have concluded (outcome : Outcome Applied) :
        planner.conclude c outcome = w.conclude c outcome :=
      conclude_stage w _ outcome
    refine ⟨[.read i, .plan i now ids.draw.1, .commit i], ?_⟩
    rw [run_cons, run_cons, run_cons, readStep, planStep _ rfl, drafted, commitStep _ rfl]
    simp only [latest] at planned
    cases committed : s.store.commit next <;>
      simp [attempt, planned, run, AlertTraffic.commit, staged, pending, committed, concluded, i]

def giveUp (c : AlertConfig) (w : Ingester) : Outcome Applied → Ingester
  | .ok applied => w.finish c applied
  | .error (.conflict _) => w.finish c .ignored
  | .error e => { w with left := 0, stage := .failed e }

theorem giveUp_reset (w : Ingester) (left : Nat) (stage : Stage) (outcome : Outcome Applied) :
    giveUp c { w with left := left, stage := stage } outcome = giveUp c w outcome := by
  cases outcome with
  | ok applied => rfl
  | error e => cases e <;> rfl

theorem exists_run_ingestOne (now : Instant) (left : Nat) :
    ∀ {s : AlertTraffic} {w : Ingester} (ids : IdSupply), s.ingesters = others ++ [w] →
      w.stage = .ready → w.todo = f :: rest → w.left = left →
      ∃ events,
        (run c s events).store = (ingestOne c w.connector f now left ⟨s.store, ids⟩).2.store ∧
        (run c s events).ingesters =
          others ++ [giveUp c w (ingestOne c w.connector f now left ⟨s.store, ids⟩).1] := by
  induction left with
  | zero =>
    intro s w ids last ready todo spent
    obtain ⟨events, store, ingesters⟩ := exists_run_attempt (c := c) last ready todo now ids
    refine ⟨events, ?_⟩
    unfold ingestOne
    rw [store, ingesters]
    rcases attempt c.reopenPolicy w.connector f now ⟨s.store, ids⟩ with ⟨outcome, st⟩
    cases outcome with
    | ok applied => exact ⟨rfl, rfl⟩
    | error e =>
      cases e with
      | conflict reason => simp [giveUp, contendedError, Ingester.conclude, Ingester.retry, spent]
      | _ => exact ⟨rfl, rfl⟩
  | succ left ih =>
    intro s w ids last ready todo budget
    obtain ⟨events, store, ingesters⟩ := exists_run_attempt (c := c) last ready todo now ids
    unfold ingestOne
    rcases tried : attempt c.reopenPolicy w.connector f now ⟨s.store, ids⟩ with ⟨outcome, st⟩
    rw [tried] at store ingesters
    cases outcome with
    | ok applied => exact ⟨events, store, ingesters⟩
    | error e =>
      cases e with
      | conflict reason =>
        -- The ingester is ready again, with one attempt fewer.
        have again : (run c s events).ingesters =
            others ++ [{ w with left := left, stage := .ready }] := by
          rw [ingesters]
          simp [Ingester.conclude, Ingester.retry, budget]
        obtain ⟨more, store', ingesters'⟩ := ih st.ids again rfl todo rfl
        refine ⟨events ++ more, ?_⟩
        rw [run_append, store', ingesters', store]
        exact ⟨rfl, congrArg (fun w' => others ++ [w']) (giveUp_reset w left .ready _)⟩
      | _ => exact ⟨events, store, ingesters⟩

theorem exists_run_ingest (now : Instant) (batch : List Finding) :
    ∀ {s : AlertTraffic} {w : Ingester} (ids : IdSupply), s.ingesters = others ++ [w] →
      w.stage = .ready → w.left = c.maxCommitRetries → w.todo = batch →
      ∃ events w',
        (run c s events).store = (ingest c w.connector now batch ⟨s.store, ids⟩).2.store ∧
        (run c s events).ingesters = others ++ [w'] ∧
        w'.result? =
          some ((ingest c w.connector now batch ⟨s.store, ids⟩).1.map w.counts.merge) := by
  induction batch with
  | nil =>
    intro s w ids last ready _ todo
    refine ⟨[], w, rfl, last, ?_⟩
    simp [ingest, Ingester.result?, ready, todo, Except.map]
  | cons f rest ih =>
    intro s w ids last ready budget todo
    obtain ⟨events, store, ingesters⟩ :=
      exists_run_ingestOne (c := c) now c.maxCommitRetries ids last ready todo budget
    -- Whatever the finding did, the rest of the batch goes on from there.
    have onward (applied : Applied) (st : State) (stored : (run c s events).store = st.store)
        (finished : (run c s events).ingesters = others ++ [w.finish c applied]) :
        ∃ events' w',
          (run c s events').store = (ingest c w.connector now rest st).2.store ∧
          (run c s events').ingesters = others ++ [w'] ∧
          w'.result? = some (((ingest c w.connector now rest st).1.map applied.counts.merge).map
            w.counts.merge) := by
      obtain ⟨more, w', store', ingesters', result⟩ :=
        ih st.ids finished rfl rfl (congrArg List.tail todo)
      rw [stored] at store' result
      refine ⟨events ++ more, w', ?_, ?_, ?_⟩
      · rw [run_append, store']
        rfl
      · rw [run_append, ingesters']
      · rw [result]
        show
          some ((ingest c w.connector now rest st).1.map (w.counts.merge applied.counts).merge) = _
        cases (ingest c w.connector now rest st).1 with
        | ok counts => exact congrArg (some ∘ Except.ok) (IngestCounts.merge_assoc _ _ counts)
        | error e => rfl
    unfold ingest
    rcases ingested : ingestOne c w.connector f now c.maxCommitRetries ⟨s.store, ids⟩ with
      ⟨outcome, st⟩
    rw [ingested] at store ingesters
    cases outcome with
    | ok applied => exact onward applied st store ingesters
    | error e =>
      cases e with
      | conflict reason => exact onward .ignored st store ingesters
      | _ => exact ⟨events, _, store, ingesters, rfl⟩

/-- Ingesting a batch in one go is what a new ingester does when nobody disturbs it. -/
theorem ingest_eq_run (c : AlertConfig) (s : AlertTraffic) (connector : String) (now : Instant)
    (batch : List Finding) (ids : IdSupply) :
    ∃ events w,
      (run c s (.arrive connector batch :: events)).store =
        (ingest c connector now batch ⟨s.store, ids⟩).2.store ∧
      (run c s (.arrive connector batch :: events)).ingesters = s.ingesters ++ [w] ∧
      w.result? = some (ingest c connector now batch ⟨s.store, ids⟩).1 := by
  obtain ⟨events, w, store, ingesters, result⟩ := exists_run_ingest (c := c) now batch
    (s := step c s (.arrive connector batch)) ids rfl rfl rfl rfl
  refine ⟨events, w, store, ingesters, result.trans ?_⟩
  show some ((ingest c connector now batch ⟨s.store, ids⟩).1.map (IngestCounts.merge {})) = _
  cases (ingest c connector now batch ⟨s.store, ids⟩).1 with
  | ok counts => exact congrArg (some ∘ Except.ok) (IngestCounts.empty_merge counts)
  | error e => rfl

end Undisturbed

theorem expireOne_snd (now : Instant) (n : Nat) (s : AlertStore) (id : Uuid) :
    (AlertStore.expireOne now (n, s) id).2 = (AlertStore.expireOne now (0, s) id).2 := by
  unfold AlertStore.expireOne
  cases s.modify id (AlertStore.reactivate now) <;> rfl

theorem exists_run_expire (c : AlertConfig) (now : Instant) (others : List Sweep)
    (ids : List Uuid) :
    ∀ {s : AlertTraffic} (n : Nat), s.sweeps = others ++ [⟨now, ids⟩] →
      ∃ events, (run c s events).store = (ids.foldl (AlertStore.expireOne now) (n, s.store)).2 := by
  induction ids with
  | nil => exact fun {s} n _ => ⟨[], rfl⟩
  | cons id rest ih =>
    intro s n last
    let t : AlertTraffic := { s with
      store := (AlertStore.expireOne now (0, s.store) id).2
      sweeps := others ++ [⟨now, rest⟩] }
    have expired : step c s (.expire others.length) = t := by
      simp [step, last, t]
    obtain ⟨events, store⟩ := ih (AlertStore.expireOne now (n, s.store) id).1 (s := t) rfl
    refine ⟨.expire others.length :: events, ?_⟩
    rw [run_cons, expired, store, List.foldl_cons]
    congr 2
    exact Prod.ext rfl (expireOne_snd now n s.store id).symm

theorem expireSuppressions_eq_run (c : AlertConfig) (s : AlertTraffic) (now : Instant) :
    ∃ events, (run c s (.sweep now :: events)).store = (s.store.expireSuppressions now).2 :=
  exists_run_expire c now s.sweeps _ (s := step c s (.sweep now)) 0 rfl

end AlertTraffic

end DeviceWatch
