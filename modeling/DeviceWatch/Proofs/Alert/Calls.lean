import DeviceWatch.Proofs.Alert.Interference

/-!
# Calls of an ingester

An ingester works on one finding at a time, and each finding is a call that reads, plans and commits
until a commit is accepted or the retries are used up.  Beside the traffic it is noted, for one
ingester, which writes there were since the call began, and which of them fell into the window
between a reading and the end of the attempt that began with it.  `Sound.turned` lists what an event
can mean to the call, and invariants are proved from that list.
-/

namespace DeviceWatch

open Correlation AlertStore

/-- The writes of everybody while an ingester works on a finding. -/
structure IngestCall where
  /-- The writes since the first reading. -/
  during : List AlertWrite := []
  /-- For each attempt that is over, the writes between its reading and its end. -/
  windows : List (List AlertWrite) := []
  /-- The writes since the last reading. -/
  since : List AlertWrite := []

namespace IngestCall

def note (call : IngestCall) (write : Option AlertWrite) : IngestCall :=
  { call with during := call.during ++ write.toList, since := call.since ++ write.toList }

def opened (call : Option IngestCall) : IngestCall := { call.getD {} with since := [] }

def closed (call : IngestCall) : IngestCall :=
  { call with windows := call.windows ++ [call.since], since := [] }

@[simp] theorem note_during (call : IngestCall) (write : Option AlertWrite) :
    (call.note write).during = call.during ++ write.toList := rfl

@[simp] theorem note_windows (call : IngestCall) (write : Option AlertWrite) :
    (call.note write).windows = call.windows := rfl

@[simp] theorem note_since (call : IngestCall) (write : Option AlertWrite) :
    (call.note write).since = call.since ++ write.toList := rfl

@[simp] theorem closed_during (call : IngestCall) : call.closed.during = call.during := rfl

@[simp] theorem closed_windows (call : IngestCall) :
    call.closed.windows = call.windows ++ [call.since] := rfl

@[simp] theorem closed_since (call : IngestCall) : call.closed.since = [] := rfl

end IngestCall

structure EndedCall where
  finding : Finding
  result : Outcome Applied
  call : IngestCall

def EndedCall.counts (ended : EndedCall) : IngestCounts :=
  match ended.result with
  | .ok applied => applied.counts
  | .error _ => Applied.ignored.counts

/-- What an event means to the finding at hand of an ingester. -/
inductive Turn where
  | waits
  | reads
  | refused
  | ends (f : Finding) (result : Outcome Applied)

namespace Turn

/-- The call that is under way after an event that makes the given write, if any. -/
def proceed (call : Option IngestCall) (write : Option AlertWrite) : Turn → Option IngestCall
  | waits => call.map (·.note write)
  | reads => some ((IngestCall.opened call).note write)
  | refused => call.map (·.closed.note write)
  | ends _ _ => none

def ended (call : Option IngestCall) (write : Option AlertWrite) : Turn → List EndedCall
  | waits | reads | refused => []
  | ends f result => [⟨f, result, (call.getD {}).closed.note write⟩]

end Turn

def AlertEvent.ingester? : AlertEvent → Option Nat
  | .read i | .plan i _ _ | .commit i => some i
  | _ => none

def Ingester.turn (c : AlertConfig) (w : Ingester) (s : AlertStore) : AlertEvent → Turn
  | .read _ =>
    match w.stage, w.todo with
    | .ready, _ :: _ => .reads
    | _, _ => .waits
  | .plan _ now id =>
    match w.stage, w.todo with
    | .read latest, f :: _ =>
      match Correlation.plan c.reopenPolicy w.connector f.fingerprint latest f now id with
      | some _ => .waits
      | none => .ends f (.ok .ignored)
    | _, _ => .waits
  | .commit _ =>
    match w.stage, w.todo with
    | .planned next applied, f :: _ =>
      match s.commit next, w.left with
      | .ok _, _ => .ends f (.ok applied)
      | .error (.conflict _), _ + 1 => .refused
      | .error (.conflict reason), 0 =>
        .ends f (.error (contendedError f.fingerprint c.maxCommitRetries reason))
      | .error e, _ => .ends f (.error e)
    | _, _ => .waits
  | _ => .waits

def AlertTraffic.turn (c : AlertConfig) (s : AlertTraffic) (i : Nat) (e : AlertEvent) : Turn :=
  match s.ingesters[i]? with
  | some w => if e.ingester? = some i then w.turn c s.store e else .waits
  | none => .waits

/-- Traffic, with the calls of one ingester. -/
structure WatchedTraffic where
  traffic : AlertTraffic := {}
  /-- The call that is under way. -/
  call : Option IngestCall := none
  ended : List EndedCall := []

namespace WatchedTraffic

def step (c : AlertConfig) (i : Nat) (s : WatchedTraffic) (e : AlertEvent) : WatchedTraffic where
  traffic := s.traffic.step c e
  call := (s.traffic.turn c i e).proceed s.call (s.traffic.write? e)
  ended := s.ended ++ (s.traffic.turn c i e).ended s.call (s.traffic.write? e)

def after (c : AlertConfig) (i : Nat) (events : List AlertEvent) : WatchedTraffic :=
  events.foldl (step c i) {}

theorem after_concat (c : AlertConfig) (i : Nat) (events : List AlertEvent) (e : AlertEvent) :
    after c i (events ++ [e]) = step c i (after c i events) e := by
  simp [after]

theorem traffic_after (c : AlertConfig) (i : Nat) (events : List AlertEvent) :
    (after c i events).traffic = AlertTraffic.after c events := by
  induction events using List.reverseRecOn with
  | nil => rfl
  | append_singleton events e ih =>
    rw [after_concat, step, ih]
    exact (AlertTraffic.run_append c {} events [e]).symm

end WatchedTraffic

namespace AlertTraffic

/-- What an event means to the finding at hand of an ingester, the write that it makes, and what
becomes of the ingester. -/
inductive Turned (c : AlertConfig) (s : AlertTraffic) (i : Nat) (w : Ingester) :
    Turn → Option AlertWrite → Ingester → Prop
  | waits {write : Option AlertWrite} (foreign : ∀ x ∈ write, x.writer ≠ .ingester i) :
      Turned c s i w .waits write w
  | reads {f : Finding} {rest : List Finding} (ready : w.stage = .ready)
      (todo : w.todo = f :: rest) :
      Turned c s i w .reads none { w with stage := .read (s.store.latestFor f.fingerprint) }
  | drafts {f : Finding} {rest : List Finding} {latest : Option Alert} {now : Instant} {id : Uuid}
      {next : Alert} {applied : Applied} (known : w.stage = .read latest)
      (todo : w.todo = f :: rest)
      (planned : Correlation.plan c.reopenPolicy w.connector f.fingerprint latest f now id =
        some (next, applied)) :
      Turned c s i w .waits none { w with stage := .planned next applied }
  | ignores {f : Finding} {rest : List Finding} (todo : w.todo = f :: rest) :
      Turned c s i w (.ends f (.ok .ignored)) none (w.finish c .ignored)
  | commits {f : Finding} {rest : List Finding} {applied : Applied} (todo : w.todo = f :: rest)
      (writes : applied ≠ .ignored) :
      Turned c s i w (.ends f (.ok applied)) (some ⟨.ingester i, f.fingerprint⟩)
        (w.finish c applied)
  | refused {f : Finding} {rest : List Finding} {next : Alert} {applied : Applied} {left : Nat}
      {e : ServiceError} (drafted : w.stage = .planned next applied) (todo : w.todo = f :: rest)
      (budget : w.left = left + 1) (failed : s.store.commit next = .error e) :
      Turned c s i w .refused none { w with left := left, stage := .ready }
  | givesUp {f : Finding} {rest : List Finding} {next : Alert} {applied : Applied}
      {e : ServiceError} {reason : String} (drafted : w.stage = .planned next applied)
      (todo : w.todo = f :: rest) (spent : w.left = 0) (failed : s.store.commit next = .error e) :
      Turned c s i w
        (.ends f (.error (contendedError f.fingerprint c.maxCommitRetries reason))) none
        (w.finish c .ignored)

variable {c : AlertConfig} {s : AlertTraffic} {i : Nat} {w : Ingester} {e : AlertEvent}

theorem ingester_step_of_other (here : s.ingesters[i]? = some w) (other : e.ingester? ≠ some i) :
    (step c s e).ingesters[i]? = some w := by
  have apart {j : Nat} {w' : Ingester} (differ : j ≠ i) :
      (s.ingesters.set j w')[i]? = some w := by
    rw [List.getElem?_set_ne differ, here]
  have differ {j : Nat} (own : e.ingester? = some j) : j ≠ i := by
    rintro rfl
    exact other own
  cases e with
  | arrive connector batch =>
    obtain ⟨within, -⟩ := List.getElem?_eq_some_iff.mp here
    exact (List.getElem?_append_left within).trans here
  | read j | plan j =>
    simp only [step]
    split
    · exact apart (differ rfl)
    · exact here
  | commit j =>
    simp only [step]
    split
    · unfold AlertTraffic.commit
      split
      · split <;> exact apart (differ rfl)
      · exact here
    · exact here
  | operate | expire =>
    simp only [step]
    split <;> exact here
  | sweep => exact here

theorem writer_ne_of_other (other : e.ingester? ≠ some i) :
    ∀ x ∈ s.write? e, x.writer ≠ .ingester i := by
  rintro ⟨writer, fp⟩ written rfl
  obtain ⟨a, t, asked, -⟩ := write?_eq_some written
  cases e with
  | commit j =>
    obtain ⟨-, -, -, -, -, -, -, -, own, -⟩ := asks?_commit_eq_some asked
    cases own
    exact other rfl
  | expire j =>
    obtain ⟨-, -, -, -, own, -⟩ := asks?_expire_eq_some asked
    cases own
  | _ => cases asked

theorem turned_idle (c : AlertConfig) (s : AlertTraffic) (i : Nat) (w : Ingester) :
    Turned c s i w .waits none w := .waits (by simp)

theorem turned_read (c : AlertConfig) (s : AlertTraffic) (i : Nat) (w : Ingester) :
    Turned c s i w (w.turn c s.store (.read i)) none (w.read s.store) := by
  obtain ⟨connector, batch, todo, left, stage, counts⟩ := w
  cases stage with
  | ready =>
    cases todo with
    | nil => exact turned_idle ..
    | cons f rest => exact .reads rfl rfl
  | _ => exact turned_idle ..

theorem turned_plan (c : AlertConfig) (s : AlertTraffic) (i : Nat) (w : Ingester) (now : Instant)
    (id : Uuid) : Turned c s i w (w.turn c s.store (.plan i now id)) none (w.plan c now id) := by
  obtain ⟨connector, batch, todo, left, stage, counts⟩ := w
  cases stage with
  | read latest =>
    cases todo with
    | nil => exact turned_idle ..
    | cons f rest =>
      simp only [Ingester.turn, Ingester.plan]
      cases planned : Correlation.plan c.reopenPolicy connector f.fingerprint latest f now id with
      | none => exact .ignores rfl
      | some result => exact .drafts rfl rfl planned
  | _ => exact turned_idle ..

theorem applied_ne_ignored {policy : ReopenPolicy} {connector fp : String}
    {latest : Option Alert} {f : Finding} {now : Instant} {id : Uuid} {next : Alert}
    {applied : Applied}
    (planned : Correlation.plan policy connector fp latest f now id = some (next, applied)) :
    applied ≠ .ignored := by
  rcases plan_eq_some planned with ⟨rfl, -⟩ | ⟨a, -, rfl, -⟩ | ⟨a, -, rfl, -⟩ <;> simp

theorem Sound.turned_commit (sound : Sound c s) (here : s.ingesters[i]? = some w) :
    ∃ w', (step c s (.commit i)).ingesters[i]? = some w' ∧
      Turned c s i w (w.turn c s.store (.commit i)) (s.write? (.commit i)) w' := by
  have set_self := getElem?_set_of_getElem? here
  have grounded := sound.grounded w (List.mem_of_getElem? here)
  cases stage : w.stage with
  | planned next applied =>
    simp only [Ingester.Grounded, stage] at grounded
    obtain ⟨f, rest, latest, now, id, todo, known, planned⟩ := grounded
    cases done : s.store.commit next with
    | ok result =>
      obtain ⟨a, store⟩ := result
      obtain ⟨-, matching⟩ := (committed_of_plan sound.coherent known planned done).writesTo
      have sameFingerprint : a.fingerprint = f.fingerprint :=
        (congrArg Alert.fingerprint (eq_bumped_of_commit done)).trans matching
      have means : w.turn c s.store (.commit i) = .ends f (.ok applied) := by
        simp [Ingester.turn, stage, todo, done]
      have written : s.write? (.commit i) = some ⟨.ingester i, f.fingerprint⟩ := by
        simp [write?, asks?, here, Ingester.draft?, stage, todo, done, sameFingerprint]
      rw [means, written]
      refine ⟨w.finish c applied, ?_, .commits todo (applied_ne_ignored planned)⟩
      simp [step, here, AlertTraffic.commit, stage, todo, done, Ingester.conclude, set_self]
    | error e =>
      obtain ⟨reason, rfl⟩ := conflict_of_plan known planned done
      have silent : s.write? (.commit i) = none := by
        simp [write?, asks?, here, Ingester.draft?, stage, todo, done]
      rw [silent]
      cases budget : w.left with
      | zero =>
        have means : w.turn c s.store (.commit i) =
            .ends f (.error (contendedError f.fingerprint c.maxCommitRetries reason)) := by
          simp [Ingester.turn, stage, todo, done, budget]
        rw [means]
        refine ⟨w.finish c .ignored, ?_, .givesUp stage todo budget done⟩
        simp [step, here, AlertTraffic.commit, stage, todo, done, Ingester.conclude,
          Ingester.retry, budget, set_self]
      | succ left =>
        have means : w.turn c s.store (.commit i) = .refused := by
          simp [Ingester.turn, stage, todo, done, budget]
        rw [means]
        refine ⟨{ w with left := left, stage := .ready }, ?_, .refused stage todo budget done⟩
        simp [step, here, AlertTraffic.commit, stage, todo, done, Ingester.conclude,
          Ingester.retry, budget, set_self]
  | _ =>
    have means : w.turn c s.store (.commit i) = .waits := by simp [Ingester.turn, stage]
    have silent : s.write? (.commit i) = none := by
      simp [write?, asks?, here, Ingester.draft?, stage]
    rw [means, silent]
    refine ⟨w, ?_, turned_idle ..⟩
    simp [step, here, AlertTraffic.commit, stage]

theorem Sound.turned (sound : Sound c s) (here : s.ingesters[i]? = some w) (e : AlertEvent) :
    ∃ w', (step c s e).ingesters[i]? = some w' ∧
      Turned c s i w (s.turn c i e) (s.write? e) w' := by
  unfold AlertTraffic.turn
  simp only [here]
  by_cases own : e.ingester? = some i
  · rw [if_pos own]
    have set_self := getElem?_set_of_getElem? here
    cases e with
    | read j =>
      cases own
      refine ⟨w.read s.store, ?_, turned_read c s i w⟩
      simp only [step, here, set_self]
    | plan j now id =>
      cases own
      refine ⟨w.plan c now id, ?_, turned_plan c s i w now id⟩
      simp only [step, here, set_self]
    | commit j =>
      cases own
      exact sound.turned_commit here
    | _ => cases own
  · rw [if_neg own]
    exact ⟨w, ingester_step_of_other here own, .waits (writer_ne_of_other own)⟩

theorem Sound.exists_start (sound : Sound c s) (absent : s.ingesters[i]? = none)
    (here : (step c s e).ingesters[i]? = some w) : ∃ connector batch, w = .start c connector batch := by
  have transition := sound.transition_step e
  generalize step c s e = t at here transition
  have beyond := List.getElem?_eq_none_iff.mp absent
  have unborn {j : Nat} {w' : Ingester} : (s.ingesters.set j w')[i]? = none := by
    rwa [List.getElem?_eq_none_iff, List.length_set]
  cases transition with
  | @arrive connector batch =>
    rw [List.getElem?_append_right beyond] at here
    exact ⟨connector, batch, List.mem_singleton.mp (List.mem_of_getElem? here)⟩
  | read | plan | ignore | accept | conflict => cases unborn.symm.trans here
  | _ => cases absent.symm.trans here

end AlertTraffic

end DeviceWatch
