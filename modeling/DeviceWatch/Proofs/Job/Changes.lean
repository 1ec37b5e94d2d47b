import DeviceWatch.Proofs.Job.Pruning

/-!
# What an operation does to the tracker

An operation files a new record, moves one record on, drops records that have ended, or does
nothing.  Whoever ends a record answers with it, and history beyond the limit is dropped right after.
`perform_change` lists what an operation can do, and invariants are proved from that list.
-/

namespace DeviceWatch

/-- A job moves from queued over running to an end, or from queued straight to one. -/
def JobState.MayBecome (s t : JobState) : Prop :=
  s = t ∨ s = .queued ∨ s = .running ∧ t.isTerminal = true

namespace JobState.MayBecome

variable {s t u : JobState}

theorem refl (s : JobState) : s.MayBecome s := .inl rfl

theorem eq_of_ended (h : s.MayBecome t) (ended : s.isTerminal = true) : t = s := by
  rcases h with same | rfl | ⟨rfl, -⟩
  · exact same.symm
  · cases ended
  · cases ended

theorem trans (first : s.MayBecome t) (second : t.MayBecome u) : s.MayBecome u := by
  rcases first with rfl | queued | ⟨running, ended⟩
  · exact second
  · exact .inr (.inl queued)
  · exact .inr (.inr ⟨running, (second.eq_of_ended ended).symm ▸ ended⟩)

theorem eq_queued (h : s.MayBecome .queued) : s = .queued := by
  rcases h with same | queued | ⟨-, ended⟩
  · exact same
  · exact queued
  · cases ended

end JobState.MayBecome

namespace Tracker

def OwnIds (t : Tracker) : Prop := ∀ {id j}, t.jobs.find? id = some j → j.taskId = id

def started (j : Job) (worker : String) (now : Instant) : Job :=
  { j with
    state := .running
    startedAt := some now
    worker := some worker
    progress := some {} }

def withdrawn (j : Job) (now : Instant) : Job :=
  terminated j .cancelled (some "cancelled before start") none now

end Tracker

namespace Job

/-- What the record of a job says in each state. -/
def Fits (j : Job) : Prop :=
  match j.state with
  | .queued =>
    j.startedAt = none ∧ j.worker = none ∧ j.finishedAt = none ∧ j.progress = none ∧
      j.durationMillis = none ∧ j.error = none ∧ j.result = none
  | .running =>
    j.startedAt.isSome ∧ j.worker.isSome ∧ j.progress.isSome ∧ j.finishedAt = none ∧
      j.durationMillis = none ∧ j.error = none ∧ j.result = none
  | _ =>
    j.finishedAt.isSome ∧ j.progress = none ∧ j.startedAt.isSome = j.durationMillis.isSome ∧
      j.worker.isSome = j.durationMillis.isSome

/-- A record moves on: the job starts, reports progress, or ends. -/
inductive Advance (old : Job) : Job → Prop
  | started (worker : String) (now : Instant) (queued : old.state = .queued) :
    old.Advance (Tracker.started old worker now)
  | reported (p : Progress) (running : old.state = .running) :
    old.Advance { old with progress := some p }
  | ended (state : JobState) (error : Option String) (result : Option Json) (now : Instant)
    (live : old.state.isTerminal = false) (ends : state.isTerminal = true) :
    old.Advance (Tracker.terminated old state error result now)

variable {old new : Job}

theorem Advance.taskId (h : old.Advance new) : new.taskId = old.taskId := by
  cases h <;> rfl

theorem Advance.live (h : old.Advance new) : old.state.isTerminal = false := by
  cases h with
  | started worker now queued => rw [queued]; rfl
  | reported p running => rw [running]; rfl
  | ended state error result now live ends => exact live

theorem Advance.mayBecome (h : old.Advance new) : old.state.MayBecome new.state := by
  have live := h.live
  cases h with
  | started worker now queued => exact .inr (.inl queued)
  | reported p running => exact .refl _
  | ended state error result now _ ends =>
    cases from' : old.state with
    | queued => exact .inr (.inl rfl)
    | running => exact .inr (.inr ⟨rfl, ends⟩)
    | _ => simp [from', JobState.isTerminal] at live

/-- A later record of the same job: the state has only moved on, and a record that had ended has not
changed. -/
def Later (old new : Job) : Prop :=
  old.state.MayBecome new.state ∧ (old.state.isTerminal = true → new = old)

theorem Later.refl (j : Job) : j.Later j := ⟨.refl _, fun _ => rfl⟩

theorem Later.trans {first second third : Job} (h : first.Later second) (g : second.Later third) :
    first.Later third := by
  refine ⟨h.1.trans g.1, fun ended => ?_⟩
  have same := h.2 ended
  exact (g.2 (same.symm ▸ ended)).trans same

theorem Advance.later (h : old.Advance new) : old.Later new := by
  refine ⟨h.mayBecome, fun ended => ?_⟩
  rw [h.live] at ended
  cases ended

theorem fits_toJob (task : Task) (now : Instant) : (task.toJob now).Fits := by
  simp [Fits, Task.toJob]

theorem Advance.fits (h : old.Advance new) (fits : old.Fits) : new.Fits := by
  cases h with
  | started worker now queued =>
    simp only [Fits, queued] at fits
    simp [Fits, Tracker.started, fits]
  | reported p running =>
    simp only [Fits, running] at fits
    simp [Fits, running, fits]
  | ended state error result now live ends =>
    -- An end keeps the start and the worker, and measures the duration from the start.
    have together : old.worker.isSome = old.startedAt.isSome := by
      cases from' : old.state with
      | queued =>
        simp only [Fits, from'] at fits
        simp [fits]
      | running =>
        simp only [Fits, from'] at fits
        simp [fits]
      | _ => simp [from', JobState.isTerminal] at live
    cases state with
    | queued => cases ends
    | running => cases ends
    | _ => simp [Fits, Tracker.terminated, together]

end Job

namespace Tracker

theorem terminalCount_eq (t : Tracker) :
    t.terminalCount = t.jobs.values.countP (·.state.isTerminal) :=
  List.countP_eq_length_filter.symm

theorem terminalCount_prune_le (t : Tracker) (keep : Nat) :
    (t.prune keep).2.terminalCount ≤ keep := by
  rw [terminalCount_prune]
  exact Nat.min_le_right _ _

theorem terminalCount_prune_le_self (t : Tracker) (keep : Nat) :
    (t.prune keep).2.terminalCount ≤ t.terminalCount := by
  rw [terminalCount_prune]
  exact Nat.min_le_left _ _

inductive Operation where
  | enqueue (task : Task) (now : Instant)
  | start (id : Uuid) (worker : String) (now : Instant)
  | finish (id : Uuid) (state : JobState) (error : Option String) (result : Option Json)
    (now : Instant)
  | cancelQueued (id : Uuid) (now : Instant)
  | report (id : Uuid) (r : ProgressReport) (now : Instant)
  | prune (keep : Nat)

def Operation.enqueued? : Operation → Option Uuid
  | enqueue task _ => some task.id
  | _ => none

def settle (t : Tracker) : Outcome (Option Job × Tracker) → Outcome (Option Job) × Tracker
  | .ok (answer, t') => (.ok answer, t')
  | .error e => (.error e, t)

/-- Performs an operation.  The answer is the record that it wrote, if it gives one. -/
def perform (t : Tracker) : Operation → Outcome (Option Job) × Tracker
  | .enqueue task now => (.ok (some (t.enqueue task now).1), (t.enqueue task now).2)
  | .start id worker now => t.settle ((t.start id worker now).map fun r => (some r.1, r.2))
  | .finish id state error result now =>
    t.settle ((t.finish id state error result now).map fun r => (some r.1, r.2))
  | .cancelQueued id now => t.settle (t.cancelQueued id now)
  | .report id r now => (.ok none, t.report id r now)
  | .prune keep => (.ok none, (t.prune keep).2)

def run (t : Tracker) (operations : List Operation) : Tracker :=
  operations.foldl (fun t o => (t.perform o).2) t

theorem perform_eq_error {t : Tracker} {o : Operation} {e : ServiceError}
    (failed : (t.perform o).1 = .error e) : (t.perform o).2 = t := by
  have settled (outcome : Outcome (Option Job × Tracker))
      (failed : (t.settle outcome).1 = .error e) : (t.settle outcome).2 = t := by
    cases outcome with
    | ok r => cases failed
    | error e => rfl
  cases o with
  | start id worker now => exact settled _ failed
  | finish id state error result now => exact settled _ failed
  | cancelQueued id now => exact settled _ failed
  | _ => cases failed

/-- What an operation does, and the record that it writes. -/
inductive Change (t : Tracker) : Option Job → Tracker → Prop
  | idle : t.Change none t
  | filed (task : Task) (now : Instant) (unused : t.feeds.find? task.id = none) :
    t.Change (some (task.toJob now)) (t.enqueue task now).2
  | moved (old new : Job) (now : Instant) (stored : t.jobs.find? old.taskId = some old)
    (advance : old.Advance new) (live : new.state.isTerminal = false) :
    t.Change (some new) (t.publish new now)
  | closed (old new : Job) (now : Instant) (stored : t.jobs.find? old.taskId = some old)
    (advance : old.Advance new) (ended : new.state.isTerminal = true) :
    t.Change (some new) ((t.publish new now).prune t.historyLimit).2
  | dropped (keep : Nat) : t.Change none (t.prune keep).2

variable {t t' : Tracker} {id : Uuid} {old new j : Job} {now : Instant}

theorem start_eq {worker : String} (ownIds : t.OwnIds)
    (done : t.start id worker now = .ok (j, t')) :
    ∃ old, t.jobs.find? id = some old ∧ old.taskId = id ∧ old.state = .queued ∧
      j = started old worker now ∧ t' = t.publish j now := by
  unfold start observe at done
  cases found : t.jobs.find? id with
  | none => simp [found, bind, Except.bind] at done
  | some old =>
    cases state : old.state with
    | queued =>
      simp only [found, state, bind, Except.bind, pure, Except.pure, Except.ok.injEq,
        Prod.mk.injEq] at done
      obtain ⟨rfl, rfl⟩ := done
      exact ⟨old, rfl, ownIds found, state, rfl, rfl⟩
    | _ => simp [found, state, bind, Except.bind] at done

theorem finish_eq {state : JobState} {error : Option String} {result : Option Json}
    (ownIds : t.OwnIds) (done : t.finish id state error result now = .ok (j, t')) :
    ∃ old, t.jobs.find? id = some old ∧ old.taskId = id ∧ old.state.isTerminal = false ∧
      state.isTerminal = true ∧ j = terminated old state error result now ∧
      t' = (t.terminate old state error result now).2 := by
  unfold finish observe at done
  cases ends : state.isTerminal with
  | false => simp [ends] at done
  | true =>
    cases found : t.jobs.find? id with
    | none => simp [ends, found, bind, Except.bind] at done
    | some old =>
      cases unfinished : old.state.isTerminal with
      | true => simp [ends, found, unfinished, bind, Except.bind] at done
      | false =>
        simp only [ends, found, unfinished, Bool.not_true, Bool.false_eq_true, if_false, bind,
          Except.bind, pure, Except.pure, Except.ok.injEq] at done
        exact ⟨old, rfl, ownIds found, unfinished, rfl, (congrArg Prod.fst done).symm,
          (congrArg Prod.snd done).symm⟩

theorem cancelQueued_eq {cancelled : Option Job} (ownIds : t.OwnIds)
    (done : t.cancelQueued id now = .ok (cancelled, t')) :
    (cancelled = none ∧ t' = t) ∨
    ∃ old, t.jobs.find? id = some old ∧ old.taskId = id ∧ old.state = .queued ∧
      cancelled = some (withdrawn old now) ∧
      t' = (t.terminate old .cancelled (some "cancelled before start") none now).2 := by
  unfold cancelQueued observe at done
  cases found : t.jobs.find? id with
  | none => simp [found, bind, Except.bind] at done
  | some old =>
    cases state : old.state with
    | queued =>
      simp only [found, state, bind, Except.bind, pure, Except.pure, Except.ok.injEq,
        Prod.mk.injEq] at done
      exact .inr ⟨old, rfl, ownIds found, state, done.1.symm, done.2.symm⟩
    | running =>
      simp only [found, state, bind, Except.bind, pure, Except.pure, Except.ok.injEq,
        Prod.mk.injEq] at done
      exact .inl ⟨done.1.symm, done.2.symm⟩
    | _ => simp [found, state, bind, Except.bind] at done

theorem report_change (ownIds : t.OwnIds) (id : Uuid) (r : ProgressReport) (now : Instant) :
    ∃ written, t.Change written (t.report id r now) ∧
      ∀ j, written = some j → j.state = .running := by
  unfold report
  split
  · rename_i j found
    split
    · rename_i p state progress
      obtain rfl := ownIds found
      refine ⟨_, .moved j _ now found (.reported (p.apply now r) state) ?_, ?_⟩
      · show j.state.isTerminal = false
        rw [state]
        rfl
      · rintro _ ⟨⟩
        exact state
    · exact ⟨_, .idle, by simp⟩
  · exact ⟨_, .idle, by simp⟩

/-- An operation that does not submit a task for the second time is one change.  A record is written
as queued only for the task that is submitted, and one that is written as ended is the answer. -/
theorem perform_change (ownIds : t.OwnIds) (o : Operation)
    (fresh : ∀ id, o.enqueued? = some id → t.feeds.find? id = none) :
    ∃ written, t.Change written (t.perform o).2 ∧ ∀ j, written = some j →
      (j.state = .queued → o.enqueued? = some j.taskId) ∧
      (j.state.isTerminal = true → (t.perform o).1 = .ok (some j)) := by
  cases o with
  | enqueue task now =>
    refine ⟨_, .filed task now (fresh task.id rfl), ?_⟩
    rintro _ ⟨⟩
    exact ⟨fun _ => rfl, fun _ => rfl⟩
  | start id worker now =>
    cases done : t.start id worker now with
    | error e =>
      simp only [perform, done, Except.map, settle]
      exact ⟨_, .idle, by simp⟩
    | ok r =>
      obtain ⟨j, t'⟩ := r
      obtain ⟨old, found, rfl, queued, rfl, rfl⟩ := start_eq ownIds done
      simp only [perform, done, Except.map, settle]
      refine ⟨_, .moved old _ now found (.started worker now queued) rfl, ?_⟩
      rintro _ ⟨⟩
      exact ⟨by simp [started], fun _ => rfl⟩
  | finish id state error result now =>
    cases done : t.finish id state error result now with
    | error e =>
      simp only [perform, done, Except.map, settle]
      exact ⟨_, .idle, by simp⟩
    | ok r =>
      obtain ⟨j, t'⟩ := r
      obtain ⟨old, found, rfl, live, ends, rfl, rfl⟩ := finish_eq ownIds done
      simp only [perform, done, Except.map, settle]
      refine ⟨_, .closed old _ now found (.ended state error result now live ends) ends, ?_⟩
      rintro _ ⟨⟩
      refine ⟨fun queued => ?_, fun _ => rfl⟩
      rw [show state = .queued from queued] at ends
      cases ends
  | cancelQueued id now =>
    cases done : t.cancelQueued id now with
    | error e =>
      simp only [perform, done, settle]
      exact ⟨_, .idle, by simp⟩
    | ok r =>
      obtain ⟨cancelled, t'⟩ := r
      simp only [perform, done, settle]
      rcases cancelQueued_eq ownIds done with ⟨rfl, rfl⟩ |
        ⟨old, found, rfl, queued, rfl, rfl⟩
      · exact ⟨_, .idle, by simp⟩
      · have live : old.state.isTerminal = false := by rw [queued]; rfl
        refine ⟨_, .closed old _ now found (.ended .cancelled _ none now live rfl) rfl, ?_⟩
        rintro _ ⟨⟩
        exact ⟨by simp [terminated], fun _ => rfl⟩
  | report id r now =>
    obtain ⟨written, change, running⟩ := report_change ownIds id r now
    refine ⟨written, change, fun j wrote => ?_⟩
    rw [running j wrote]
    exact ⟨by simp, by simp [JobState.isTerminal]⟩
  | prune keep => exact ⟨_, .dropped keep, by simp⟩

end Tracker

end DeviceWatch
