import Mathlib.Data.List.Nodup
import DeviceWatch.Proofs.Job.Lifecycle
import DeviceWatch.Proofs.Json.Records
import DeviceWatch.Proofs.Pool.Accounts

/-!
# The ledger of a pool

The metrics count the ends of executions by job name.  A ledger beside the pool says what there was
to count: which tasks were accepted, which records were closed, and how many submissions the queue was
too full for.  What was published last of a task outlives its record, so that the counters can be
compared with it however much history is dropped.
-/

namespace DeviceWatch

namespace Metrics

variable {m : Metrics} {closed : List Job}

/-- What a table counts under a name; a name that is absent has not been counted. -/
def count (t : SortedTable Nat) (name : String) : Nat := (t.find? name).getD 0

theorem count_bump (t : SortedTable Nat) (name other : String) :
    count (bump t name) other = count t other + if other = name then 1 else 0 := by
  have written : (bump t name).find? other =
      if other = name then some (count t name + 1) else t.find? other :=
    SortedTable.lookup_insertEntry name _ t.entries other
  rw [count, written]
  split
  · rename_i same
    rw [same]
    rfl
  · rfl

/-- The counters by name are those of the closed records. -/
structure Tells (m : Metrics) (closed : List Job) : Prop where
  executed : ∀ name, count m.executed name = closed.countP (·.jobName = name)
  failed : ∀ name,
    count m.failed name = closed.countP fun j => j.jobName = name ∧ j.state = .failed
  cancelled : ∀ name,
    count m.cancelled name = closed.countP fun j => j.jobName = name ∧ j.state = .cancelled

theorem tells_empty : ({} : Metrics).Tells [] := by
  constructor <;> intro name <;> rfl

theorem Tells.recordExecution (h : m.Tells closed) (j : Job) (duration : Span) (now : Instant) :
    (m.recordExecution j.jobName j.state duration now).Tells (j :: closed) := by
  have bumped (t : SortedTable Nat) (counted : JobState) (name : String) :
      count (if j.state = counted then bump t j.jobName else t) name =
        count t name + if j.jobName = name ∧ j.state = counted then 1 else 0 := by
    by_cases ends : j.state = counted
    · simp [ends, count_bump, eq_comm]
    · simp [ends]
  constructor
  · intro name
    calc
      count (bump m.executed j.jobName) name
        = count m.executed name + if name = j.jobName then 1 else 0 := count_bump _ _ _
      _ = (j :: closed).countP (·.jobName = name) := by
        simp [h.executed name, List.countP_cons, eq_comm]
  · intro name
    calc
      count (if j.state = .failed then bump m.failed j.jobName else m.failed) name
        = count m.failed name + if j.jobName = name ∧ j.state = .failed then 1 else 0 :=
          bumped _ _ _
      _ = (j :: closed).countP fun j => j.jobName = name ∧ j.state = .failed := by
        simp [h.failed name, List.countP_cons]
  · intro name
    calc
      count (if j.state = .cancelled then bump m.cancelled j.jobName else m.cancelled) name
        = count m.cancelled name + if j.jobName = name ∧ j.state = .cancelled then 1 else 0 :=
          bumped _ _ _
      _ = (j :: closed).countP fun j => j.jobName = name ∧ j.state = .cancelled := by
        simp [h.cancelled name, List.countP_cons]

end Metrics

theorem Job.Advance.jobName {old new : Job} (h : old.Advance new) : new.jobName = old.jobName := by
  cases h <;> rfl

namespace Tracker

/-- Records are in order and go by the names of their tasks, and the ends that were published are
those of the closed records, each of which was closed once. -/
structure Tallied (t : Tracker) (tasks : List Task) (closed : List Job) : Prop where
  records : t.Records
  unknown : ∀ {id}, id ∉ tasks.map (·.id) → t.lastState id = none
  named : ∀ {id j}, t.jobs.find? id = some j →
    ∃ task ∈ tasks, task.id = id ∧ task.jobName = j.jobName
  once : (closed.map (·.taskId)).Nodup
  ended : ∀ {id state}, state.isTerminal = true →
    (t.lastState id = some state ↔ ∃ j ∈ closed, j.taskId = id ∧ j.state = state)
  closed : ∀ j ∈ closed, j.state.isTerminal = true ∧
    ∃ task ∈ tasks, task.id = j.taskId ∧ task.jobName = j.jobName

variable {t t' : Tracker} {tasks : List Task} {closed : List Job} {old new j : Job} {now : Instant}

theorem tallied_empty (historyLimit : Nat) : (empty historyLimit).Tallied [] [] where
  records := (sound_empty historyLimit).toRecords
  unknown := fun _ => rfl
  named := by simp [empty]
  once := List.nodup_nil
  ended := by simp [empty, lastState]
  closed := by simp

theorem Tallied.enqueue (h : t.Tallied tasks closed) {task : Task}
    (unused : task.id ∉ tasks.map (·.id)) (now : Instant) :
    (t.enqueue task now).2.Tallied (task :: tasks) closed where
  records := h.records.enqueue task now
  unknown := by
    intro id foreign
    rw [List.map_cons, List.mem_cons, not_or] at foreign
    rw [lastState_enqueue, if_neg foreign.1]
    exact h.unknown foreign.2
  named := by
    intro id j found
    rw [enqueue_find?] at found
    split at found
    · rename_i own
      cases found
      exact ⟨task, List.mem_cons_self, own.symm, rfl⟩
    · obtain ⟨other, there, same⟩ := h.named found
      exact ⟨other, List.mem_cons_of_mem task there, same⟩
  once := h.once
  ended := by
    intro id state terminal
    rw [lastState_enqueue]
    split
    · rename_i own
      have before : t.lastState task.id = some state ↔ _ := h.ended terminal
      rw [own, ← before, h.unknown unused]
      constructor
      · intro queued
        cases queued
        cases terminal
      · intro nothing
        cases nothing
    · exact h.ended terminal
  closed := by
    intro j there
    obtain ⟨terminal, own, accepted, same⟩ := h.closed j there
    exact ⟨terminal, own, List.mem_cons_of_mem task accepted, same⟩

theorem Tallied.publish (h : t.Tallied tasks closed) (stored : t.jobs.find? old.taskId = some old)
    (advance : old.Advance new) (now : Instant) :
    (t.publish new now).Records ∧
      (∀ {id j}, (t.publish new now).jobs.find? id = some j →
        ∃ task ∈ tasks, task.id = id ∧ task.jobName = j.jobName) ∧
      (∀ id, (t.publish new now).lastState id =
        if id = new.taskId then some new.state else t.lastState id) ∧
      ∀ j ∈ closed, j.taskId ≠ new.taskId := by
  have known : t.lastState new.taskId = some old.state :=
    advance.taskId ▸ h.records.published stored
  refine ⟨h.records.publish stored advance now, ?_, lastState_publish known now, ?_⟩
  · intro id j found
    rw [find?_publish] at found
    split at found
    · rename_i own
      cases found
      rw [own, advance.taskId, advance.jobName]
      exact h.named stored
    · exact h.named found
  · intro j there own
    have shown : t.lastState j.taskId = some j.state :=
      (h.ended (h.closed j there).1).mpr ⟨j, there, rfl, rfl⟩
    have live := advance.live
    rw [own, known, Option.some.injEq] at shown
    rw [shown, (h.closed j there).1] at live
    cases live

theorem Tallied.prune (h : t.Tallied tasks closed) (keep : Nat) :
    (t.prune keep).2.Tallied tasks closed where
  records := h.records.prune keep
  unknown := by
    intro id foreign
    rw [lastState_prune]
    exact h.unknown foreign
  named := fun found => h.named ((t.prune_retains keep).stored found)
  once := h.once
  ended := by
    intro id state terminal
    rw [lastState_prune]
    exact h.ended terminal
  closed := h.closed

/-- A record that starts or reports progress closes nothing, and neither does history that is
dropped. -/
theorem Tallied.proceed (h : t.Tallied tasks closed) {written : Option Job}
    (change : t.Change written t') (running : ∀ j, written = some j → j.state = .running) :
    t'.Tallied tasks closed := by
  cases change with
  | idle => exact h
  | filed task now unused => cases running _ rfl
  | moved old new now stored advance live =>
    obtain ⟨records, named, shown, others⟩ := h.publish stored advance now
    refine ⟨records, fun foreign => lastState_publish_eq_none (h.unknown foreign) _ _, named, h.once,
      fun {id state} terminal => ?_, h.closed⟩
    rw [shown]
    split
    · rename_i own
      constructor
      · intro ended
        cases ended
        rw [live] at terminal
        cases terminal
      · rintro ⟨j, there, same, -⟩
        exact absurd (same.trans own) (others j there)
    · exact h.ended terminal
  | closed old new now stored advance ended =>
    rw [running new rfl] at ended
    cases ended
  | dropped keep => exact h.prune keep

theorem Tallied.close (h : t.Tallied tasks closed) (change : t.Change (some j) t')
    (ended : j.state.isTerminal = true) : t'.Tallied tasks (j :: closed) := by
  cases change with
  | filed task now unused => cases ended
  | moved old new now stored advance live =>
    rw [live] at ended
    cases ended
  | closed old new now stored advance _ =>
    obtain ⟨records, named, shown, others⟩ := h.publish stored advance now
    refine Tallied.prune ⟨records, fun foreign => lastState_publish_eq_none (h.unknown foreign) _ _,
      named, ?_, fun {id state} terminal => ?_, ?_⟩ _
    · rw [List.map_cons, List.nodup_cons]
      refine ⟨?_, h.once⟩
      intro before
      obtain ⟨other, there, same⟩ := List.mem_map.mp before
      exact others other there same
    · rw [shown, List.exists_mem_cons_iff]
      split
      · rename_i own
        have onlyNow : ¬∃ i ∈ closed, i.taskId = id ∧ i.state = state := by
          rintro ⟨i, there, same, -⟩
          exact others i there (same.trans own)
        rw [or_iff_left onlyNow]
        simp [own]
      · rename_i other
        rw [h.ended terminal]
        simp [Ne.symm other]
    · intro i there
      rcases List.mem_cons.mp there with rfl | before
      · obtain ⟨task, accepted, own, name⟩ := h.named stored
        exact ⟨ended, task, accepted, own.trans advance.taskId.symm, name.trans advance.jobName.symm⟩
      · exact h.closed i before

/-- Among the tasks of a name, as many have been published with an end of some kind as records of the
name were closed with such an end. -/
theorem Tallied.countP_eq (h : t.Tallied tasks closed) (distinct : (tasks.map (·.id)).Nodup)
    (name : String) {kind : JobState → Bool} (ends : ∀ s, kind s = true → s.isTerminal = true) :
    closed.countP (fun j => j.jobName = name ∧ kind j.state = true) =
      tasks.countP fun task => task.jobName = name ∧ (t.lastState task.id).any kind = true := by
  let chosen := closed.filter fun j => j.jobName = name ∧ kind j.state = true
  let shown := tasks.filter fun task => task.jobName = name ∧ (t.lastState task.id).any kind = true
  have once : (chosen.map (·.taskId)).Nodup := h.once.sublist (List.filter_sublist.map _)
  have each : (shown.map (·.id)).Nodup := distinct.sublist (List.filter_sublist.map _)
  -- Neither list names a task twice, so it is enough that they name the same ones.
  have same : (chosen.map (·.taskId)).Perm (shown.map (·.id)) := by
    apply (List.perm_ext_iff_of_nodup once each).mpr
    intro id
    simp only [chosen, shown, List.mem_map, List.mem_filter, decide_eq_true_eq, Option.any_eq_true]
    constructor
    · rintro ⟨j, ⟨there, called, isKind⟩, rfl⟩
      obtain ⟨terminal, task, accepted, own, sameName⟩ := h.closed j there
      have last := (h.ended terminal).mpr ⟨j, there, rfl, rfl⟩
      exact ⟨task, ⟨accepted, sameName.trans called, j.state, own ▸ last, isKind⟩, own⟩
    · rintro ⟨task, ⟨accepted, called, state, last, isKind⟩, rfl⟩
      obtain ⟨j, there, own, rfl⟩ := (h.ended (ends state isKind)).mp last
      obtain ⟨-, other, accepted', own', sameName⟩ := h.closed j there
      have task_eq : other = task :=
        List.inj_on_of_nodup_map distinct accepted' accepted (own'.trans own)
      exact ⟨j, ⟨there, sameName.symm.trans (task_eq ▸ called), isKind⟩, own⟩
  calc
    closed.countP _ = (chosen.map (·.taskId)).length := by
      rw [List.length_map, List.countP_eq_length_filter]
    _ = (shown.map (·.id)).length := same.length_eq
    _ = tasks.countP _ := by rw [List.length_map, List.countP_eq_length_filter]

theorem start_change {id : Uuid} {worker : String} (ownIds : t.OwnIds)
    (done : t.start id worker now = .ok (j, t')) :
    t.Change (some j) t' ∧ j.state = .running := by
  obtain ⟨old, found, rfl, queued, rfl, rfl⟩ := start_eq ownIds done
  exact ⟨.moved old _ now found (.started worker now queued) rfl, rfl⟩

theorem finish_change {id : Uuid} {state : JobState} {error : Option String} {result : Option Json}
    (ownIds : t.OwnIds) (done : t.finish id state error result now = .ok (j, t')) :
    t.Change (some j) t' ∧ j.state.isTerminal = true := by
  obtain ⟨old, found, rfl, live, ends, rfl, rfl⟩ := finish_eq ownIds done
  exact ⟨.closed old _ now found (.ended state error result now live ends) ends, ends⟩

theorem cancelQueued_change {id : Uuid} (ownIds : t.OwnIds)
    (done : t.cancelQueued id now = .ok (some j, t')) :
    t.Change (some j) t' ∧ j.state.isTerminal = true := by
  rcases cancelQueued_eq ownIds done with ⟨nothing, -⟩ | ⟨old, found, rfl, queued, withdrawn, rfl⟩
  · cases nothing
  · cases withdrawn
    have live : old.state.isTerminal = false := by rw [queued]; rfl
    exact ⟨.closed old _ now found (.ended .cancelled _ none now live rfl) rfl, rfl⟩

end Tracker

namespace Pool

variable {p : Pool} {j : Job} {tracker : Tracker} {now : Instant}

theorem cancel_of_closed {id : Uuid} (done : p.tracker.cancelQueued id now = .ok (some j, tracker)) :
    (p.cancel id now).2.tracker = tracker ∧
      (p.cancel id now).2.metrics = p.metrics.recordExecution j.jobName j.state ⟨0⟩ now := by
  have queued : ∃ old, p.tracker.observe id = .ok old ∧ old.state = .queued := by
    unfold Tracker.cancelQueued at done
    cases seen : p.tracker.observe id with
    | error e => simp [seen, bind, Except.bind] at done
    | ok old =>
      refine ⟨old, rfl, ?_⟩
      cases state : old.state <;>
        simp [seen, state, bind, Except.bind, pure, Except.pure] at done ⊢
  obtain ⟨old, seen, state⟩ := queued
  have live : ¬old.state.isTerminal = true := by simp [state, JobState.isTerminal]
  -- The signal goes to executions only; the tracker is the one that was asked.
  have done' : (p.signal (·.id == id) now).tracker.cancelQueued id now = .ok (some j, tracker) := done
  obtain ⟨r, released, -⟩ :=
    { p.signal (·.id == id) now with tracker := tracker }.release_eq j.connectorId .cancelled now
  unfold cancel
  simp only [seen, if_neg live, done', released]
  exact ⟨rfl, rfl⟩

theorem cancel_of_open {id : Uuid}
    (nothing : ∀ j tracker, p.tracker.cancelQueued id now ≠ .ok (some j, tracker)) :
    (p.cancel id now).2.tracker = p.tracker ∧ (p.cancel id now).2.metrics = p.metrics := by
  unfold cancel
  split
  · exact ⟨rfl, rfl⟩
  · split
    · exact ⟨rfl, rfl⟩
    · dsimp only
      split
      · exact ⟨rfl, rfl⟩
      · rename_i j tracker done
        exact absurd done (nothing j tracker)
      · exact ⟨rfl, rfl⟩

/-- An execution that closes its record enters it into the metrics. -/
theorem conclude_of_closed {e : Execution} {ending : Ending}
    (done : p.tracker.finish e.task.id ending.state (ending.error e.task) ending.result now =
      .ok (j, tracker)) (problem : Option String) :
    (p.conclude e ending problem now).tracker = tracker ∧
      (p.conclude e ending problem now).metrics = p.metrics.recordExecution j.jobName j.state
        ⟨(now.nanos - e.startedAt.nanos).toNat⟩ now := by
  let closed := { p with tracker := tracker }.recordExecution j
    ⟨(now.nanos - e.startedAt.nanos).toNat⟩ now
  obtain ⟨r, released, -⟩ :=
    closed.release_eq e.task.connectorId (ending.pollOutcome e.task problem) now
  unfold conclude record
  simp only [closed] at released
  simp only [done, released]
  exact ⟨rfl, rfl⟩

/-- The outcome of an execution whose record is closed already is dropped. -/
theorem conclude_of_dropped {e : Execution} {ending : Ending} {failure : ServiceError}
    (failed : p.tracker.finish e.task.id ending.state (ending.error e.task) ending.result now =
      .error failure) (problem : Option String) :
    (p.conclude e ending problem now).tracker = p.tracker ∧
      (p.conclude e ending problem now).metrics = p.metrics := by
  obtain ⟨r, released, -⟩ := p.release_eq e.task.connectorId .cancelled now
  unfold conclude record
  simp only [failed, released]
  exact ⟨rfl, rfl⟩

end Pool

namespace MeteredPool

def accepts? (s : MeteredPool) : PoolEvent → Option Task
  | .submit t now =>
    if s.accepted.contains t.id then none
    else match (s.pool.submit t now).1 with
      | .ok _ => some t
      | .error _ => none
  | _ => none

/-- A submission is answered with backpressure. -/
def refuses (s : MeteredPool) : PoolEvent → Bool
  | .submit t now =>
    if s.accepted.contains t.id then false
    else match (s.pool.submit t now).1 with
      | .error (.backpressure _ _) => true
      | _ => false
  | _ => false

def closes? (s : MeteredPool) : PoolEvent → Option Job
  | .cancel task now =>
    match s.pool.tracker.cancelQueued task now with
    | .ok (closed, _) => closed
    | .error _ => none
  | .conclude i ending _ now =>
    (s.pool.running[i]?).bind fun e =>
      match s.pool.tracker.finish e.task.id ending.state (ending.error e.task) ending.result now with
      | .ok (j, _) => some j
      | .error _ => none
  | _ => none

/-- A worker that takes a task starts it, or leaves the records alone; in neither case is there
anything to enter into the metrics. -/
theorem take_frame (s : MeteredPool) (i : Nat) (t : Task)
    (worker : Nat) (course : Course) (now : Instant) :
    (s.take i t worker course now).accepted = s.accepted ∧
      (s.take i t worker course now).pool.metrics = s.pool.metrics ∧
      ((s.take i t worker course now).pool.tracker = s.pool.tracker ∨
        ∃ j, s.pool.tracker.start t.id (Pool.workerName worker) now =
          .ok (j, (s.take i t worker course now).pool.tracker)) := by
  unfold MeteredPool.take
  split
  · unfold Pool.take
    cases started : s.pool.tracker.start t.id (Pool.workerName worker) now with
    | ok r =>
      obtain ⟨j, tracker⟩ := r
      simp only [started]
      exact ⟨rfl, rfl, .inr ⟨j, rfl⟩⟩
    | error e =>
      simp only [started]
      exact ⟨rfl, rfl, .inl rfl⟩
  · exact ⟨rfl, rfl, .inl rfl⟩

end MeteredPool

/-- A pool, and what was written down beside it. -/
structure PoolLedger where
  metered : MeteredPool
  /-- The tasks that were accepted, the last one first. -/
  tasks : List Task := []
  /-- The records that were closed, the last one first, as they were then. -/
  closed : List Job := []
  /-- How many submissions were answered with backpressure. -/
  refusals : Nat := 0

inductive LedgerEvent where
  | pool (event : PoolEvent)
  /-- The dispatcher has ticked, which is counted among the metrics of the pool. -/
  | tick (ok : Bool)

namespace PoolLedger

def pool (s : PoolLedger) : Pool := s.metered.pool

def step (s : PoolLedger) : LedgerEvent → PoolLedger
  | .pool event =>
    { metered := s.metered.step event
      tasks := (s.metered.accepts? event).toList ++ s.tasks
      closed := (s.metered.closes? event).toList ++ s.closed
      refusals := s.refusals + if s.metered.refuses event then 1 else 0 }
  | .tick ok =>
    { s with metered := s.metered.setPool { s.pool with metrics := s.pool.metrics.recordTick ok } }

def run (s : PoolLedger) (events : List LedgerEvent) : PoolLedger := events.foldl step s

def initial (workers : WorkerConfig) (historyLimit : Nat) (dispatch : DispatchConfig) :
    PoolLedger where
  metered := .initial workers historyLimit dispatch

/-- How many tasks of a name have ended, with an end of some kind. -/
def ended (s : PoolLedger) (name : String) (kind : JobState → Bool) : Nat :=
  s.tasks.countP fun task =>
    task.jobName = name ∧ (s.pool.tracker.lastState task.id).any kind = true

structure Balanced (workers : WorkerConfig) (s : PoolLedger) : Prop where
  sound : s.metered.Sound workers
  accepted : s.tasks.map (·.id) = s.metered.accepted
  tallied : s.pool.tracker.Tallied s.tasks s.closed
  tells : s.pool.metrics.Tells s.closed
  refused : s.pool.metrics.backpressureRejections = s.refusals

variable {workers : WorkerConfig} {s : PoolLedger}

theorem balanced_initial (workers : WorkerConfig) (historyLimit : Nat) (dispatch : DispatchConfig) :
    (initial workers historyLimit dispatch).Balanced workers where
  sound := MeteredPool.sound_initial workers historyLimit dispatch
  accepted := rfl
  tallied := Tracker.tallied_empty historyLimit
  tells := Metrics.tells_empty
  refused := rfl

theorem Balanced.distinct (h : s.Balanced workers) : (s.tasks.map (·.id)).Nodup := by
  rw [h.accepted]
  exact h.sound.books.distinct

theorem Balanced.keep (h : s.Balanced workers) {m : MeteredPool} (sound : m.Sound workers)
    (accepted : m.accepted = s.metered.accepted)
    (tallied : m.pool.tracker.Tallied s.tasks s.closed)
    (metrics : m.pool.metrics = s.pool.metrics) : { s with metered := m }.Balanced workers where
  sound := sound
  accepted := h.accepted.trans accepted.symm
  tallied := tallied
  tells := by
    show m.pool.metrics.Tells s.closed
    rw [metrics]
    exact h.tells
  refused := by
    show m.pool.metrics.backpressureRejections = s.refusals
    rw [metrics]
    exact h.refused

theorem Balanced.submit (h : s.Balanced workers) (t : Task) (now : Instant) :
    (s.step (.pool (.submit t now))).Balanced workers := by
  have sound := h.sound.step (.submit t now)
  by_cases known : s.metered.accepted.contains t.id = true
  · simp only [step, MeteredPool.step, MeteredPool.submit, MeteredPool.accepts?,
      MeteredPool.refuses, MeteredPool.closes?, if_pos known]
    exact h
  · have unused : t.id ∉ s.tasks.map (·.id) := by
      rw [h.accepted]
      simpa using known
    have answer := h.sound.submit_eq t now
    by_cases full : s.metered.pool.waiting.length = workers.queueBound
    · rw [if_pos full] at answer
      simp only [MeteredPool.step, MeteredPool.submit, if_neg known, answer] at sound
      simp only [step, MeteredPool.step, MeteredPool.submit, MeteredPool.accepts?,
        MeteredPool.refuses, MeteredPool.closes?, if_neg known, answer]
      refine ⟨sound, h.accepted, h.tallied, ⟨h.tells.1, h.tells.2, h.tells.3⟩, ?_⟩
      exact congrArg (· + 1) h.refused
    · rw [if_neg full] at answer
      simp only [MeteredPool.step, MeteredPool.submit, if_neg known, answer] at sound
      simp only [step, MeteredPool.step, MeteredPool.submit, MeteredPool.accepts?,
        MeteredPool.refuses, MeteredPool.closes?, if_neg known, answer]
      refine ⟨sound, ?_, h.tallied.enqueue unused now, h.tells, h.refused⟩
      exact congrArg (t.id :: ·) h.accepted

theorem Balanced.close (h : s.Balanced workers) {m : MeteredPool} {j : Job} {duration : Span}
    {now : Instant} (sound : m.Sound workers) (accepted : m.accepted = s.metered.accepted)
    (change : s.pool.tracker.Change (some j) m.pool.tracker) (ended : j.state.isTerminal = true)
    (metrics : m.pool.metrics = s.pool.metrics.recordExecution j.jobName j.state duration now) :
    { s with metered := m, closed := j :: s.closed }.Balanced workers where
  sound := sound
  accepted := h.accepted.trans accepted.symm
  tallied := h.tallied.close change ended
  tells := by
    show m.pool.metrics.Tells (j :: s.closed)
    rw [metrics]
    exact h.tells.recordExecution j duration now
  refused := by
    show m.pool.metrics.backpressureRejections = s.refusals
    rw [metrics]
    exact h.refused

theorem Balanced.cancel (h : s.Balanced workers) (task : Uuid) (now : Instant) :
    (s.step (.pool (.cancel task now))).Balanced workers := by
  have sound := h.sound.step (.cancel task now)
  by_cases closes : ∃ j tracker,
      s.metered.pool.tracker.cancelQueued task now = .ok (some j, tracker)
  · obtain ⟨j, tracker, done⟩ := closes
    obtain ⟨tracker_eq, metrics⟩ := Pool.cancel_of_closed done
    obtain ⟨change, ended⟩ := Tracker.cancelQueued_change h.tallied.records.ownIds done
    have entered : s.metered.closes? (.cancel task now) = some j := by
      simp only [MeteredPool.closes?, done]
    simp only [step, entered]
    exact h.close sound rfl (tracker_eq.symm ▸ change) ended metrics
  · have nothing : ∀ j tracker, s.metered.pool.tracker.cancelQueued task now ≠
        .ok (some j, tracker) := fun j tracker done => closes ⟨j, tracker, done⟩
    obtain ⟨tracker_eq, metrics⟩ := Pool.cancel_of_open nothing
    have entered : s.metered.closes? (.cancel task now) = none := by
      simp only [MeteredPool.closes?]
      split
      · rename_i closed tracker done
        cases closed with
        | none => rfl
        | some j => exact absurd done (nothing j tracker)
      · rfl
    simp only [step, entered]
    exact h.keep sound rfl (tracker_eq.symm ▸ h.tallied) metrics

theorem Balanced.conclude (h : s.Balanced workers) (i : Nat) (ending : Ending)
    (problem : Option String) (now : Instant) :
    (s.step (.pool (.conclude i ending problem now))).Balanced workers := by
  have sound := h.sound.step (.conclude i ending problem now)
  cases here : s.metered.pool.running[i]? with
  | none =>
    simp only [step, MeteredPool.step, MeteredPool.closes?, here, Option.elim_none,
      Option.bind_none]
    exact h
  | some e =>
    simp only [MeteredPool.step, here, Option.elim_some] at sound
    simp only [step, MeteredPool.step, MeteredPool.closes?, here, Option.elim_some,
      Option.bind_some]
    cases done : s.metered.pool.tracker.finish e.task.id ending.state (ending.error e.task)
        ending.result now with
    | ok r =>
      obtain ⟨j, tracker⟩ := r
      obtain ⟨tracker_eq, metrics⟩ := Pool.conclude_of_closed done problem
      obtain ⟨change, ended⟩ := Tracker.finish_change h.tallied.records.ownIds done
      exact h.close sound rfl (tracker_eq.symm ▸ change) ended metrics
    | error failure =>
      obtain ⟨tracker_eq, metrics⟩ := Pool.conclude_of_dropped done problem
      exact h.keep sound rfl (tracker_eq.symm ▸ h.tallied) metrics

theorem Balanced.take (h : s.Balanced workers) (i : Nat) (worker : Nat) (course : Course)
    (now : Instant) : (s.step (.pool (.take i worker course now))).Balanced workers := by
  have sound := h.sound.step (.take i worker course now)
  cases here : s.metered.pool.queue[i]? with
  | none =>
    simp only [step, MeteredPool.step, here, Option.elim_none]
    exact h
  | some t =>
    simp only [MeteredPool.step, here, Option.elim_some] at sound
    simp only [step, MeteredPool.step, here, Option.elim_some]
    obtain ⟨accepted, metrics, tracker⟩ := s.metered.take_frame i t worker course now
    refine h.keep sound accepted ?_ metrics
    rcases tracker with same | ⟨j, started⟩
    · rw [same]
      exact h.tallied
    · obtain ⟨change, running⟩ := Tracker.start_change h.tallied.records.ownIds started
      apply h.tallied.proceed change
      rintro _ ⟨⟩
      exact running

theorem Balanced.step (h : s.Balanced workers) (event : LedgerEvent) :
    (s.step event).Balanced workers := by
  cases event with
  | tick ok =>
    have sound := h.sound.keep (p := { s.pool with metrics := s.pool.metrics.recordTick ok })
      rfl rfl rfl rfl (.inl (.refl _))
    exact ⟨sound, h.accepted, h.tallied, ⟨h.tells.1, h.tells.2, h.tells.3⟩, h.refused⟩
  | pool event =>
    have sound := h.sound.step event
    cases event with
    | submit t now => exact h.submit t now
    | cancel task now => exact h.cancel task now
    | take i worker course now => exact h.take i worker course now
    | conclude i ending problem now => exact h.conclude i ending problem now
    | report task r now =>
      obtain ⟨written, change, running⟩ :=
        Tracker.report_change h.tallied.records.ownIds task r now
      exact h.keep sound rfl (h.tallied.proceed change running) rfl
    | prune keep => exact h.keep sound rfl (h.tallied.prune keep) rfl
    | configure r => exact h.keep sound rfl h.tallied rfl
    | limit limiter => exact h.keep sound rfl h.tallied rfl

theorem Balanced.run (h : s.Balanced workers) (events : List LedgerEvent) :
    (s.run events).Balanced workers := by
  induction events generalizing s with
  | nil => exact h
  | cons event rest ih => exact ih (h.step event)

/-- A kind of end is counted among the tasks as it is among the closed records. -/
theorem Balanced.ended_eq (h : s.Balanced workers) (name : String) {kind : JobState → Bool}
    (ends : ∀ state, kind state = true → state.isTerminal = true) :
    s.ended name kind =
      s.closed.countP fun j => j.jobName = name ∧ kind j.state = true :=
  (h.tallied.countP_eq h.distinct name ends).symm

/-- In every state of a pool that takes submissions: under every name the metrics count the accepted
tasks that have ended, those that have failed and those that were cancelled, whether their records are
still kept or not, and all submissions that were answered with backpressure.  They count what was
written down as closed, which is every ended task once, in the state in which it has ended. -/
theorem counters_tell (workers : WorkerConfig) (historyLimit : Nat) (dispatch : DispatchConfig)
    (events : List LedgerEvent) :
    let s := (initial workers historyLimit dispatch).run events
    let m := s.pool.metrics
    (∀ name,
      Metrics.count m.executed name = s.ended name (·.isTerminal) ∧
        Metrics.count m.failed name = s.ended name (· = .failed) ∧
        Metrics.count m.cancelled name = s.ended name (· = .cancelled)) ∧
      m.backpressureRejections = s.refusals ∧
      m.Tells s.closed ∧ (s.tasks.map (·.id)).Nodup ∧ (s.closed.map (·.taskId)).Nodup ∧
      (∀ id state, state.isTerminal = true →
        (s.pool.tracker.lastState id = some state ↔
          ∃ j ∈ s.closed, j.taskId = id ∧ j.state = state)) ∧
      ∀ j ∈ s.closed, ∃ task ∈ s.tasks, task.id = j.taskId ∧ task.jobName = j.jobName := by
  intro s m
  have balanced : s.Balanced workers := (balanced_initial workers historyLimit dispatch).run events
  refine ⟨fun name => ⟨?_, ?_, ?_⟩, balanced.refused, balanced.tells, balanced.distinct,
    balanced.tallied.once, fun _ _ => balanced.tallied.ended,
    fun j there => (balanced.tallied.closed j there).2⟩
  · rw [balanced.ended_eq name fun _ => id, balanced.tells.executed name]
    apply List.countP_congr
    intro j there
    simp [(balanced.tallied.closed j there).1]
  · rw [balanced.ended_eq name fun state failed => by simp_all [JobState.isTerminal],
      balanced.tells.failed name]
    simp
  · rw [balanced.ended_eq name fun state cancelled => by simp_all [JobState.isTerminal],
      balanced.tells.cancelled name]
    simp

/-- One task is cancelled while it is queued and another one fails; with no room for history both
records are dropped at once. -/
example :
    let s := (initial {} 0 default).run [
      .pool (.submit (Tracker.idleTask 1) default), .pool (.submit (Tracker.idleTask 2) default),
      .pool (.cancel ⟨2⟩ default), .pool (.take 0 0 .missing default),
      .pool (.conclude 0 (.failed "no driver") none default)]
    s.pool.tracker.jobs.size = 0 ∧ Metrics.count s.pool.metrics.executed "idle" = 2 ∧
      Metrics.count s.pool.metrics.failed "idle" = 1 ∧
      Metrics.count s.pool.metrics.cancelled "idle" = 1 := by
  decide +kernel

end PoolLedger

end DeviceWatch
