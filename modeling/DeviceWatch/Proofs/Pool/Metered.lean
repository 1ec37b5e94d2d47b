import DeviceWatch.Proofs.Pool.Ownership
import DeviceWatch.Proofs.Pool.Undisturbed

/-!
# A pool with meters

How many tasks are queued and how many are running is read off a pool.  Here the same is counted
beside it, as it happens: one counter of all queued tasks, one of all running ones, and for each
worker what it runs and what it has room for.  A submission, a cancel, the step of a worker that takes
a task, and the end of an execution are one event each, in any order and for any tasks.
-/

namespace DeviceWatch

namespace Pool

def waiting (p : Pool) : List Uuid := p.queue.map (·.id)

def crew (p : Pool) : List (Uuid × Nat) := p.running.map fun e => (e.task.id, e.worker)

/-- A worker takes the task at a place of the queue.  It starts the task, or passes over it if it
has ended. -/
def take (p : Pool) (place : Nat) (t : Task) (worker : Nat) (course : Course) (now : Instant) :
    Bool × Pool :=
  let p := { p with queue := p.queue.eraseIdx place }
  match p.tracker.start t.id (workerName worker) now with
  | .ok (_, tracker) =>
    let e : Execution := { task := t, worker := worker, startedAt := now, course := course }
    (true, { p with tracker := tracker, running := p.running ++ [e] })
  | .error _ => (false, p)

/-- An execution ends: its record is closed, its claim is released and its place is freed.
`problem` is what went wrong with the findings. -/
def conclude (p : Pool) (e : Execution) (ending : Ending) (problem : Option String)
    (now : Instant) : Pool :=
  match p.record e ending now with
  | (true, p) => (p.release e.task.connectorId (ending.pollOutcome e.task problem) now).vacate e
  | (false, p) => p.vacate e

variable {p : Pool}

theorem exists_conclude (v : Service) (e : Execution) (ending : Ending) (now : Instant) :
    ∃ problem, (v.conclude e ending now).pool = v.pool.conclude e ending problem now :=
  PollTraffic.conclude_pool v e ending now

/-- In its turn a worker with a free place takes the first task of the queue. -/
theorem exists_take_of_turn {course : Task → Course} {now : Instant} {p' : Pool}
    (turned : p.turn course now = .passed p' ∨ ∃ e, p.turn course now = .started e p') :
    ∃ t w limiter, p.queue[0]? = some t ∧ w < p.config.workerCount ∧
      p.load w < p.config.workerConcurrency ∧
      ({ p with limiter := limiter }.take 0 t w (course t) now).2 = p' := by
  unfold turn at turned
  split at turned
  · rename_i t queue w waiting free
    have within := List.mem_range.mp (List.mem_of_find?_eq_some free)
    have room : p.load w < p.config.workerConcurrency := by
      simpa using List.find?_some free
    split at turned
    · simp at turned
    · split at turned
      · simp at turned
      · rename_i limiter granted
        refine ⟨t, w, limiter, by rw [waiting]; rfl, within, room, ?_⟩
        unfold take
        cases started : p.tracker.start t.id (workerName w) now with
        | ok r =>
          simp only [started] at turned
          rcases turned with passed | ⟨e, begun⟩
          · cases passed
          · cases begun
            simp [started, waiting]
        | error problem =>
          simp only [started] at turned
          rcases turned with passed | ⟨e, begun⟩
          · cases passed
            simp [started, waiting]
          · cases begun
  · simp at turned

end Pool

/-- What is counted.  The counters are integers: one that is decreased too often shows. -/
structure Meters where
  queued : Int := 0
  active : Int := 0
  /-- By worker: the tasks that it runs. -/
  running : Nat → Int := fun _ => 0
  /-- By worker: the places that it has left. -/
  permits : Nat → Int
  /-- The tasks that can be told to end. -/
  tokens : List Uuid := []

namespace Meters

def bump (count : Nat → Int) (worker : Nat) (by' : Int) : Nat → Int :=
  fun w => if w = worker then count w + by' else count w

def accept (m : Meters) (task : Uuid) : Meters :=
  { m with queued := m.queued + 1, tokens := m.tokens ++ [task] }

def pass (m : Meters) (task : Uuid) : Meters :=
  { m with queued := m.queued - 1, tokens := m.tokens.erase task }

def begin (m : Meters) (worker : Nat) : Meters :=
  { m with
    queued := m.queued - 1
    active := m.active + 1
    running := bump m.running worker 1
    permits := bump m.permits worker (-1) }

def leave (m : Meters) (task : Uuid) (worker : Nat) : Meters :=
  { m with
    active := m.active - 1
    running := bump m.running worker (-1)
    permits := bump m.permits worker 1
    tokens := m.tokens.erase task }

end Meters

structure MeteredPool where
  pool : Pool
  meters : Meters
  /-- The tasks that were accepted, the last one first. -/
  accepted : List Uuid := []
  /-- The tasks that workers have taken, each time that they did. -/
  taken : List Uuid := []

inductive PoolEvent where
  | submit (t : Task) (now : Instant)
  | cancel (task : Uuid) (now : Instant)
  | take (place : Nat) (worker : Nat) (course : Course) (now : Instant)
  | conclude (place : Nat) (ending : Ending) (problem : Option String) (now : Instant)
  | report (task : Uuid) (r : ProgressReport) (now : Instant)
  | prune (keep : Nat)
  /-- Connectors change, or polls are claimed. -/
  | configure (r : Registry)
  /-- Tokens of the rate limit are spent or come back. -/
  | limit (limiter : RateLimiter)

namespace MeteredPool

def setPool (s : MeteredPool) (p : Pool) : MeteredPool := { s with pool := p }

def submit (s : MeteredPool) (t : Task) (now : Instant) : MeteredPool :=
  if s.accepted.contains t.id then s
  else match s.pool.submit t now with
    | (.ok _, p) =>
      { s.setPool p with meters := s.meters.accept t.id, accepted := t.id :: s.accepted }
    | (.error _, p) => s.setPool p

/-- A worker takes a task if it has a place left. -/
def take (s : MeteredPool) (place : Nat) (t : Task) (worker : Nat) (course : Course)
    (now : Instant) : MeteredPool :=
  if worker < s.pool.config.workerCount ∧ 0 < s.meters.permits worker then
    match s.pool.take place t worker course now with
    | (true, p) =>
      { s.setPool p with meters := s.meters.begin worker, taken := t.id :: s.taken }
    | (false, p) => { s.setPool p with meters := s.meters.pass t.id, taken := t.id :: s.taken }
  else s

def conclude (s : MeteredPool) (e : Execution) (ending : Ending) (problem : Option String)
    (now : Instant) : MeteredPool :=
  { s.setPool (s.pool.conclude e ending problem now) with
    meters := s.meters.leave e.task.id e.worker }

def step (s : MeteredPool) : PoolEvent → MeteredPool
  | .submit t now => s.submit t now
  | .cancel task now => s.setPool (s.pool.cancel task now).2
  | .take i worker course now => (s.pool.queue[i]?).elim s fun t => s.take i t worker course now
  | .conclude i ending problem now =>
    (s.pool.running[i]?).elim s fun e => s.conclude e ending problem now
  | .report task r now => s.setPool { s.pool with tracker := s.pool.tracker.report task r now }
  | .prune keep => s.setPool { s.pool with tracker := (s.pool.tracker.prune keep).2 }
  | .configure r => s.setPool { s.pool with registry := r }
  | .limit limiter => s.setPool { s.pool with limiter := limiter }

def run (s : MeteredPool) (events : List PoolEvent) : MeteredPool := events.foldl step s

def initial (workers : WorkerConfig) (historyLimit : Nat) (dispatch : DispatchConfig) :
    MeteredPool where
  pool := .new workers (.empty historyLimit) (.empty dispatch)
  meters := { permits := fun _ => workers.workerConcurrency }

end MeteredPool

namespace Pool

variable {p : Pool} {now : Instant}

theorem active_eq (p : Pool) : p.active = p.crew.length := by
  simp [active, crew]

theorem reserved_eq (p : Pool) : p.reserved = p.waiting.length := by
  simp [reserved, waiting]

theorem load_eq (p : Pool) (w : Nat) : p.load w = p.crew.countP (·.2 == w) := by
  simp [load, crew, List.countP_eq_length_filter, List.filter_map, Function.comp_def]

/-- A cancel closes the record of a queued task, or leaves the records as they are; it does not
change who waits and who runs. -/
theorem cancel_frame (p : Pool) (id : Uuid) (now : Instant) :
    (p.cancel id now).2.config = p.config ∧ (p.cancel id now).2.stopped = p.stopped ∧
      (p.cancel id now).2.queue = p.queue ∧ (p.cancel id now).2.crew = p.crew ∧
      ((p.cancel id now).2.tracker = p.tracker ∨
        ∃ j, p.tracker.cancelQueued id now = .ok (some j, (p.cancel id now).2.tracker)) := by
  have signalled (told : Task → Bool) : (p.signal told now).crew = p.crew := by
    simp only [crew, signal, List.map_map]
    apply List.map_congr_left
    intro e _
    simp only [Function.comp_apply]
    split <;> rfl
  unfold cancel
  split
  · exact ⟨rfl, rfl, rfl, rfl, .inl rfl⟩
  · split
    · exact ⟨rfl, rfl, rfl, rfl, .inl rfl⟩
    · have crew := signalled (·.id == id)
      dsimp only
      cases done : (p.signal (·.id == id) now).tracker.cancelQueued id now with
      | error e => exact ⟨rfl, rfl, rfl, crew, .inl rfl⟩
      | ok r =>
        obtain ⟨closed, tracker⟩ := r
        cases closed with
        | none => exact ⟨rfl, rfl, rfl, crew, .inl rfl⟩
        | some j =>
          obtain ⟨r, released, -⟩ := { p.signal (·.id == id) now with tracker := tracker }.release_eq
            j.connectorId .cancelled now
          simp only [released]
          exact ⟨rfl, rfl, rfl, crew, .inr ⟨j, done⟩⟩

/-- The end of an execution closes its record, if it is open, and frees its place. -/
theorem conclude_frame (p : Pool) (e : Execution) (ending : Ending) (problem : Option String)
    (now : Instant) :
    (p.conclude e ending problem now).config = p.config ∧
      (p.conclude e ending problem now).stopped = p.stopped ∧
      (p.conclude e ending problem now).queue = p.queue ∧
      (p.conclude e ending problem now).running = p.running.filter (·.task.id ≠ e.task.id) ∧
      match p.tracker.finish e.task.id ending.state (ending.error e.task) ending.result now with
      | .ok (_, tracker) => (p.conclude e ending problem now).tracker = tracker
      | .error _ => (p.conclude e ending problem now).tracker = p.tracker := by
  unfold conclude record
  cases done : p.tracker.finish e.task.id ending.state (ending.error e.task) ending.result now with
  | ok r =>
    obtain ⟨j, tracker⟩ := r
    let closed : Pool := { p with tracker := tracker }
    obtain ⟨r, released, -⟩ := (closed.recordExecution j
      ⟨(now.nanos - e.startedAt.nanos).toNat⟩ now).release_eq e.task.connectorId
      (ending.pollOutcome e.task problem) now
    simp only [closed] at released
    simp only [released]
    exact ⟨rfl, rfl, rfl, rfl, rfl⟩
  | error problem' =>
    obtain ⟨r, released, -⟩ := p.release_eq e.task.connectorId .cancelled now
    simp only [released]
    exact ⟨rfl, rfl, rfl, rfl, rfl⟩

end Pool

end DeviceWatch
