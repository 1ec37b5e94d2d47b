import Mathlib.Data.List.Perm.Subperm
import DeviceWatch.Proofs.Pool.Books

/-!
# The accounts of a pool balance

Whatever is submitted, cancelled, started and ended, the meters say what the queue and the crew are,
every accepted task is taken once at most, and a record is queued or running only for a task that
waits or runs.
-/

namespace DeviceWatch

theorem OrderedMap.countP_values_le {κ α : Type} [DecidableEq κ] {m : OrderedMap κ α}
    {p : α → Bool} {ks : List κ} (listed : ∀ k v, m.find? k = some v → p v = true → k ∈ ks) :
    m.values.countP p ≤ ks.length := by
  let passing := m.entries.filter fun e => p e.2
  have distinct : (passing.map Prod.fst).Nodup :=
    m.distinct.sublist (List.filter_sublist.map _)
  have within : passing.map Prod.fst ⊆ ks := by
    intro k there
    obtain ⟨e, chosen, rfl⟩ := List.mem_map.mp there
    obtain ⟨stored, passes⟩ := List.mem_filter.mp chosen
    exact listed e.1 e.2 (find?_eq_some_iff.mpr stored) passes
  calc
    m.values.countP p = (passing.map Prod.fst).length := by
      simp [values, passing, List.countP_eq_length_filter, List.filter_map, Function.comp_def]
    _ ≤ ks.length := (distinct.subperm within).length_le

theorem JobCounts.foldl_add (js : List Job) (c : JobCounts) :
    (js.foldl (fun c j => c.add j.state) c).queued =
        c.queued + js.countP (·.state = .queued) ∧
      (js.foldl (fun c j => c.add j.state) c).running =
        c.running + js.countP (·.state = .running) := by
  induction js generalizing c with
  | nil => exact ⟨rfl, rfl⟩
  | cons j rest ih =>
    obtain ⟨queued, running⟩ := ih (c.add j.state)
    rw [List.foldl_cons, queued, running, List.countP_cons, List.countP_cons]
    cases j.state <;> simp [JobCounts.add] <;> omega

/-- A record is queued or running only if its task waits or runs. -/
structure Tracker.Manned (t : Tracker) (waiting working : List Uuid) : Prop where
  queued : ∀ {id j}, t.jobs.find? id = some j → j.state = .queued → id ∈ waiting
  running : ∀ {id j}, t.jobs.find? id = some j → j.state = .running → id ∈ working

namespace Tracker

variable {t t' : Tracker} {waiting waiting' working working' : List Uuid} {old new : Job}

theorem Manned.counts_le (h : t.Manned waiting working) :
    t.counts.queued ≤ waiting.length ∧ t.counts.running ≤ working.length := by
  obtain ⟨queued, running⟩ := JobCounts.foldl_add t.jobs.values {}
  constructor
  · rw [counts, queued, Nat.zero_add]
    apply OrderedMap.countP_values_le
    intro id j found isQueued
    exact h.queued found (of_decide_eq_true isQueued)
  · rw [counts, running, Nat.zero_add]
    apply OrderedMap.countP_values_le
    intro id j found isRunning
    exact h.running found (of_decide_eq_true isRunning)

theorem Retains.refl (t : Tracker) : t.Retains t := ⟨id, fun found _ => found, fun _ => rfl⟩

theorem Manned.retains (h : t.Manned waiting working) (retains : t.Retains t') :
    t'.Manned waiting working where
  queued := fun found => h.queued (retains.stored found)
  running := fun found => h.running (retains.stored found)

theorem Manned.moves (h : t.Manned waiting working) (moves : t.Moves t' old new)
    (waits : ∀ id ∈ waiting, id ∈ waiting' ∨ id = old.taskId)
    (works : ∀ id ∈ working, id ∈ working' ∨ id = old.taskId)
    (queued : new.state = .queued → old.taskId ∈ waiting')
    (running : new.state = .running → old.taskId ∈ working') : t'.Manned waiting' working' := by
  constructor
  · intro id j found isQueued
    have before := moves.changed found
    by_cases same : id = old.taskId
    · rw [if_pos same] at before
      exact same ▸ queued (before ▸ isQueued)
    · rw [if_neg same] at before
      exact (waits id (h.queued before isQueued)).resolve_right same
  · intro id j found isRunning
    have before := moves.changed found
    by_cases same : id = old.taskId
    · rw [if_pos same] at before
      exact same ▸ running (before ▸ isRunning)
    · rw [if_neg same] at before
      exact (works id (h.running before isRunning)).resolve_right same

theorem Manned.without (h : t.Manned waiting working) {k : Uuid}
    (waits : ∀ x ∈ waiting, x ∈ waiting' ∨ x = k) (works : ∀ x ∈ working, x ∈ working' ∨ x = k)
    (settled : ∀ j, t.jobs.find? k = some j → j.state ≠ .queued ∧
      (k ∉ working' → j.state ≠ .running)) : t.Manned waiting' working' := by
  constructor
  · intro x j found isQueued
    rcases waits x (h.queued found isQueued) with there | rfl
    · exact there
    · exact absurd isQueued (settled j found).1
  · intro x j found isRunning
    rcases works x (h.running found isRunning) with there | rfl
    · exact there
    · by_cases there : x ∈ working'
      · exact there
      · exact absurd isRunning ((settled j found).2 there)

theorem Manned.enqueue (h : t.Manned waiting working) (task : Task) (now : Instant) :
    (t.enqueue task now).2.Manned (waiting ++ [task.id]) working := by
  constructor
  · intro id j found isQueued
    rw [enqueue_find?] at found
    by_cases same : id = task.id
    · simp [same]
    · rw [if_neg same] at found
      exact List.mem_append_left _ (h.queued found isQueued)
  · intro id j found isRunning
    rw [enqueue_find?] at found
    by_cases same : id = task.id
    · rw [if_pos same] at found
      cases found
      cases isRunning
    · rw [if_neg same] at found
      exact h.running found isRunning

theorem Manned.finish (h : t.Manned waiting working) (ownIds : t.OwnIds) {task : Uuid}
    {state : JobState} {error : Option String} {result : Option Json} {now : Instant} {j : Job}
    (done : t.finish task state error result now = .ok (j, t'))
    (stays : ∀ id ∈ working, id ∈ working' ∨ id = task) : t'.Manned waiting working' := by
  obtain ⟨old, ownId, -, ended, moves⟩ := finish_eq_ok ownIds done
  apply h.moves moves (fun _ there => .inl there)
  · intro id there
    rw [ownId]
    exact stays id there
  · intro queued
    rw [queued] at ended
    cases ended
  · intro running
    rw [running] at ended
    cases ended

theorem Manned.finish_error (h : t.Manned waiting working) {task : Uuid} {state : JobState}
    {error : Option String} {result : Option Json} {now : Instant} {e : ServiceError}
    (terminal : state.isTerminal = true) (failed : t.finish task state error result now = .error e)
    (stays : ∀ id ∈ working, id ∈ working' ∨ id = task) : t.Manned waiting working' := by
  apply h.without (fun _ there => .inl there) stays
  intro j found
  have closed : j.state.isTerminal = true := by
    apply eq_true_of_ne_false
    intro live
    obtain ⟨r, could⟩ := exists_finish terminal found live error result now
    rw [failed] at could
    cases could
  constructor
  · intro queued
    rw [queued] at closed
    cases closed
  · intro _ running
    rw [running] at closed
    cases closed

/-- A queued job can be started. -/
theorem state_ne_of_start_eq_error {id : Uuid} {worker : String} {now : Instant} {e : ServiceError}
    {j : Job} (failed : t.start id worker now = .error e) (found : t.jobs.find? id = some j) :
    j.state ≠ .queued := by
  intro queued
  simp [start, observe, found, queued, bind, Except.bind, pure, Except.pure] at failed

end Tracker

namespace MeteredPool

structure Sound (workers : WorkerConfig) (s : MeteredPool) : Prop where
  config : s.pool.config = workers
  accepting : s.pool.stopped = false
  files : s.pool.tracker.Files s.accepted s.pool.queue
  manned : s.pool.tracker.Manned s.pool.waiting (s.pool.crew.map Prod.fst)
  books : Books workers s.accepted s.taken s.pool.waiting s.pool.crew s.meters

variable {workers : WorkerConfig} {s : MeteredPool}

theorem sound_initial (workers : WorkerConfig) (historyLimit : Nat) (dispatch : DispatchConfig) :
    (initial workers historyLimit dispatch).Sound workers where
  config := rfl
  accepting := rfl
  files := by constructor <;> simp [initial, Pool.new, Tracker.empty, Tracker.OwnIds]
  manned := by constructor <;> simp [initial, Pool.new, Tracker.empty]
  books := Books.initial workers

/-- Records that are dropped, or one that moves on without being queued or started, leave the books
as they are. -/
theorem Sound.keep (h : s.Sound workers) {p : Pool} (config : p.config = s.pool.config)
    (stopped : p.stopped = s.pool.stopped) (queue : p.queue = s.pool.queue)
    (crew : p.crew = s.pool.crew)
    (tracker : s.pool.tracker.Retains p.tracker ∨
      ∃ old new, s.pool.tracker.Moves p.tracker old new ∧
        (new.state = old.state ∨ new.state.isTerminal = true)) : (s.setPool p).Sound workers := by
  have waiting : p.waiting = s.pool.waiting := by rw [Pool.waiting, queue, Pool.waiting]
  refine ⟨config.trans h.config, stopped.trans h.accepting, ?_, ?_, ?_⟩
  · show p.tracker.Files s.accepted p.queue
    rw [queue]
    rcases tracker with retains | ⟨old, new, moves, -⟩
    · exact h.files.retains retains
    · exact h.files.moves moves
  · show p.tracker.Manned p.waiting (p.crew.map Prod.fst)
    rw [waiting, crew]
    rcases tracker with retains | ⟨old, new, moves, kind⟩
    · exact h.manned.retains retains
    · apply h.manned.moves moves (fun _ there => .inl there) (fun _ there => .inl there)
      · intro queued
        rw [queued] at kind
        exact h.manned.queued moves.stored (kind.resolve_right (by decide)).symm
      · intro running
        rw [running] at kind
        exact h.manned.running moves.stored (kind.resolve_right (by decide)).symm
  · show Books workers s.accepted s.taken p.waiting p.crew s.meters
    rw [waiting, crew]
    exact h.books

theorem Sound.cancel (h : s.Sound workers) (task : Uuid) (now : Instant) :
    (s.setPool (s.pool.cancel task now).2).Sound workers := by
  obtain ⟨config, stopped, queue, crew, tracker⟩ := s.pool.cancel_frame task now
  apply h.keep config stopped queue crew
  rcases tracker with same | ⟨j, done⟩
  · rw [same]
    exact .inl (.refl _)
  · rcases Tracker.cancelQueued_eq_ok h.files.ownIds done with ⟨nothing, -⟩ |
      ⟨old, new, -, -, -, ended, moves⟩
    · cases nothing
    · exact .inr ⟨old, new, moves, .inr ended⟩

theorem Sound.report (h : s.Sound workers) (task : Uuid) (r : ProgressReport) (now : Instant) :
    (s.setPool { s.pool with tracker := s.pool.tracker.report task r now }).Sound workers := by
  refine h.keep (p := { s.pool with tracker := s.pool.tracker.report task r now }) rfl rfl rfl rfl ?_
  rcases Tracker.report_eq h.files.ownIds task r now with same | ⟨old, new, state, moves⟩
  · rw [same]
    exact .inl (.refl _)
  · exact .inr ⟨old, new, moves, .inl state⟩

/-- A task is refused just when the queue is full. -/
theorem Sound.submit_eq (h : s.Sound workers) (t : Task) (now : Instant) :
    s.pool.submit t now =
      if s.pool.waiting.length = workers.queueBound then
        (.error (.backpressure s.pool.reserved workers.queueBound),
          { s.pool with metrics := s.pool.metrics.recordBackpressure })
      else
        (.ok (t.toJob now), { s.pool with
          tracker := (s.pool.tracker.enqueue t now).2
          queue := s.pool.queue ++ [t] }) := by
  have bounded := h.books.bounded
  have reserved := s.pool.reserved_eq
  have bound : s.pool.config.queueBound = workers.queueBound := congrArg _ h.config
  have open' : ¬s.pool.stopped = true := by simp [h.accepting]
  unfold Pool.submit
  rw [if_neg open', bound]
  by_cases full : s.pool.waiting.length = workers.queueBound
  · rw [if_pos full, if_pos (by omega)]
  · rw [if_neg full, if_neg (by omega)]
    rfl

theorem Sound.submit (h : s.Sound workers) (t : Task) (now : Instant) :
    (s.submit t now).Sound workers := by
  unfold MeteredPool.submit
  by_cases known : s.accepted.contains t.id = true
  · rw [if_pos known]
    exact h
  · rw [if_neg known, h.submit_eq t now]
    have unused : t.id ∉ s.accepted := by simpa using known
    by_cases full : s.pool.waiting.length = workers.queueBound
    · rw [if_pos full]
      exact h.keep rfl rfl rfl rfl (.inl (.refl _))
    · rw [if_neg full]
      have room : s.pool.waiting.length < workers.queueBound :=
        Nat.lt_of_le_of_ne h.books.bounded full
      have waiting : (s.pool.queue ++ [t]).map (·.id) = s.pool.waiting ++ [t.id] := by
        simp [Pool.waiting]
      refine ⟨h.config, h.accepting, h.files.enqueue unused now, ?_, ?_⟩
      · show Tracker.Manned _ ((s.pool.queue ++ [t]).map (·.id)) _
        rw [waiting]
        exact h.manned.enqueue t now
      · show Books workers (t.id :: s.accepted) s.taken ((s.pool.queue ++ [t]).map (·.id))
          s.pool.crew (s.meters.accept t.id)
        rw [waiting]
        exact h.books.accept unused room

theorem Sound.take (h : s.Sound workers) {i : Nat} {t : Task} (here : s.pool.queue[i]? = some t)
    (worker : Nat) (course : Course) (now : Instant) :
    (s.take i t worker course now).Sound workers := by
  have waits : s.pool.waiting[i]? = some t.id := by simp [Pool.waiting, here]
  have left : (s.pool.queue.eraseIdx i).map (·.id) = s.pool.waiting.eraseIdx i := by
    simp [Pool.waiting, List.eraseIdx_map]
  have files := h.files.dequeue fun x there => List.mem_of_mem_eraseIdx (i := i) there
  unfold MeteredPool.take
  split
  · rename_i able
    obtain ⟨known, room⟩ := able
    rw [h.config] at known
    unfold Pool.take
    cases started : s.pool.tracker.start t.id (Pool.workerName worker) now with
    | ok r =>
      obtain ⟨j, tracker⟩ := r
      let e : Execution := { task := t, worker := worker, startedAt := now, course := course }
      have crew : (s.pool.running ++ [e]).map (fun e => (e.task.id, e.worker)) =
          s.pool.crew ++ [(t.id, worker)] := by simp [Pool.crew, e]
      obtain ⟨old, ownId, queued, running, moves⟩ := Tracker.start_eq_ok h.files.ownIds started
      simp only [started]
      refine ⟨h.config, h.accepting, files.moves moves, ?_, ?_⟩
      · show tracker.Manned ((s.pool.queue.eraseIdx i).map (·.id))
          (((s.pool.running ++ [e]).map fun e => (e.task.id, e.worker)).map Prod.fst)
        rw [left, crew, List.map_append]
        apply h.manned.moves moves
        · intro id there
          rw [ownId]
          exact mem_eraseIdx_or_eq waits there
        · exact fun id there => .inl (List.mem_append_left _ there)
        · intro waitsAgain
          rw [running] at waitsAgain
          cases waitsAgain
        · intro _
          simp [ownId]
      · show Books workers s.accepted (t.id :: s.taken) ((s.pool.queue.eraseIdx i).map (·.id))
          ((s.pool.running ++ [e]).map fun e => (e.task.id, e.worker)) (s.meters.begin worker)
        rw [left, crew]
        exact h.books.begin waits known room
    | error problem =>
      simp only [started]
      refine ⟨h.config, h.accepting, files, ?_, ?_⟩
      · show s.pool.tracker.Manned ((s.pool.queue.eraseIdx i).map (·.id)) _
        rw [left]
        apply h.manned.without (k := t.id) (fun x there => mem_eraseIdx_or_eq waits there)
          (fun x there => .inl there)
        intro j found
        refine ⟨Tracker.state_ne_of_start_eq_error started found, ?_⟩
        intro absent running
        exact absent (h.manned.running found running)
      · show Books workers s.accepted (t.id :: s.taken) ((s.pool.queue.eraseIdx i).map (·.id))
          s.pool.crew (s.meters.pass t.id)
        rw [left]
        exact h.books.pass waits
  · exact h

theorem Sound.conclude (h : s.Sound workers) {i : Nat} {e : Execution}
    (here : s.pool.running[i]? = some e) (ending : Ending) (problem : Option String)
    (now : Instant) : (s.conclude e ending problem now).Sound workers := by
  obtain ⟨config, stopped, queue, running, tracker⟩ :=
    s.pool.conclude_frame e ending problem now
  let p := s.pool.conclude e ending problem now
  have works : s.pool.crew[i]? = some (e.task.id, e.worker) := by simp [Pool.crew, here]
  have places : (s.pool.running.map (·.task.id)).Nodup := by
    have places := h.books.places
    rwa [Pool.crew, List.map_map] at places
  have waiting : p.waiting = s.pool.waiting := by rw [Pool.waiting, queue, Pool.waiting]
  have crew : p.crew = s.pool.crew.eraseIdx i := by
    rw [Pool.crew, running, filter_ne_eq_eraseIdx places here, Pool.crew, List.eraseIdx_map]
  have stays {id : Uuid} (there : id ∈ s.pool.crew.map Prod.fst) :
      id ∈ (s.pool.crew.eraseIdx i).map Prod.fst ∨ id = e.task.id := by
    obtain ⟨place, taken, rfl⟩ := List.mem_map.mp there
    rcases mem_eraseIdx_or_eq works taken with other | own
    · exact .inl (List.mem_map_of_mem other)
    · exact .inr (congrArg Prod.fst own)
  have records : p.tracker.Files s.accepted p.queue ∧
      p.tracker.Manned s.pool.waiting ((s.pool.crew.eraseIdx i).map Prod.fst) := by
    rw [queue]
    cases done : s.pool.tracker.finish e.task.id ending.state (ending.error e.task) ending.result
        now with
    | ok r =>
      simp only [done] at tracker
      rw [tracker]
      obtain ⟨old, -, -, -, moves⟩ := Tracker.finish_eq_ok h.files.ownIds done
      exact ⟨h.files.moves moves, h.manned.finish h.files.ownIds done fun _ => stays⟩
    | error failed =>
      simp only [done] at tracker
      rw [tracker]
      refine ⟨h.files, ?_⟩
      exact h.manned.finish_error ending.isTerminal_state done fun _ => stays
  refine ⟨config.trans h.config, stopped.trans h.accepting, records.1, ?_, ?_⟩
  · show p.tracker.Manned p.waiting (p.crew.map Prod.fst)
    rw [waiting, crew]
    exact records.2
  · show Books workers s.accepted s.taken p.waiting p.crew (s.meters.leave e.task.id e.worker)
    rw [waiting, crew]
    exact h.books.leave works

theorem Sound.step (h : s.Sound workers) (event : PoolEvent) : (s.step event).Sound workers := by
  cases event with
  | submit t now => exact h.submit t now
  | cancel task now => exact h.cancel task now
  | take i worker course now =>
    cases here : s.pool.queue[i]? with
    | none => simpa [MeteredPool.step, here] using h
    | some t => simpa [MeteredPool.step, here] using h.take here worker course now
  | conclude i ending problem now =>
    cases here : s.pool.running[i]? with
    | none => simpa [MeteredPool.step, here] using h
    | some e => simpa [MeteredPool.step, here] using h.conclude here ending problem now
  | report task r now => exact h.report task r now
  | prune keep => exact h.keep rfl rfl rfl rfl (.inl (s.pool.tracker.prune_retains keep))
  | configure r => exact h.keep rfl rfl rfl rfl (.inl (.refl _))
  | limit limiter => exact h.keep rfl rfl rfl rfl (.inl (.refl _))

theorem Sound.run (h : s.Sound workers) (events : List PoolEvent) : (s.run events).Sound workers := by
  induction events generalizing s with
  | nil => exact h
  | cons event rest ih => exact ih (h.step event)

theorem take_pool {t : Task} {worker : Nat} (known : worker < s.pool.config.workerCount)
    (room : 0 < s.meters.permits worker) (i : Nat) (course : Course) (now : Instant) :
    (s.take i t worker course now).pool = (s.pool.take i t worker course now).2 := by
  unfold MeteredPool.take
  rw [if_pos ⟨known, room⟩]
  split <;> rename_i taken <;> rw [taken] <;> rfl

theorem Sound.exists_run_turn (h : s.Sound workers) {course : Task → Course} {now : Instant}
    {p : Pool}
    (turned : s.pool.turn course now = .passed p ∨ ∃ e, s.pool.turn course now = .started e p) :
    ∃ events, (s.run events).pool = p := by
  obtain ⟨t, w, limiter, here, known, room, taken⟩ := Pool.exists_take_of_turn turned
  have spare : 0 < s.meters.permits w := by
    have permits := h.books.permits w
    rw [h.books.running w, ← s.pool.load_eq w] at permits
    rw [h.config] at room
    omega
  let limited := s.setPool { s.pool with limiter := limiter }
  refine ⟨[.limit limiter, .take 0 w (course t) now], ?_⟩
  calc
    (limited.step (.take 0 w (course t) now)).pool
      = (limited.take 0 t w (course t) now).pool := by
        have first : limited.pool.queue[0]? = some t := here
        simp only [MeteredPool.step, first, Option.elim_some]
    _ = (limited.pool.take 0 t w (course t) now).2 :=
        take_pool (s := limited) known spare 0 (course t) now
    _ = p := taken

theorem exists_step_conclude {v : Service} (same : s.pool = v.pool) {i : Nat} {e : Execution}
    (here : v.pool.running[i]? = some e) (ending : Ending) (now : Instant) :
    ∃ problem, (s.step (.conclude i ending problem now)).pool = (v.conclude e ending now).pool := by
  obtain ⟨problem, concluded⟩ := Pool.exists_conclude v e ending now
  refine ⟨problem, ?_⟩
  rw [concluded, ← same]
  rw [← same] at here
  simp only [MeteredPool.step, here, Option.elim_some]
  rfl

theorem step_submit_pool {d : Dispatcher} (same : s.pool = d.pool)
    (unused : d.ids.draw.1 ∉ s.accepted) (kind : JobKind) (payload : Payload) (now : Instant) :
    (s.step (.submit ⟨d.ids.draw.1, kind, payload⟩ now)).pool =
      (d.submit kind payload now).2.pool := by
  have fresh : ¬s.accepted.contains d.ids.draw.1 = true := by simpa using unused
  simp only [MeteredPool.step, MeteredPool.submit, if_neg fresh, same]
  show _ = (d.pool.submit ⟨d.ids.draw.1, kind, payload⟩ now).2
  split <;> rename_i done <;> rw [done] <;> rfl

/-- In every state of a pool: no worker runs more than it may, and together they run what is active.
What is queued are the accepted tasks that no worker has taken, and they fit the bound.  No more
records are queued or running than the meters say.  No task is taken twice.  A submission is answered
with backpressure just when the queue is full, and it then changes nothing but the count of such
answers.  The status of the pool shows the meters. -/
theorem accounts_balance (workers : WorkerConfig) (historyLimit : Nat) (dispatch : DispatchConfig)
    (events : List PoolEvent) :
    let s := (initial workers historyLimit dispatch).run events
    (∀ w, s.meters.running w ≤ workers.workerConcurrency) ∧
      s.meters.active = ((List.range workers.workerCount).map s.meters.running).sum ∧
      s.meters.active ≤ workers.workerCount * workers.workerConcurrency ∧
      s.meters.queued = (s.accepted.filter fun id => !s.taken.contains id).length ∧
      s.meters.queued ≤ workers.queueBound ∧
      s.pool.tracker.counts.queued ≤ s.meters.queued ∧
      s.pool.tracker.counts.running ≤ s.meters.active ∧
      s.taken.Nodup ∧ (∀ id ∈ s.taken, id ∈ s.accepted) ∧
      (∀ t now,
        ((∃ queued bound, (s.pool.submit t now).1 = .error (.backpressure queued bound)) ↔
          s.meters.queued = workers.queueBound) ∧
        (s.meters.queued = workers.queueBound →
          (s.pool.submit t now).2 =
              { s.pool with metrics := s.pool.metrics.recordBackpressure } ∧
            (s.step (.submit t now)).meters = s.meters)) ∧
      s.pool.reserved = s.meters.queued ∧ s.pool.active = s.meters.active ∧
      ∀ w, s.pool.load w = s.meters.running w := by
  intro s
  have sound : s.Sound workers := (sound_initial workers historyLimit dispatch).run events
  have books := sound.books
  obtain ⟨queued, running⟩ := sound.manned.counts_le
  have waiting := books.queued
  have active := books.active
  have bounded := books.bounded
  have takenOnce := List.nodup_append.mp (books.handled.nodup_iff.mp books.distinct)
  rw [List.length_map] at running
  refine ⟨books.running_le, books.active_eq_sum, ?_, ?_, by omega, by omega, by omega, takenOnce.1,
    ?_, ?_, ?_, ?_, ?_⟩
  · rw [books.active_eq_sum]
    exact sum_range_le books.running_le workers.workerCount
  · rw [books.length_untaken]
    exact waiting
  · intro id there
    exact books.handled.mem_iff.mpr (List.mem_append_left _ there)
  · intro t now
    rw [sound.submit_eq t now, waiting]
    by_cases full : s.pool.waiting.length = workers.queueBound
    · rw [if_pos full]
      refine ⟨⟨fun _ => by omega, fun _ => ⟨_, _, rfl⟩⟩, fun _ => ⟨rfl, ?_⟩⟩
      simp only [MeteredPool.step, MeteredPool.submit, sound.submit_eq t now, if_pos full]
      split <;> rfl
    · rw [if_neg full]
      refine ⟨⟨?_, fun same => absurd (by omega) full⟩, fun same => absurd (by omega) full⟩
      rintro ⟨queued, bound, refused⟩
      cases refused
  · rw [s.pool.reserved_eq, waiting]
  · rw [s.pool.active_eq, active]
  · intro w
    rw [s.pool.load_eq, books.running w]

end MeteredPool

end DeviceWatch
