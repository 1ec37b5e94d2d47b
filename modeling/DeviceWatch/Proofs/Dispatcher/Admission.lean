import DeviceWatch.Proofs.Schedule.Ticks

/-!
# Tasks that the queue takes

The tasks that a dispatcher has submitted since an earlier state are at the end of the queue, and
each has a record of its own after all that were there, since its identifier was not drawn before.
The queue takes as many as it has room for.
-/

namespace DeviceWatch

namespace Tracker

def enqueueAll (t : Tracker) (tasks : List Task) (now : Instant) : Tracker :=
  tasks.foldl (fun t task => (t.enqueue task now).2) t

theorem enqueueAll_append (t : Tracker) (first second : List Task) (now : Instant) :
    t.enqueueAll (first ++ second) now = (t.enqueueAll first now).enqueueAll second now :=
  List.foldl_append

theorem entries_enqueueAll {t : Tracker} {tasks : List Task} (now : Instant)
    (distinct : (tasks.map (·.id)).Nodup)
    (absent : ∀ task ∈ tasks, t.jobs.find? task.id = none) :
    (t.enqueueAll tasks now).jobs.entries =
      t.jobs.entries ++ tasks.map fun task => (task.id, task.toJob now) := by
  induction tasks generalizing t with
  | nil => exact (List.append_nil _).symm
  | cons task rest ih =>
    obtain ⟨first, distinct⟩ := List.nodup_cons.mp distinct
    have filed : (t.enqueue task now).2.jobs.entries =
        t.jobs.entries ++ [(task.id, task.toJob now)] :=
      OrderedMap.entries_insert_of_absent (absent task List.mem_cons_self) _
    have later (other : Task) (there : other ∈ rest) :
        (t.enqueue task now).2.jobs.find? other.id = none := by
      have differ : other.id ≠ task.id := fun same =>
        first (List.mem_map.mpr ⟨other, there, same⟩)
      rw [enqueue_find?, if_neg differ]
      exact absent other (.tail _ there)
    calc
      ((t.enqueue task now).2.enqueueAll rest now).jobs.entries
        = (t.enqueue task now).2.jobs.entries ++ rest.map fun x => (x.id, x.toJob now) :=
          ih distinct later
      _ = _ := by rw [filed, List.append_assoc, List.singleton_append, List.map_cons]

theorem find?_enqueueAll {t : Tracker} {tasks : List Task} {id : Uuid} (now : Instant)
    (other : id ∉ tasks.map (·.id)) :
    (t.enqueueAll tasks now).jobs.find? id = t.jobs.find? id := by
  induction tasks generalizing t with
  | nil => rfl
  | cons task rest ih =>
    rw [List.map_cons, List.mem_cons, not_or] at other
    have kept := enqueue_find? t task now id
    rw [if_neg other.1] at kept
    exact (ih other.2).trans kept

end Tracker

namespace Dispatcher

variable {d d' d'' : Dispatcher} {tasks more : List Task} {now : Instant}

def room (d : Dispatcher) : Nat := d.pool.config.queueBound - d.pool.reserved

theorem accepts_iff (working : d.pool.stopped = false) : d.Accepts ↔ 0 < d.room := by
  rw [Accepts, room, Nat.sub_pos_iff_lt]
  exact and_iff_right working

theorem submit_of_accepts (accepts : d.Accepts) (kind : JobKind) (payload : Payload)
    (now : Instant) :
    let task : Task := ⟨d.ids.draw.1, kind, payload⟩
    d.submit kind payload now = (.ok (task.toJob now), { d with
      pool := { d.pool with
        tracker := (d.tracker.enqueue task now).2
        queue := d.pool.queue ++ [task] }
      ids := d.ids.draw.2 }) := by
  intro task
  simp only [submit, Pool.submit, accepts.1, Bool.false_eq_true, if_false,
    if_neg (Nat.not_le.mpr accepts.2)]
  rfl

theorem submit_of_full (working : d.pool.stopped = false) (full : ¬d.Accepts) (kind : JobKind)
    (payload : Payload) (now : Instant) :
    d.submit kind payload now =
      (.error (.backpressure d.pool.reserved d.pool.config.queueBound), { d with
        pool := { d.pool with metrics := d.pool.metrics.recordBackpressure }
        ids := d.ids.draw.2 }) := by
  have bound : d.pool.config.queueBound ≤ d.pool.reserved :=
    Nat.le_of_not_lt fun fits => full ⟨working, fits⟩
  simp only [submit, Pool.submit, working, Bool.false_eq_true, if_false, if_pos bound]

theorem submit_registry (d : Dispatcher) (kind : JobKind) (payload : Payload) (now : Instant) :
    (d.submit kind payload now).2.registry = d.registry := by
  show (d.pool.submit ⟨d.ids.draw.1, kind, payload⟩ now).2.registry = d.pool.registry
  unfold Pool.submit
  split
  · rfl
  · split <;> rfl

/-- The queue has taken the tasks, in this order, and nothing else. -/
structure Admits (d d' : Dispatcher) (tasks : List Task) (now : Instant) : Prop where
  tracker : d'.tracker = d.tracker.enqueueAll tasks now
  queue : d'.pool.queue = d.pool.queue ++ tasks
  config : d'.pool.config = d.pool.config
  limiter : d'.pool.limiter = d.pool.limiter
  running : d'.pool.running = d.pool.running
  stopped : d'.pool.stopped = d.pool.stopped
  drawn : ∃ k, d'.ids.drawn = d.ids.drawn + k ∧
    (tasks.map (·.id)).Sublist ((List.range' d.ids.drawn k).map IdSupply.nth)

def Fresh (d : Dispatcher) : Prop :=
  ∀ n, d.ids.drawn ≤ n → d.tracker.jobs.find? (IdSupply.nth n) = none

theorem admits_nothing (d : Dispatcher) (now : Instant) : d.Admits d [] now where
  tracker := rfl
  queue := (List.append_nil _).symm
  config := rfl
  limiter := rfl
  running := rfl
  stopped := rfl
  drawn := ⟨0, rfl, List.nil_sublist _⟩

theorem admits_of_accepts (accepts : d.Accepts) (kind : JobKind) (payload : Payload)
    (now : Instant) :
    d.Admits (d.submit kind payload now).2 [⟨d.ids.draw.1, kind, payload⟩] now := by
  rw [submit_of_accepts accepts kind payload now]
  exact ⟨rfl, rfl, rfl, rfl, rfl, rfl, 1, rfl, List.Sublist.refl _⟩

theorem admits_of_full (working : d.pool.stopped = false) (full : ¬d.Accepts) (kind : JobKind)
    (payload : Payload) (now : Instant) :
    d.Admits (d.submit kind payload now).2 [] now := by
  rw [submit_of_full working full kind payload now]
  exact ⟨rfl, (List.append_nil _).symm, rfl, rfl, rfl, rfl, 1, rfl, List.nil_sublist _⟩

namespace Admits

theorem trans (first : d.Admits d' tasks now) (second : d'.Admits d'' more now) :
    d.Admits d'' (tasks ++ more) now where
  tracker := by rw [second.tracker, first.tracker, Tracker.enqueueAll_append]
  queue := by rw [second.queue, first.queue, List.append_assoc]
  config := second.config.trans first.config
  limiter := second.limiter.trans first.limiter
  running := second.running.trans first.running
  stopped := second.stopped.trans first.stopped
  drawn := by
    obtain ⟨k, drawn, ids⟩ := first.drawn
    obtain ⟨k', drawn', ids'⟩ := second.drawn
    refine ⟨k + k', by omega, ?_⟩
    rw [drawn] at ids'
    rw [List.map_append, ← List.range'_append_1, List.map_append]
    exact ids.append ids'

theorem from_setRegistry {r : Registry} (h : (d.setRegistry r).Admits d' tasks now) :
    d.Admits d' tasks now :=
  ⟨h.tracker, h.queue, h.config, h.limiter, h.running, h.stopped, h.drawn⟩

theorem setRegistry (h : d.Admits d' tasks now) (r : Registry) :
    d.Admits (d'.setRegistry r) tasks now :=
  ⟨h.tracker, h.queue, h.config, h.limiter, h.running, h.stopped, h.drawn⟩

theorem recordTrigger (h : d.Admits d' tasks now) (name : String) (at' : Instant) :
    d.Admits (d'.recordTrigger name at') tasks now :=
  ⟨h.tracker, h.queue, h.config, h.limiter, h.running, h.stopped, h.drawn⟩

theorem reserved (h : d.Admits d' tasks now) :
    d'.pool.reserved = d.pool.reserved + tasks.length := by
  rw [Pool.reserved, h.queue, List.length_append]
  rfl

theorem room (h : d.Admits d' tasks now) : d'.room = d.room - tasks.length := by
  rw [Dispatcher.room, h.config, h.reserved, ← Nat.sub_sub]
  rfl

theorem mem_ids {id : Uuid} (h : d.Admits d' tasks now) (there : id ∈ tasks.map (·.id)) :
    ∃ n, d.ids.drawn ≤ n ∧ n < d'.ids.drawn ∧ id = IdSupply.nth n := by
  obtain ⟨k, drawn, ids⟩ := h.drawn
  obtain ⟨n, within, rfl⟩ := List.mem_map.mp (ids.subset there)
  have bounds := List.mem_range'_1.mp within
  exact ⟨n, bounds.1, by omega, rfl⟩

theorem distinct (h : d.Admits d' tasks now) : (tasks.map (·.id)).Nodup := by
  obtain ⟨k, -, ids⟩ := h.drawn
  refine List.Nodup.sublist ids ?_
  have numbers : (List.range' d.ids.drawn k).Nodup := List.nodup_range'
  exact List.Pairwise.map IdSupply.nth (fun _ _ differ same => PollTraffic.nth_ne differ same)
    numbers

theorem entries (h : d.Admits d' tasks now) (fresh : d.Fresh) :
    d'.tracker.jobs.entries =
      d.tracker.jobs.entries ++ tasks.map fun task => (task.id, task.toJob now) := by
  rw [h.tracker]
  refine Tracker.entries_enqueueAll now h.distinct fun task there => ?_
  obtain ⟨n, later, -, named⟩ := h.mem_ids (List.mem_map_of_mem there)
  rw [named]
  exact fresh n later

theorem fresh (h : d.Admits d' tasks now) (fresh : d.Fresh) : d'.Fresh := by
  intro n later
  obtain ⟨k, drawn, -⟩ := h.drawn
  rw [h.tracker, Tracker.find?_enqueueAll]
  · exact fresh n (by omega)
  · intro there
    obtain ⟨m, -, before, same⟩ := h.mem_ids there
    exact PollTraffic.nth_ne (Nat.ne_of_gt (Nat.lt_of_lt_of_le before later)) same

/-- What is active are the tasks that were and the new ones. -/
theorem isActive (h : d.Admits d' tasks now) (fresh : d.Fresh) (name : String) :
    d'.tracker.isActive name =
      (d.tracker.isActive name || tasks.any fun task => task.jobName == name) := by
  have values : d'.tracker.jobs.values = d.tracker.jobs.values ++ tasks.map (·.toJob now) := by
    simp only [OrderedMap.values, h.entries fresh, List.map_append, List.map_map,
      Function.comp_def]
  simp only [Tracker.isActive, values, List.any_append, List.any_map, Function.comp_def]
  simp [Task.toJob, JobState.isTerminal]

end Admits

end Dispatcher

/-- In sound traffic no record has an identifier that the dispatcher has not drawn. -/
theorem PollTraffic.Stands.fresh_records {s : PollTraffic} {d : Dispatcher} (h : s.Stands d)
    (sound : s.Sound) : d.Fresh := by
  intro n later
  have files := sound.files
  rw [h.pool] at files
  exact files.fresh (h.fresh n later)

end DeviceWatch
