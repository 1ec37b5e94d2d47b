import DeviceWatch.Proofs.Job.Lifecycle

/-!
# Which records are kept

History beyond the limit is dropped right after a job has ended, and it is dropped in the order in
which the jobs were submitted, not in the order in which they ended.  So the record of the job that
has just ended is kept if fewer jobs than the limit were submitted after it and have ended before.
Otherwise it is dropped at once, and nobody can look it up.
-/

namespace DeviceWatch

namespace Tracker

/-- How many of the jobs that were submitted after this one have ended. -/
def endedAfter (t : Tracker) (id : Uuid) : Nat :=
  (t.jobs.entries.dropWhile fun e => e.1 ≠ id).tail.countP fun e => e.2.state.isTerminal

variable {t t' : Tracker} {id : Uuid} {old j : Job} {now : Instant}
  {before after : List (Uuid × Job)}

theorem notMem_before (split : t.jobs.entries = before ++ (id, j) :: after) :
    ∀ e ∈ before, e.1 ≠ id := by
  have distinct := t.jobs.distinct
  rw [split, List.map_append, List.map_cons, List.nodup_append] at distinct
  intro e there
  exact distinct.2.2 e.1 (List.mem_map_of_mem there) id List.mem_cons_self

theorem endedAfter_eq (split : t.jobs.entries = before ++ (id, j) :: after) :
    t.endedAfter id = after.countP fun e => e.2.state.isTerminal := by
  have passed : ∀ e ∈ before, decide (e.1 ≠ id) = true := fun e there =>
    decide_eq_true (notMem_before split e there)
  have here : ((id, j) :: after).dropWhile (fun e => decide (e.1 ≠ id)) = (id, j) :: after :=
    List.dropWhile_cons_of_neg (by simp)
  rw [endedAfter, split, List.dropWhile_append_of_pos passed, here]
  rfl

theorem mem_oldestTerminal_iff (split : t.jobs.entries = before ++ (id, j) :: after)
    (ended : j.state.isTerminal = true) (excess : Nat) :
    id ∈ t.oldestTerminal excess ↔ before.countP (fun e => e.2.state.isTerminal) < excess := by
  let closed (l : List (Uuid × Job)) := l.filter fun e => e.2.state.isTerminal
  have listed : closed t.jobs.entries = closed before ++ (id, j) :: closed after := by
    simp only [closed, split, List.filter_append, List.filter_cons, ended, if_true]
  have others : ∀ e ∈ closed before, e.1 ≠ id := fun e there =>
    notMem_before split e (List.mem_filter.mp there).1
  rw [oldestTerminal, List.countP_eq_length_filter]
  change id ∈ ((closed t.jobs.entries).take excess).map Prod.fst ↔ (closed before).length < excess
  rw [listed, List.take_append]
  constructor
  · intro gone
    rcases Nat.lt_or_ge (closed before).length excess with few | enough
    · exact few
    · rw [Nat.sub_eq_zero_of_le enough, List.take_zero, List.append_nil] at gone
      obtain ⟨e, there, same⟩ := List.mem_map.mp gone
      exact absurd same (others e (List.mem_of_mem_take there))
  · intro few
    obtain ⟨more, rest⟩ : ∃ more, excess - (closed before).length = more + 1 :=
      ⟨excess - (closed before).length - 1, by omega⟩
    rw [rest, List.take_succ_cons]
    simp

theorem find?_prune (t : Tracker) (keep : Nat) (id : Uuid) :
    (t.prune keep).2.jobs.find? id =
      if id ∈ t.oldestTerminal (t.terminalCount - keep) then none else t.jobs.find? id := by
  have kept : (t.prune keep).2.jobs.find? id =
      (t.jobs.find? id).filter fun _ =>
        !(t.oldestTerminal (t.terminalCount - keep)).contains id :=
    OrderedMap.find?_filter t.jobs _ id
  rw [kept]
  by_cases gone : id ∈ t.oldestTerminal (t.terminalCount - keep) <;>
    cases t.jobs.find? id <;> simp [gone]

theorem terminalCount_split (split : t.jobs.entries = before ++ (id, j) :: after)
    (ended : j.state.isTerminal = true) :
    t.terminalCount = before.countP (fun e => e.2.state.isTerminal) + 1 + t.endedAfter id := by
  rw [endedAfter_eq split, terminalCount_eq, OrderedMap.values, List.countP_map, split,
    List.countP_append, List.countP_cons]
  simp only [Function.comp_def, ended, if_true]
  omega

/-- A record that has ended survives as long as fewer than `keep` of those submitted later have. -/
theorem observe_prune (found : t.jobs.find? id = some j) (ended : j.state.isTerminal = true)
    (keep : Nat) : (t.prune keep).2.observe id =
      if t.endedAfter id < keep then .ok j else .error (notFound id) := by
  obtain ⟨before, after, split, -⟩ := OrderedMap.exists_entries_split found
  have count := terminalCount_split split ended
  have goes : id ∈ t.oldestTerminal (t.terminalCount - keep) ↔ ¬ t.endedAfter id < keep := by
    rw [mem_oldestTerminal_iff split ended]
    omega
  rw [observe, find?_prune, found]
  by_cases few : t.endedAfter id < keep
  · rw [if_neg fun gone => goes.mp gone few, if_pos few]
  · rw [if_pos (goes.mpr few), if_neg few]

theorem endedAfter_publish (found : t.jobs.find? j.taskId = some old) (now : Instant) :
    (t.publish j now).endedAfter j.taskId = t.endedAfter j.taskId := by
  obtain ⟨before, after, split, replaced⟩ := OrderedMap.exists_entries_split found
  rw [endedAfter_eq (t := t.publish j now) (replaced j), endedAfter_eq split]

theorem observe_terminate (found : t.jobs.find? old.taskId = some old) {state : JobState}
    (ends : state.isTerminal = true) (error : Option String) (result : Option Json)
    (now : Instant) : (t.terminate old state error result now).2.observe old.taskId =
      if t.endedAfter old.taskId < t.historyLimit
      then .ok (terminated old state error result now) else .error (notFound old.taskId) := by
  let closed := terminated old state error result now
  have written : (t.publish closed now).jobs.find? closed.taskId = some closed := by
    rw [find?_publish, if_pos rfl]
  have unmoved : (t.publish closed now).endedAfter closed.taskId = t.endedAfter closed.taskId :=
    endedAfter_publish (j := closed) found now
  have kept := observe_prune written ends t.historyLimit
  rwa [unmoved] at kept

theorem keys_perform (ownIds : t.OwnIds) (o : Operation)
    (fresh : ∀ id, o.enqueued? = some id → t.feeds.find? id = none) :
    (t.perform o).2.jobs.keys.Sublist (t.jobs.keys ++ o.enqueued?.toList) := by
  have published {old new : Job} (stored : t.jobs.find? old.taskId = some old)
      (advance : old.Advance new) (now : Instant) : (t.publish new now).jobs.keys = t.jobs.keys := by
    rw [← advance.taskId] at stored
    exact (OrderedMap.keys_insert _ _ _).trans (if_pos (OrderedMap.mem_keys_iff.mpr ⟨_, stored⟩))
  have pruned (u : Tracker) (keep : Nat) : (u.prune keep).2.jobs.keys.Sublist u.jobs.keys :=
    List.filter_sublist.map _
  obtain ⟨written, change, wrote⟩ := perform_change ownIds o fresh
  have queued : ∀ j, written = some j → j.state = .queued → o.enqueued? = some j.taskId :=
    fun j w => (wrote j w).1
  clear wrote
  generalize (t.perform o).2 = t' at change
  cases change with
  | idle => exact List.sublist_append_left _ _
  | filed task now unused =>
    have submitted : o.enqueued? = some task.id := queued _ rfl rfl
    have filed : (t.enqueue task now).2.jobs.keys =
        if task.id ∈ t.jobs.keys then t.jobs.keys else t.jobs.keys ++ [task.id] :=
      OrderedMap.keys_insert _ _ _
    rw [filed, submitted]
    split
    · exact List.sublist_append_left _ _
    · exact .refl _
  | moved old new now stored advance live =>
    rw [published stored advance]
    exact List.sublist_append_left _ _
  | closed old new now stored advance ended =>
    have kept := pruned (t.publish new now) t.historyLimit
    rw [published stored advance] at kept
    exact kept.trans (List.sublist_append_left _ _)
  | dropped keep => exact (pruned t keep).trans (List.sublist_append_left _ _)

theorem Fresh.keys_run {operations : List Operation} (h : t.Fresh operations)
    (records : t.Records) :
    (t.run operations).jobs.keys.Sublist
      (t.jobs.keys ++ operations.filterMap (·.enqueued?)) := by
  induction operations generalizing t with
  | nil => exact List.sublist_append_left _ _
  | cons o rest ih =>
    have first := keys_perform records.ownIds o fun id submitted =>
      lastState_eq_none.mp (h.unknown id (by simp [submitted]))
    obtain ⟨⟨written, change, -⟩, fresh⟩ := h.step records
    have later := ih fresh (change.records records)
    have listed : (o :: rest).filterMap (·.enqueued?) =
        o.enqueued?.toList ++ rest.filterMap (·.enqueued?) := by
      rw [List.filterMap_cons]
      cases o.enqueued? <;> rfl
    rw [listed, ← List.append_assoc]
    exact later.trans (first.append_right _)

/-- Whoever ends a job in this state can look up its record right afterwards. -/
def ShowsEnds (t : Tracker) : Prop :=
  (∀ id state error result now j t', t.finish id state error result now = .ok (j, t') →
    t'.observe id = .ok j) ∧
  ∀ id now j t', t.cancelQueued id now = .ok (some j, t') → t'.observe id = .ok j

theorem finish_of_live (found : t.jobs.find? id = some j) (live : j.state.isTerminal = false)
    (now : Instant) : t.finish id .succeeded none none now =
      .ok (t.terminate j .succeeded none none now) := by
  simp only [finish, observe, found, live, bind, Except.bind]
  rfl

/-- In every state that operations lead to from an empty tracker, each task being submitted once:
the records stand in the order of submission; and when a job is finished, or cancelled while it is
queued, its record can be looked up right afterwards if and only if fewer jobs than the history
limit were submitted after it and had ended before.  So whoever ends a job finds its record if and
only if there is no job under way that so many later ones have overtaken. -/
theorem showsEnds_iff (limit : Nat) (operations : List Operation) (once : Once operations) :
    let t := (empty limit).run operations
    t.jobs.keys.Sublist (operations.filterMap (·.enqueued?)) ∧
    (∀ id state error result now j t', t.finish id state error result now = .ok (j, t') →
      j.taskId = id ∧ j.state = state ∧ state.isTerminal = true ∧
      t'.observe id = if t.endedAfter id < limit then .ok j else .error (notFound id)) ∧
    (∀ id now j t', t.cancelQueued id now = .ok (some j, t') →
      j.taskId = id ∧ j.state = .cancelled ∧
      t'.observe id = if t.endedAfter id < limit then .ok j else .error (notFound id)) ∧
    (t.ShowsEnds ↔
      ∀ id j, t.jobs.find? id = some j → j.state.isTerminal = false → t.endedAfter id < limit) := by
  intro t
  have fresh := fresh_empty once limit
  have start := sound_empty limit
  have records : t.Records := (fresh.sound start).toRecords
  have limited : t.historyLimit = limit := historyLimit_run fresh start.toRecords
  have finished (id state error result now j t')
      (done : t.finish id state error result now = .ok (j, t')) :
      j.taskId = id ∧ j.state = state ∧ state.isTerminal = true ∧
      t'.observe id = if t.endedAfter id < limit then .ok j else .error (notFound id) := by
    obtain ⟨old, found, rfl, -, ends, rfl, rfl⟩ := finish_eq records.ownIds done
    rw [← limited]
    exact ⟨rfl, rfl, ends, observe_terminate found ends error result now⟩
  have cancelled (id now j t') (done : t.cancelQueued id now = .ok (some j, t')) :
      j.taskId = id ∧ j.state = .cancelled ∧
      t'.observe id = if t.endedAfter id < limit then .ok j else .error (notFound id) := by
    rcases cancelQueued_eq records.ownIds done with ⟨nothing, -⟩ | ⟨old, found, rfl, -, same, rfl⟩
    · cases nothing
    · cases same
      rw [← limited]
      exact ⟨rfl, rfl, observe_terminate found rfl _ none now⟩
  refine ⟨fresh.keys_run start.toRecords, finished, cancelled, ?_, ?_⟩
  · intro shows id j found live
    have done := finish_of_live found live default
    obtain ⟨-, -, -, looked⟩ := finished _ _ _ _ _ _ _ done
    rw [shows.1 _ _ _ _ _ _ _ done] at looked
    by_cases few : t.endedAfter id < limit
    · exact few
    · rw [if_neg few] at looked
      cases looked
  · intro few
    constructor
    · intro id state error result now j t' done
      obtain ⟨old, found, -, live, -⟩ := finish_eq records.ownIds done
      obtain ⟨-, -, -, looked⟩ := finished _ _ _ _ _ _ _ done
      rw [looked, if_pos (few id old found live)]
    · intro id now j t' done
      obtain ⟨-, -, looked⟩ := cancelled _ _ _ _ done
      rcases cancelQueued_eq records.ownIds done with ⟨nothing, -⟩ | ⟨old, found, -, queued, -⟩
      · cases nothing
      · rw [looked, if_pos (few id old found (by rw [queued]; rfl))]

/-- With room for one record, the first of two tasks can be looked up after its end while the second
one is queued. -/
theorem showsEnds_oneQueued :
    let operations : List Operation :=
      [.enqueue (idleTask 1) default, .start ⟨1⟩ "worker-0" default, .enqueue (idleTask 2) default]
    let t := (empty 1).run operations
    Once operations ∧ ∃ j t', t.finish ⟨1⟩ .succeeded none none default = .ok (j, t') ∧
      t'.observe ⟨1⟩ = .ok j := by
  intro operations t
  have once : Once operations := by decide +kernel
  obtain ⟨-, finished, -⟩ := showsEnds_iff 1 operations once
  have done : ∃ j t', t.finish ⟨1⟩ .succeeded none none default = .ok (j, t') := ⟨_, _, rfl⟩
  obtain ⟨j, t', done⟩ := done
  obtain ⟨-, -, -, looked⟩ := finished _ _ _ _ _ _ _ done
  refine ⟨once, j, t', done, looked.trans (if_pos ?_)⟩
  decide +kernel

/-- Where one record is kept, a job that ends after a later one was cancelled is dropped at once. -/
theorem not_showsEnds_overtaken :
    Once runningAndCancelled ∧ ¬ ((empty 1).run runningAndCancelled).ShowsEnds := by
  refine ⟨by decide +kernel, fun shows => ?_⟩
  have dropped : ∃ j t',
      ((empty 1).run runningAndCancelled).finish ⟨1⟩ .succeeded none none default = .ok (j, t') ∧
        t'.observe ⟨1⟩ = .error (notFound ⟨1⟩) := ⟨_, _, rfl, rfl⟩
  obtain ⟨j, t', done, absent⟩ := dropped
  have found := shows.1 _ _ _ _ _ _ _ done
  rw [absent] at found
  cases found

end Tracker

end DeviceWatch
