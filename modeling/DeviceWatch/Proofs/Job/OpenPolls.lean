import DeviceWatch.Proofs.Job.Changes

/-!
# The polls that a tracker holds open

Every operation of the tracker adds a record, moves one record on, or drops records that have
ended.  A record keeps its task and its connector, so the polls of a connector that are queued or
running change with the state of the one record that moves.
-/

namespace DeviceWatch

def Job.isOpenPoll (j : Job) (connectorId : String) : Bool :=
  j.connectorId = some connectorId && !j.state.isTerminal

theorem Job.isOpenPoll_of_ended {j : Job} (ended : j.state.isTerminal = true)
    (connectorId : String) : j.isOpenPoll connectorId = false := by
  simp [Job.isOpenPoll, ended]

namespace Tracker

def openPolls (t : Tracker) (connectorId : String) : List Job :=
  t.jobs.values.filter (·.isOpenPoll connectorId)

theorem length_openPolls (t : Tracker) (connectorId : String) :
    (t.openPolls connectorId).length = t.jobs.values.countP (·.isOpenPoll connectorId) :=
  List.countP_eq_length_filter.symm

/-- Nothing but records that have ended is dropped. -/
structure Retains (t t' : Tracker) : Prop where
  stored : ∀ {id j}, t'.jobs.find? id = some j → t.jobs.find? id = some j
  live : ∀ {id j}, t.jobs.find? id = some j → j.state.isTerminal = false →
    t'.jobs.find? id = some j
  openPolls : ∀ c, (t'.openPolls c).length = (t.openPolls c).length

theorem isTerminal_of_mem_oldestTerminal {t : Tracker} {excess : Nat} {id : Uuid} {j : Job}
    (gone : id ∈ t.oldestTerminal excess) (found : t.jobs.find? id = some j) :
    j.state.isTerminal = true := by
  obtain ⟨e, taken, rfl⟩ := List.mem_map.mp gone
  obtain ⟨there, ended⟩ := List.mem_filter.mp (List.mem_of_mem_take taken)
  have stored : t.jobs.find? e.1 = some e.2 := OrderedMap.find?_eq_some_iff.mpr there
  rw [found] at stored
  cases stored
  exact ended

theorem prune_retains (t : Tracker) (keep : Nat) : t.Retains (t.prune keep).2 := by
  have kept {id : Uuid} {j : Job} (found : t.jobs.find? id = some j)
      (unfinished : j.state.isTerminal = false) :
      (!(t.oldestTerminal (t.terminalCount - keep)).contains id) = true := by
    rw [Bool.not_eq_true', ← Bool.not_eq_true, List.contains_iff_mem]
    intro gone
    simp [isTerminal_of_mem_oldestTerminal gone found] at unfinished
  constructor
  · intro id j found
    simp only [prune, OrderedMap.find?_filter, Option.filter_eq_some_iff] at found
    exact found.1
  · intro id j found unfinished
    simp only [prune, OrderedMap.find?_filter, Option.filter_eq_some_iff]
    exact ⟨found, kept found unfinished⟩
  · intro c
    rw [length_openPolls, length_openPolls]
    refine OrderedMap.countP_values_filter fun id j found isOpen => kept found ?_
    simp only [Job.isOpenPoll, Bool.and_eq_true, Bool.not_eq_true'] at isOpen
    exact isOpen.2

/-- One record changes and keeps its task and its connector; others change only in that records that
have ended may be dropped. -/
structure Moves (t t' : Tracker) (old new : Job) : Prop where
  stored : t.jobs.find? old.taskId = some old
  sameTask : new.taskId = old.taskId
  sameConnector : new.connectorId = old.connectorId
  changed : ∀ {id j}, t'.jobs.find? id = some j →
    if id = old.taskId then j = new else t.jobs.find? id = some j
  moved : new.state.isTerminal = false → t'.jobs.find? old.taskId = some new
  live : ∀ {id j}, id ≠ old.taskId → t.jobs.find? id = some j → j.state.isTerminal = false →
    t'.jobs.find? id = some j
  openPolls : ∀ c, (t'.openPolls c).length + (if old.isOpenPoll c then 1 else 0) =
    (t.openPolls c).length + (if new.isOpenPoll c then 1 else 0)

theorem publish_moves {t : Tracker} {old : Job} (stored : t.jobs.find? old.taskId = some old)
    (new : Job) (sameTask : new.taskId = old.taskId)
    (sameConnector : new.connectorId = old.connectorId) (now : Instant) :
    t.Moves (t.publish new now) old new := by
  have found (id : Uuid) : (t.publish new now).jobs.find? id =
      if id = old.taskId then some new else t.jobs.find? id := by
    rw [← sameTask]
    exact OrderedMap.find?_insert t.jobs new.taskId id new
  refine ⟨stored, sameTask, sameConnector, ?_, ?_, ?_, ?_⟩
  · intro id j present
    rw [found] at present
    split
    · rename_i same
      rw [if_pos same] at present
      exact (Option.some.inj present).symm
    · rename_i differ
      rwa [if_neg differ] at present
  · intro _
    rw [found, if_pos rfl]
  · intro id j differ present _
    rw [found, if_neg differ, present]
  · intro c
    rw [length_openPolls, length_openPolls]
    rw [← sameTask] at stored
    exact OrderedMap.countP_values_insert stored _ new

theorem Moves.retain {t t' t'' : Tracker} {old new : Job} (h : t.Moves t' old new)
    (retains : t'.Retains t'') : t.Moves t'' old new := by
  refine ⟨h.stored, h.sameTask, h.sameConnector, ?_, ?_, ?_, ?_⟩
  · exact fun found => h.changed (retains.stored found)
  · exact fun unfinished => retains.live (h.moved unfinished) unfinished
  · exact fun differ found unfinished => retains.live (h.live differ found unfinished) unfinished
  · intro c
    rw [retains.openPolls]
    exact h.openPolls c

theorem terminate_moves {t : Tracker} {old : Job} (stored : t.jobs.find? old.taskId = some old)
    (state : JobState) (error : Option String) (result : Option Json) (now : Instant) :
    t.Moves (t.terminate old state error result now).2 old
      (terminated old state error result now) :=
  (publish_moves stored (terminated old state error result now) rfl rfl now).retain
    (prune_retains _ _)

variable {t t' : Tracker} {id : Uuid} {j : Job} {now : Instant}

theorem start_eq_ok {worker : String} (ownIds : t.OwnIds)
    (done : t.start id worker now = .ok (j, t')) :
    ∃ old, old.taskId = id ∧ old.state = .queued ∧ j.state = .running ∧ t.Moves t' old j := by
  obtain ⟨old, found, rfl, queued, rfl, rfl⟩ := start_eq ownIds done
  refine ⟨old, rfl, queued, rfl, publish_moves found _ ?_ ?_ now⟩ <;> rfl

theorem finish_eq_ok {state : JobState} {error : Option String} {result : Option Json}
    (ownIds : t.OwnIds) (done : t.finish id state error result now = .ok (j, t')) :
    ∃ old, old.taskId = id ∧ old.state.isTerminal = false ∧ j.state.isTerminal = true ∧
      t.Moves t' old j := by
  obtain ⟨old, found, rfl, unfinished, ends, rfl, rfl⟩ := finish_eq ownIds done
  exact ⟨old, rfl, unfinished, ends, terminate_moves found state error result now⟩

theorem exists_finish {state : JobState} (ends : state.isTerminal = true)
    (found : t.jobs.find? id = some j) (unfinished : j.state.isTerminal = false)
    (error : Option String) (result : Option Json) (now : Instant) :
    ∃ r, t.finish id state error result now = .ok r := by
  refine ⟨t.terminate j state error result now, ?_⟩
  simp [finish, observe, ends, found, unfinished, bind, Except.bind, pure, Except.pure]

theorem cancelQueued_eq_ok {cancelled : Option Job} (ownIds : t.OwnIds)
    (done : t.cancelQueued id now = .ok (cancelled, t')) :
    (cancelled = none ∧ t' = t) ∨
    ∃ old new, cancelled = some new ∧ old.taskId = id ∧ old.state = .queued ∧
      new.state.isTerminal = true ∧ t.Moves t' old new := by
  rcases cancelQueued_eq ownIds done with nothing | ⟨old, found, rfl, queued, rfl, rfl⟩
  · exact .inl nothing
  · exact .inr ⟨old, _, rfl, rfl, queued, rfl, terminate_moves found _ _ _ now⟩

theorem report_eq (ownIds : t.OwnIds) (id : Uuid) (r : ProgressReport) (now : Instant) :
    t.report id r now = t ∨
      ∃ old new, new.state = old.state ∧ t.Moves (t.report id r now) old new := by
  unfold report
  split
  · rename_i j found
    have ownId := ownIds found
    subst ownId
    split
    · rename_i p state progress
      refine .inr ⟨j, _, ?_, publish_moves found _ ?_ ?_ now⟩ <;> rfl
    · exact .inl rfl
  · exact .inl rfl

theorem enqueue_find? (t : Tracker) (task : Task) (now : Instant) (id : Uuid) :
    (t.enqueue task now).2.jobs.find? id =
      if id = task.id then some (task.toJob now) else t.jobs.find? id :=
  OrderedMap.find?_insert t.jobs task.id id (task.toJob now)

theorem enqueue_openPolls {task : Task} (fresh : t.jobs.find? task.id = none) (now : Instant)
    (c : String) : ((t.enqueue task now).2.openPolls c).length =
      (t.openPolls c).length + (if task.connectorId = some c then 1 else 0) := by
  rw [length_openPolls, length_openPolls]
  refine (OrderedMap.countP_values_insert_of_absent fresh _ (task.toJob now)).trans ?_
  by_cases same : task.connectorId = some c <;>
    simp [Job.isOpenPoll, Task.toJob, JobState.isTerminal, same]

end Tracker

end DeviceWatch
