import DeviceWatch.Pool.Basic
import DeviceWatch.Proofs.Job.OpenPolls

/-!
# The records of queued tasks and of executions

The tracker knows accepted tasks only, and a queued task agrees with its record about the connector.
An execution that has not ended has a running record.  Both are kept when a record moves on, when a
task is added, and when records that have ended are dropped.
-/

namespace DeviceWatch

theorem Ending.isTerminal_state (ending : Ending) : ending.state.isTerminal = true := by
  cases ending <;> rfl

/-- The accepted tasks have records under their own ids, and queued tasks agree with theirs. -/
structure Tracker.Files (t : Tracker) (accepted : List Uuid) (queue : List Task) : Prop where
  ownIds : t.OwnIds
  known : ∀ id j, t.jobs.find? id = some j → id ∈ accepted
  queued : ∀ x ∈ queue, x.id ∈ accepted ∧
    ∀ j, t.jobs.find? x.id = some j → j.connectorId = x.connectorId

/-- An execution that has not ended has a running record of its connector. -/
def Tracker.Runs (t : Tracker) (past : List Uuid) (running : List Execution) : Prop :=
  ∀ e ∈ running, e.task.id ∉ past →
    ∃ j, t.jobs.find? e.task.id = some j ∧ j.state = .running ∧ j.connectorId = e.task.connectorId

namespace Tracker

variable {t t' : Tracker} {accepted past past' : List Uuid} {queue queue' : List Task}
  {running running' : List Execution} {old new : Job}

theorem Files.dequeue (h : t.Files accepted queue) (fewer : ∀ x ∈ queue', x ∈ queue) :
    t.Files accepted queue' :=
  { h with queued := fun x there => h.queued x (fewer x there) }

theorem Files.retains (h : t.Files accepted queue) (retains : t.Retains t') :
    t'.Files accepted queue where
  ownIds := fun found => h.ownIds (retains.stored found)
  known := fun id j found => h.known id j (retains.stored found)
  queued := fun x there =>
    ⟨(h.queued x there).1, fun j found => (h.queued x there).2 j (retains.stored found)⟩

theorem Files.moves (h : t.Files accepted queue) (moves : t.Moves t' old new) :
    t'.Files accepted queue := by
  constructor
  · intro id j found
    have from' := moves.changed found
    split at from'
    · rename_i same
      rw [from', moves.sameTask, same]
    · exact h.ownIds from'
  · intro id j found
    have from' := moves.changed found
    split at from'
    · rename_i same
      rw [same]
      exact h.known _ old moves.stored
    · exact h.known id j from'
  · intro x there
    refine ⟨(h.queued x there).1, fun j found => ?_⟩
    have from' := moves.changed found
    split at from'
    · rename_i same
      rw [from', moves.sameConnector]
      exact (h.queued x there).2 old (same ▸ moves.stored)
    · exact (h.queued x there).2 j from'

theorem Files.fresh (h : t.Files accepted queue) {id : Uuid} (unused : id ∉ accepted) :
    t.jobs.find? id = none := by
  cases found : t.jobs.find? id with
  | none => rfl
  | some j => exact absurd (h.known id j found) unused

theorem Files.enqueue (h : t.Files accepted queue) {task : Task} (unused : task.id ∉ accepted)
    (now : Instant) :
    (t.enqueue task now).2.Files (task.id :: accepted) (queue ++ [task]) := by
  constructor
  · intro id j found
    rw [enqueue_find?] at found
    split at found
    · rename_i same
      cases found
      exact same.symm
    · exact h.ownIds found
  · intro id j found
    rw [enqueue_find?] at found
    split at found
    · rename_i same
      exact same ▸ List.mem_cons_self
    · exact List.mem_cons_of_mem _ (h.known id j found)
  · intro x there
    rcases List.mem_append.mp there with waiting | last
    · obtain ⟨known, agrees⟩ := h.queued x waiting
      refine ⟨List.mem_cons_of_mem _ known, fun j found => agrees j ?_⟩
      have differ : x.id ≠ task.id := fun same => unused (same ▸ known)
      rwa [enqueue_find?, if_neg differ] at found
    · obtain rfl := List.mem_singleton.mp last
      refine ⟨List.mem_cons_self, fun j found => ?_⟩
      rw [enqueue_find?, if_pos rfl] at found
      cases found
      rfl

theorem Runs.fewer (h : t.Runs past running)
    (from' : ∀ e ∈ running', ∃ e' ∈ running, e'.task = e.task) : t.Runs past running' := by
  intro e there working
  obtain ⟨e', there', same⟩ := from' e there
  have runs := h e' there'
  rw [same] at runs
  exact runs working

theorem Runs.retains (h : t.Runs past running) (retains : t.Retains t') :
    t'.Runs past running := by
  intro e there working
  obtain ⟨j, found, state, connector⟩ := h e there working
  exact ⟨j, retains.live found (by rw [state]; rfl), state, connector⟩

theorem Runs.moves (h : t.Runs past running) (moves : t.Moves t' old new)
    (grows : ∀ id ∈ past, id ∈ past')
    (runsOn : old.state = .running → new.state = .running ∨ old.taskId ∈ past') :
    t'.Runs past' running := by
  intro e there working
  obtain ⟨j, found, state, connector⟩ := h e there fun ended => working (grows _ ended)
  by_cases same : e.task.id = old.taskId
  · rw [same, moves.stored] at found
    cases found
    rcases runsOn state with running | ended
    · refine ⟨new, ?_, running, moves.sameConnector.trans connector⟩
      rw [same]
      exact moves.moved (by rw [running]; rfl)
    · exact absurd (same ▸ ended) working
  · exact ⟨j, moves.live same found (by rw [state]; rfl), state, connector⟩

theorem Runs.enqueue (h : t.Runs past running) {task : Task}
    (fresh : t.jobs.find? task.id = none) (now : Instant) :
    (t.enqueue task now).2.Runs past running := by
  intro e there working
  obtain ⟨j, found, rest⟩ := h e there working
  have differ : e.task.id ≠ task.id := by
    intro same
    rw [same, fresh] at found
    cases found
  exact ⟨j, by rw [enqueue_find?, if_neg differ, found], rest⟩

end Tracker

end DeviceWatch
