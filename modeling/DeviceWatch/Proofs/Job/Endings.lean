import DeviceWatch.Proofs.Job.Lifecycle

/-!
# How a job has ended

Whoever ends a job publishes its state and its error.  The record says the same as long as it is
there, and may be dropped at once; what was published stays, and no change of the tracker says
anything else of the job from then on.
-/

namespace DeviceWatch

namespace Tracker

/-- The last update of a job, whether its record is still there or not. -/
def latest (t : Tracker) (id : Uuid) : Option JobUpdate := (t.feeds.find? id).map (·.latest)

/-- The job has ended in this state and with this error. -/
structure Ended (t : Tracker) (id : Uuid) (state : JobState) (error : Option String) : Prop where
  terminal : state.isTerminal = true
  published : ∃ u, t.latest id = some u ∧ u.state = state ∧ u.error = error
  recorded : ∀ j, t.jobs.find? id = some j → j.state = state ∧ j.error = error

variable {t t' : Tracker} {written : Option Job} {id : Uuid} {old j : Job} {now : Instant}
  {state : JobState} {error : Option String}

theorem latest_prune (t : Tracker) (keep : Nat) (id : Uuid) :
    (t.prune keep).2.latest id = t.latest id := by
  rw [latest, feeds_prune, Option.map_map, latest]
  congr 1
  funext feed
  simp only [Function.comp_apply]
  split <;> rfl

theorem latest_publish {s : JobState} (known : t.lastState j.taskId = some s) (now : Instant) :
    (t.publish j now).latest j.taskId = some (JobUpdate.ofJob j now) := by
  obtain ⟨feed, found, -⟩ := Option.map_eq_some_iff.mp known
  rw [latest, feeds_publish, if_pos rfl, found]
  rfl

theorem latest_publish_of_ne (other : id ≠ j.taskId) (t : Tracker) (now : Instant) :
    (t.publish j now).latest id = t.latest id := by
  rw [latest, feeds_publish, if_neg other, latest]

theorem latest_enqueue_of_ne {task : Task} (other : id ≠ task.id) (t : Tracker) (now : Instant) :
    (t.enqueue task now).2.latest id = t.latest id := by
  rw [latest, feeds_enqueue, if_neg other, latest]

theorem Ended.prune (ended : t.Ended id state error) (keep : Nat) :
    (t.prune keep).2.Ended id state error := by
  refine ⟨ended.terminal, ?_, fun j found => ?_⟩
  · rw [latest_prune]
    exact ended.published
  · exact ended.recorded j ((t.prune_retains keep).stored found)

theorem Ended.publish {new : Job} (ended : t.Ended id state error)
    (stored : t.jobs.find? old.taskId = some old) (advance : old.Advance new) (now : Instant) :
    (t.publish new now).Ended id state error := by
  have other : id ≠ new.taskId := by
    rintro rfl
    rw [← advance.taskId] at stored
    have live := advance.live
    rw [(ended.recorded old stored).1, ended.terminal] at live
    cases live
  refine ⟨ended.terminal, ?_, fun j found => ended.recorded j ?_⟩
  · rw [latest_publish_of_ne other]
    exact ended.published
  · rwa [find?_publish, if_neg other] at found

theorem Change.ended (change : t.Change written t') (ended : t.Ended id state error) :
    t'.Ended id state error := by
  cases change with
  | idle => exact ended
  | filed task now unused =>
    have other : id ≠ task.id := by
      rintro rfl
      obtain ⟨u, shown, -⟩ := ended.published
      rw [latest, unused] at shown
      cases shown
    refine ⟨ended.terminal, ?_, fun j found => ended.recorded j ?_⟩
    · rw [latest_enqueue_of_ne other]
      exact ended.published
    · rwa [enqueue_find?, if_neg other] at found
  | moved old new now stored advance live => exact ended.publish stored advance now
  | closed old new now stored advance ends => exact (ended.publish stored advance now).prune _
  | dropped keep => exact ended.prune keep

theorem ended_terminate (h : t.Records) (found : t.jobs.find? old.taskId = some old)
    (terminal : state.isTerminal = true) (error : Option String) (result : Option Json)
    (now : Instant) : (t.terminate old state error result now).2.Ended old.taskId state error := by
  let closed := terminated old state error result now
  have known : t.lastState closed.taskId = some old.state := h.published found
  have ended : (t.publish closed now).Ended closed.taskId state error := by
    refine ⟨terminal, ⟨_, latest_publish known now, rfl, rfl⟩, fun j there => ?_⟩
    rw [find?_publish, if_pos rfl] at there
    cases there
    exact ⟨rfl, rfl⟩
  exact ended.prune _

theorem finish_ended {result : Option Json} (h : t.Records)
    (done : t.finish id state error result now = .ok (j, t')) : t'.Ended id state error := by
  obtain ⟨old, found, rfl, -, terminal, -, rfl⟩ := finish_eq h.ownIds done
  exact ended_terminate h found terminal error result now

theorem cancelQueued_ended (h : t.Records) (done : t.cancelQueued id now = .ok (some j, t')) :
    j.taskId = id ∧ t'.Ended id .cancelled (some "cancelled before start") := by
  rcases cancelQueued_eq h.ownIds done with ⟨nothing, -⟩ | ⟨old, found, rfl, -, closed, rfl⟩
  · cases nothing
  · cases closed
    exact ⟨rfl, ended_terminate h found rfl _ none now⟩

end Tracker

end DeviceWatch
