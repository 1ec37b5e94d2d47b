import DeviceWatch.Proofs.Job.Lifecycle

/-!
# Active runs of a name

How many tasks of a name are queued or running.  Nothing but a submission adds one: a record keeps
its name, and one that has ended does not become active again.
-/

namespace DeviceWatch

def Job.isRunOf (j : Job) (name : String) : Bool := j.jobName == name && !j.state.isTerminal

theorem Job.Advance.isRunOf {old new : Job} (h : old.Advance new) {name : String}
    (isRun : new.isRunOf name = true) : old.isRunOf name = true := by
  have sameName : new.jobName = old.jobName := by cases h <;> rfl
  simp only [Job.isRunOf, Bool.and_eq_true] at isRun ⊢
  exact ⟨sameName ▸ isRun.1, by rw [h.live]; rfl⟩

namespace Tracker

def activeRuns (t : Tracker) (name : String) : Nat := t.jobs.values.countP (·.isRunOf name)

def IsRun (t : Tracker) (id : Uuid) (name : String) : Prop :=
  ∃ j, t.jobs.find? id = some j ∧ j.isRunOf name = true

/-- Something happens to the records, and no task is submitted. -/
def Proceeds (t t' : Tracker) : Prop :=
  ∃ written, t.Change written t' ∧ ∀ j, written = some j → j.state ≠ .queued

variable {t t' : Tracker} {id : Uuid} {name : String}

theorem activeRuns_pos : 0 < t.activeRuns name ↔ ∃ id, t.IsRun id name := by
  rw [activeRuns, List.countP_pos_iff]
  constructor
  · rintro ⟨j, there, isRun⟩
    obtain ⟨id, found⟩ := OrderedMap.mem_values_iff.mp there
    exact ⟨id, j, found, isRun⟩
  · rintro ⟨id, j, found, isRun⟩
    exact ⟨j, OrderedMap.mem_values_iff.mpr ⟨id, found⟩, isRun⟩

theorem isActive_eq (t : Tracker) (name : String) :
    t.isActive name = decide (0 < t.activeRuns name) := by
  rw [Bool.eq_iff_iff, decide_eq_true_iff, activeRuns, List.countP_pos_iff]
  exact List.any_eq_true

theorem Proceeds.refl (t : Tracker) : t.Proceeds t := ⟨none, .idle, fun _ wrote => nomatch wrote⟩

theorem perform_proceeds (ownIds : t.OwnIds) (o : Operation) (old : o.enqueued? = none) :
    t.Proceeds (t.perform o).2 := by
  obtain ⟨written, change, wrote⟩ :=
    perform_change ownIds o fun id submitted => by simp [old] at submitted
  refine ⟨written, change, fun j w queued => ?_⟩
  have submitted := (wrote j w).1 queued
  rw [old] at submitted
  cases submitted

theorem activeRuns_publish_le {old new : Job} (stored : t.jobs.find? old.taskId = some old)
    (advance : old.Advance new) (now : Instant) :
    (t.publish new now).activeRuns name ≤ t.activeRuns name := by
  rw [← advance.taskId] at stored
  have count : (t.publish new now).activeRuns name + _ = t.activeRuns name + _ :=
    OrderedMap.countP_values_insert stored (·.isRunOf name) new
  by_cases isRun : new.isRunOf name = true
  · rw [if_pos isRun, if_pos (advance.isRunOf isRun)] at count
    omega
  · rw [if_neg isRun] at count
    omega

theorem activeRuns_prune_le (t : Tracker) (keep : Nat) :
    (t.prune keep).2.activeRuns name ≤ t.activeRuns name := by
  have fewer : (t.prune keep).2.jobs.values.Sublist t.jobs.values := List.filter_sublist.map _
  exact fewer.countP_le

theorem Proceeds.activeRuns_le (h : t.Proceeds t') : t'.activeRuns name ≤ t.activeRuns name := by
  obtain ⟨written, change, old⟩ := h
  cases change with
  | idle => exact Nat.le_refl _
  | filed task now unused => exact absurd rfl (old _ rfl)
  | moved old new now stored advance live => exact activeRuns_publish_le stored advance now
  | closed old new now stored advance ended =>
    exact Nat.le_trans (activeRuns_prune_le _ _) (activeRuns_publish_le stored advance now)
  | dropped keep => exact activeRuns_prune_le _ _

theorem Proceeds.isRun (h : t.Proceeds t') (later : t'.IsRun id name) : t.IsRun id name := by
  have published {old new : Job} {now : Instant} (stored : t.jobs.find? old.taskId = some old)
      (advance : old.Advance new) (isRun : (t.publish new now).IsRun id name) :
      t.IsRun id name := by
    obtain ⟨j, found, isRun⟩ := isRun
    rw [find?_publish] at found
    by_cases same : id = new.taskId
    · rw [if_pos same] at found
      cases found
      exact ⟨old, by rw [same, advance.taskId, stored], advance.isRunOf isRun⟩
    · rw [if_neg same] at found
      exact ⟨j, found, isRun⟩
  have pruned {t : Tracker} {keep : Nat} (isRun : (t.prune keep).2.IsRun id name) :
      t.IsRun id name := by
    obtain ⟨j, found, isRun⟩ := isRun
    exact ⟨j, (t.prune_retains keep).stored found, isRun⟩
  obtain ⟨written, change, old⟩ := h
  cases change with
  | idle => exact later
  | filed task now unused => exact absurd rfl (old _ rfl)
  | moved old new now stored advance live => exact published stored advance later
  | closed old new now stored advance ended => exact published stored advance (pruned later)
  | dropped keep => exact pruned later

theorem activeRuns_enqueue {task : Task} (fresh : t.jobs.find? task.id = none) (now : Instant) :
    (t.enqueue task now).2.activeRuns name =
      t.activeRuns name + if task.jobName = name then 1 else 0 := by
  have count : (t.enqueue task now).2.activeRuns name = _ :=
    OrderedMap.countP_values_insert_of_absent fresh (·.isRunOf name) (task.toJob now)
  rw [count]
  by_cases same : task.jobName = name <;>
    simp [activeRuns, Job.isRunOf, Task.toJob, JobState.isTerminal, same]

theorem IsRun.of_enqueue {task : Task} {now : Instant}
    (isRun : (t.enqueue task now).2.IsRun id name) : id = task.id ∨ t.IsRun id name := by
  obtain ⟨j, found, isRun⟩ := isRun
  rw [enqueue_find?] at found
  by_cases same : id = task.id
  · exact .inl same
  · rw [if_neg same] at found
    exact .inr ⟨j, found, isRun⟩

end Tracker

end DeviceWatch
