import DeviceWatch.Proofs.Job.OpenPolls

/-!
# The life of a record

From an empty tracker on, every record says what fits its state, only moves on, and does not change
any more once it has ended.  Nothing but records that have ended is dropped, and no more of them are
kept than the history limit.  What was published last about a job outlives its record.
-/

namespace DeviceWatch

namespace Tracker

/-- The state that was published last of a job, whether its record is still there or not. -/
def lastState (t : Tracker) (id : Uuid) : Option JobState :=
  (t.feeds.find? id).map (·.latest.state)

theorem lastState_eq_none {t : Tracker} {id : Uuid} :
    t.lastState id = none ↔ t.feeds.find? id = none := by
  simp [lastState]

theorem feeds_enqueue (t : Tracker) (task : Task) (now : Instant) (id : Uuid) :
    (t.enqueue task now).2.feeds.find? id =
      if id = task.id then some ⟨JobUpdate.ofJob (task.toJob now) now, 0, true⟩
      else t.feeds.find? id :=
  OrderedMap.find?_insert t.feeds task.id id ⟨JobUpdate.ofJob (task.toJob now) now, 0, true⟩

theorem feeds_publish (t : Tracker) (j : Job) (now : Instant) (id : Uuid) :
    (t.publish j now).feeds.find? id =
      if id = j.taskId then (t.feeds.find? id).map fun feed =>
        { feed with latest := JobUpdate.ofJob j now, revision := feed.revision + 1 }
      else t.feeds.find? id :=
  OrderedMap.find?_modify t.feeds j.taskId id _

theorem feeds_prune (t : Tracker) (keep : Nat) (id : Uuid) :
    (t.prune keep).2.feeds.find? id = (t.feeds.find? id).map fun feed =>
      if (t.oldestTerminal (t.terminalCount - keep)).contains id then { feed with live := false }
      else feed :=
  OrderedMap.find?_mapEntries t.feeds _ id

@[simp] theorem lastState_enqueue (t : Tracker) (task : Task) (now : Instant) (id : Uuid) :
    (t.enqueue task now).2.lastState id =
      if id = task.id then some .queued else t.lastState id := by
  rw [lastState, feeds_enqueue]
  split <;> rfl

@[simp] theorem lastState_prune (t : Tracker) (keep : Nat) (id : Uuid) :
    (t.prune keep).2.lastState id = t.lastState id := by
  rw [lastState, feeds_prune, Option.map_map, lastState]
  congr 1
  funext feed
  simp only [Function.comp_apply]
  split <;> rfl

theorem lastState_publish {t : Tracker} {j : Job} {s : JobState}
    (known : t.lastState j.taskId = some s) (now : Instant) (id : Uuid) :
    (t.publish j now).lastState id = if id = j.taskId then some j.state else t.lastState id := by
  obtain ⟨feed, found, -⟩ := Option.map_eq_some_iff.mp known
  rw [lastState, feeds_publish]
  split
  · rename_i same
    simp [same, found, JobUpdate.ofJob]
  · rfl

theorem lastState_publish_eq_none {t : Tracker} {id : Uuid} (unknown : t.lastState id = none)
    (j : Job) (now : Instant) : (t.publish j now).lastState id = none := by
  rw [lastState_eq_none] at unknown ⊢
  rw [feeds_publish, unknown]
  split <;> rfl

/-- Records fit and are published as they are, and a job without record has ended. -/
structure Records (t : Tracker) : Prop where
  ownIds : t.OwnIds
  fits : ∀ {id j}, t.jobs.find? id = some j → j.Fits
  published : ∀ {id j}, t.jobs.find? id = some j → t.lastState id = some j.state
  live : ∀ {id s}, t.lastState id = some s → s.isTerminal = false → ∃ j, t.jobs.find? id = some j

structure Sound (t : Tracker) : Prop extends t.Records where
  limited : t.terminalCount ≤ t.historyLimit

theorem sound_empty (historyLimit : Nat) : (empty historyLimit).Sound := by
  refine ⟨⟨?_, ?_, ?_, ?_⟩, ?_⟩ <;>
    simp [OwnIds, empty, lastState, terminalCount, OrderedMap.values]

variable {t t' : Tracker} {written : Option Job} {id : Uuid} {old new j : Job} {now : Instant}

theorem find?_publish (t : Tracker) (j : Job) (now : Instant) (id : Uuid) :
    (t.publish j now).jobs.find? id = if id = j.taskId then some j else t.jobs.find? id :=
  OrderedMap.find?_insert t.jobs j.taskId id j

theorem Records.absent (h : t.Records) (unknown : t.lastState id = none) :
    t.jobs.find? id = none := by
  cases found : t.jobs.find? id with
  | none => rfl
  | some j => simp [h.published found] at unknown

theorem Records.prune (h : t.Records) (keep : Nat) : (t.prune keep).2.Records := by
  have retains := t.prune_retains keep
  refine ⟨fun found => h.ownIds (retains.stored found), fun found => h.fits (retains.stored found),
    fun found => ?_, fun {id s} known unfinished => ?_⟩
  · rw [lastState_prune]
    exact h.published (retains.stored found)
  · rw [lastState_prune] at known
    obtain ⟨j, found⟩ := h.live known unfinished
    rw [h.published found] at known
    cases known
    exact ⟨j, retains.live found unfinished⟩

theorem Records.publish (h : t.Records) (stored : t.jobs.find? old.taskId = some old)
    (advance : old.Advance new) (now : Instant) : (t.publish new now).Records := by
  have known : t.lastState new.taskId = some old.state := advance.taskId ▸ h.published stored
  refine ⟨fun {id j} found => ?_, fun {id j} found => ?_, fun {id j} found => ?_,
    fun {id s} shown unfinished => ?_⟩
  · rw [find?_publish] at found
    split at found
    · rename_i same
      cases found
      exact same.symm
    · exact h.ownIds found
  · rw [find?_publish] at found
    split at found
    · cases found
      exact advance.fits (h.fits stored)
    · exact h.fits found
  · rw [lastState_publish known]
    rw [find?_publish] at found
    split <;> rename_i same
    · rw [if_pos same] at found
      cases found
      rfl
    · rw [if_neg same] at found
      exact h.published found
  · rw [lastState_publish known] at shown
    rw [find?_publish]
    split <;> rename_i same
    · exact ⟨new, rfl⟩
    · rw [if_neg same] at shown
      exact h.live shown unfinished

theorem Records.enqueue (h : t.Records) (task : Task) (now : Instant) :
    (t.enqueue task now).2.Records := by
  refine ⟨fun {id j} found => ?_, fun {id j} found => ?_, fun {id j} found => ?_,
    fun {id s} shown unfinished => ?_⟩
  · rw [enqueue_find?] at found
    split at found
    · rename_i same
      cases found
      exact same.symm
    · exact h.ownIds found
  · rw [enqueue_find?] at found
    split at found
    · cases found
      exact Job.fits_toJob task now
    · exact h.fits found
  · rw [lastState_enqueue]
    rw [enqueue_find?] at found
    split <;> rename_i same
    · rw [if_pos same] at found
      cases found
      rfl
    · rw [if_neg same] at found
      exact h.published found
  · rw [lastState_enqueue] at shown
    rw [enqueue_find?]
    split <;> rename_i same
    · exact ⟨_, rfl⟩
    · rw [if_neg same] at shown
      exact h.live shown unfinished

namespace Change

theorem historyLimit (change : t.Change written t') : t'.historyLimit = t.historyLimit := by
  cases change <;> rfl

theorem records (change : t.Change written t') (h : t.Records) : t'.Records := by
  cases change with
  | idle => exact h
  | filed task now unused => exact h.enqueue task now
  | moved old new now stored advance live => exact h.publish stored advance now
  | closed old new now stored advance ended => exact (h.publish stored advance now).prune _
  | dropped keep => exact h.prune keep

theorem sound (change : t.Change written t') (h : t.Sound) : t'.Sound := by
  refine ⟨change.records h.toRecords, ?_⟩
  rw [change.historyLimit]
  have limited := h.limited
  cases change with
  | idle => exact limited
  | filed task now unused =>
    have absent := h.absent (lastState_eq_none.mpr unused)
    have count := OrderedMap.countP_values_insert_of_absent absent (·.state.isTerminal)
      (task.toJob now)
    rw [terminalCount_eq] at limited ⊢
    exact Nat.le_trans (Nat.le_of_eq count) limited
  | moved old new now stored advance live =>
    rw [← advance.taskId] at stored
    have count := OrderedMap.countP_values_insert stored (·.state.isTerminal) new
    rw [advance.live, live] at count
    rw [terminalCount_eq] at limited ⊢
    exact Nat.le_trans (Nat.le_of_eq count) limited
  | closed old new now stored advance ended => exact terminalCount_prune_le _ _
  | dropped keep => exact Nat.le_trans (t.terminalCount_prune_le_self keep) limited

theorem lastState (change : t.Change written t') (h : t.Records) {s : JobState}
    (known : t.lastState id = some s) : ∃ s', t'.lastState id = some s' ∧ s.MayBecome s' := by
  have published {old new : Job} (now : Instant) (stored : t.jobs.find? old.taskId = some old)
      (advance : old.Advance new) :
      ∃ s', (t.publish new now).lastState id = some s' ∧ s.MayBecome s' := by
    have shown : t.lastState new.taskId = some old.state := advance.taskId ▸ h.published stored
    rw [lastState_publish shown]
    split
    · rename_i same
      rw [same, shown] at known
      cases known
      exact ⟨_, rfl, advance.mayBecome⟩
    · exact ⟨s, known, .refl s⟩
  cases change with
  | idle => exact ⟨s, known, .refl s⟩
  | filed task now unused =>
    have other : id ≠ task.id := by
      rintro rfl
      rw [lastState_eq_none.mpr unused] at known
      cases known
    rw [lastState_enqueue, if_neg other]
    exact ⟨s, known, .refl s⟩
  | moved old new now stored advance live => exact published now stored advance
  | closed old new now stored advance ended =>
    rw [lastState_prune]
    exact published now stored advance
  | dropped keep =>
    rw [lastState_prune]
    exact ⟨s, known, .refl s⟩

theorem unknown (change : t.Change written t') (unknown : t.lastState id = none)
    (other : ∀ j, written = some j → j.state = .queued → j.taskId ≠ id) :
    t'.lastState id = none := by
  cases change with
  | idle => exact unknown
  | filed task now unused =>
    have differ : task.id ≠ id := other _ rfl rfl
    rw [lastState_enqueue, if_neg (Ne.symm differ)]
    exact unknown
  | moved old new now stored advance live => exact lastState_publish_eq_none unknown _ _
  | closed old new now stored advance ended =>
    rw [lastState_prune]
    exact lastState_publish_eq_none unknown _ _
  | dropped keep =>
    rw [lastState_prune]
    exact unknown

/-- What happens to the record of one job: nothing, or it moves on and may then be dropped if it has
ended, or it is dropped since it had ended, or it is filed. -/
theorem find?_cases (change : t.Change written t') (id : Uuid) :
    t'.jobs.find? id = t.jobs.find? id ∨
    (∃ old new, t.jobs.find? id = some old ∧ old.Advance new ∧ written = some new ∧
      new.taskId = id ∧
      (t'.jobs.find? id = some new ∨ new.state.isTerminal = true ∧ t'.jobs.find? id = none)) ∨
    (∃ old, t.jobs.find? id = some old ∧ old.state.isTerminal = true ∧
      t'.jobs.find? id = none) ∨
    ∃ j, t.lastState id = none ∧ t'.jobs.find? id = some j := by
  have pruned (u : Tracker) (keep : Nat) :
      (u.prune keep).2.jobs.find? id = u.jobs.find? id ∨
        ∃ j, u.jobs.find? id = some j ∧ j.state.isTerminal = true ∧
          (u.prune keep).2.jobs.find? id = none := by
    have retains := u.prune_retains keep
    cases kept : (u.prune keep).2.jobs.find? id with
    | some j => exact .inl (retains.stored kept).symm
    | none =>
      cases found : u.jobs.find? id with
      | none => exact .inl rfl
      | some j =>
        cases ended : j.state.isTerminal with
        | true => exact .inr ⟨j, rfl, ended, rfl⟩
        | false =>
          rw [retains.live found ended] at kept
          cases kept
  cases change with
  | idle => exact .inl rfl
  | filed task now unused =>
    by_cases same : id = task.id
    · refine .inr (.inr (.inr ⟨task.toJob now, ?_, ?_⟩))
      · exact same ▸ lastState_eq_none.mpr unused
      · rw [enqueue_find?, if_pos same]
    · exact .inl (by rw [enqueue_find?, if_neg same])
  | moved old new now stored advance live =>
    by_cases same : id = new.taskId
    · refine .inr (.inl ⟨old, new, ?_, advance, rfl, same.symm, .inl ?_⟩)
      · rw [same, advance.taskId, stored]
      · rw [find?_publish, if_pos same]
    · exact .inl (by rw [find?_publish, if_neg same])
  | closed old new now stored advance ended =>
    have found := find?_publish t new now id
    rcases pruned (t.publish new now) t.historyLimit with kept | ⟨j, there, closed, gone⟩
    · by_cases same : id = new.taskId
      · refine .inr (.inl ⟨old, new, ?_, advance, rfl, same.symm, .inl ?_⟩)
        · rw [same, advance.taskId, stored]
        · rw [kept, found, if_pos same]
      · exact .inl (by rw [kept, found, if_neg same])
    · by_cases same : id = new.taskId
      · refine .inr (.inl ⟨old, new, ?_, advance, rfl, same.symm, .inr ⟨ended, gone⟩⟩)
        rw [same, advance.taskId, stored]
      · rw [found, if_neg same] at there
        exact .inr (.inr (.inl ⟨j, there, closed, gone⟩))
  | dropped keep =>
    rcases pruned t keep with kept | ⟨j, there, closed, gone⟩
    · exact .inl kept
    · exact .inr (.inr (.inl ⟨j, there, closed, gone⟩))

/-- A record stays, moves on, or is dropped; whoever ended it has written it as ended. -/
theorem next (change : t.Change written t') (h : t.Records) (found : t.jobs.find? id = some old) :
    (∃ new, t'.jobs.find? id = some new ∧ old.Later new ∧
      (old.state.isTerminal = false → new.state.isTerminal = true →
        written = some new ∧ new.taskId = id)) ∨
    (t'.jobs.find? id = none ∧ (old.state.isTerminal = false →
      ∃ new, written = some new ∧ new.taskId = id ∧ new.state.isTerminal = true)) := by
  rcases change.find?_cases id with same | ⟨prior, new, stored, advance, wrote, ownId, there⟩ |
    ⟨prior, stored, ended, absent⟩ | ⟨j, unknown, -⟩
  · refine .inl ⟨old, same.trans found, .refl old, fun live ended => ?_⟩
    rw [live] at ended
    cases ended
  · rw [found] at stored
    cases stored
    rcases there with stays | ⟨ended, absent⟩
    · exact .inl ⟨new, stays, advance.later, fun _ _ => ⟨wrote, ownId⟩⟩
    · exact .inr ⟨absent, fun _ => ⟨new, wrote, ownId, ended⟩⟩
  · rw [found] at stored
    cases stored
    refine .inr ⟨absent, fun live => ?_⟩
    rw [live] at ended
    cases ended
  · rw [h.published found] at unknown
    cases unknown

theorem gone (change : t.Change written t') (absent : t.jobs.find? id = none)
    (known : t.lastState id ≠ none) : t'.jobs.find? id = none := by
  rcases change.find?_cases id with same | ⟨old, new, found, -⟩ | ⟨old, found, -⟩ |
    ⟨j, unknown, -⟩
  · rw [same, absent]
  · rw [absent] at found
    cases found
  · rw [absent] at found
    cases found
  · exact absurd unknown known

end Change

/-- Each task is submitted once. -/
def Once (operations : List Operation) : Prop := (operations.filterMap (·.enqueued?)).Nodup

instance (operations : List Operation) : Decidable (Once operations) :=
  inferInstanceAs (Decidable (List.Nodup _))

/-- Each task is submitted once, and none of them was submitted before. -/
structure Fresh (t : Tracker) (operations : List Operation) : Prop where
  once : Once operations
  unknown : ∀ id ∈ operations.filterMap (·.enqueued?), t.lastState id = none

theorem Fresh.step {o : Operation} {rest : List Operation} (h : t.Fresh (o :: rest))
    (records : t.Records) :
    (∃ written, t.Change written (t.perform o).2 ∧
      ∀ j, written = some j → j.state.isTerminal = true → (t.perform o).1 = .ok (some j)) ∧
    (t.perform o).2.Fresh rest := by
  obtain ⟨written, change, wrote⟩ := perform_change records.ownIds o fun id submitted =>
    lastState_eq_none.mp (h.unknown id (by simp [submitted]))
  refine ⟨⟨written, change, fun j w => (wrote j w).2⟩, ?_, fun id later => ?_⟩
  · have once := h.once
    unfold Once at once ⊢
    exact once.sublist ((List.sublist_cons_self o rest).filterMap _)
  · have unknown : t.lastState id = none :=
      h.unknown id (((List.sublist_cons_self o rest).filterMap _).subset later)
    refine change.unknown unknown fun j w queued same => ?_
    have submitted := (wrote j w).1 queued
    have once := h.once
    rw [same] at submitted
    rw [Once, List.filterMap_cons, submitted, List.nodup_cons] at once
    exact once.1 later

theorem Fresh.sound {operations : List Operation} (h : t.Fresh operations) (sound : t.Sound) :
    (t.run operations).Sound := by
  induction operations generalizing t with
  | nil => exact sound
  | cons o rest ih =>
    obtain ⟨⟨written, change, -⟩, fresh⟩ := h.step sound.toRecords
    exact ih fresh (change.sound sound)

/-- One of the operations ends the job and answers with its record. -/
def Ends (t : Tracker) (operations : List Operation) (id : Uuid) : Prop :=
  ∃ before o after j, operations = before ++ o :: after ∧
    ((t.run before).perform o).1 = .ok (some j) ∧ j.taskId = id ∧ j.state.isTerminal = true

theorem Ends.cons {o : Operation} {rest : List Operation} (h : (t.perform o).2.Ends rest id) :
    t.Ends (o :: rest) id := by
  obtain ⟨before, o', after, j, rfl, answer⟩ := h
  exact ⟨o :: before, o', after, j, rfl, answer⟩

theorem Fresh.gone {operations : List Operation} (h : t.Fresh operations) (records : t.Records)
    (absent : t.jobs.find? id = none) (known : t.lastState id ≠ none) :
    (t.run operations).jobs.find? id = none := by
  induction operations generalizing t with
  | nil => exact absent
  | cons o rest ih =>
    obtain ⟨⟨written, change, -⟩, fresh⟩ := h.step records
    refine ih fresh (change.records records) (change.gone absent known) ?_
    obtain ⟨s, shown⟩ := Option.ne_none_iff_exists'.mp known
    obtain ⟨s', shown', -⟩ := change.lastState records shown
    simp [shown']

/-- After any operations a record has only moved on, or is gone; and if it had not ended before,
then one of the operations has ended it. -/
theorem Fresh.next {operations : List Operation} (h : t.Fresh operations) (records : t.Records)
    (found : t.jobs.find? id = some old) :
    (∃ new, (t.run operations).jobs.find? id = some new ∧ old.Later new) ∨
    ((t.run operations).jobs.find? id = none ∧
      (old.state.isTerminal = false → t.Ends operations id)) := by
  induction operations generalizing t old with
  | nil => exact .inl ⟨old, found, .refl old⟩
  | cons o rest ih =>
    obtain ⟨⟨written, change, wrote⟩, fresh⟩ := h.step records
    have records' := change.records records
    -- Whoever writes a record as ended answers with it: the first operation has ended the job.
    have ends {new : Job} (w : written = some new) (ownId : new.taskId = id)
        (ended : new.state.isTerminal = true) : t.Ends (o :: rest) id :=
      ⟨[], o, rest, new, rfl, wrote new w ended, ownId, ended⟩
    rcases change.next records found with ⟨new, there, later, closed⟩ | ⟨absent, closed⟩
    · rcases ih fresh records' there with ⟨last, there', later'⟩ | ⟨absent, endsLater⟩
      · exact .inl ⟨last, there', later.trans later'⟩
      · refine .inr ⟨absent, fun live => ?_⟩
        cases ended : new.state.isTerminal with
        | false => exact (endsLater ended).cons
        | true =>
          obtain ⟨w, ownId⟩ := closed live ended
          exact ends w ownId ended
    · refine .inr ⟨fresh.gone records' absent ?_, fun live => ?_⟩
      · obtain ⟨s', shown, -⟩ := change.lastState records (records.published found)
        simp [shown]
      · obtain ⟨new, w, ownId, ended⟩ := closed live
        exact ends w ownId ended

theorem fresh_empty {operations : List Operation} (once : Once operations) (historyLimit : Nat) :
    (empty historyLimit).Fresh operations :=
  ⟨once, fun _ _ => rfl⟩

theorem Fresh.run {first rest : List Operation} (h : t.Fresh (first ++ rest))
    (records : t.Records) : (t.run first).Fresh rest := by
  induction first generalizing t with
  | nil => exact h
  | cons o first ih =>
    obtain ⟨⟨written, change, -⟩, fresh⟩ := h.step records
    exact ih fresh (change.records records)

theorem Fresh.left {first rest : List Operation} (h : t.Fresh (first ++ rest)) :
    t.Fresh first := by
  have part : (first.filterMap (·.enqueued?)).Sublist ((first ++ rest).filterMap (·.enqueued?)) :=
    (List.sublist_append_left first rest).filterMap _
  exact ⟨List.Nodup.sublist part h.once, fun id there => h.unknown id (part.subset there)⟩

theorem historyLimit_run {operations : List Operation} (h : t.Fresh operations)
    (records : t.Records) : (t.run operations).historyLimit = t.historyLimit := by
  induction operations generalizing t with
  | nil => rfl
  | cons o rest ih =>
    obtain ⟨⟨written, change, -⟩, fresh⟩ := h.step records
    exact (ih fresh (change.records records)).trans change.historyLimit

/-- In every state that operations lead to from an empty tracker, each task being submitted once:
records fit their state and no more than the limit have ended; whatever operations follow, a record
only moves on, does not change once it has ended, and is not dropped unless it has ended; and an
operation that fails changes nothing. -/
theorem lifecycle (limit : Nat) (first rest : List Operation) (once : Once (first ++ rest)) :
    let t := (empty limit).run first
    let t' := t.run rest
    (∀ id j, t.jobs.find? id = some j → j.taskId = id ∧ j.Fits) ∧
      t.terminalCount ≤ limit ∧
      (∀ id old new, t.jobs.find? id = some old → t'.jobs.find? id = some new → old.Later new) ∧
      (∀ id old, t.jobs.find? id = some old → old.state.isTerminal = false →
        t'.jobs.find? id = none → t.Ends rest id) ∧
      ∀ o e, (t.perform o).1 = .error e → (t.perform o).2 = t := by
  intro t t'
  have whole := fresh_empty once limit
  have start := sound_empty limit
  have onceFirst : Once first := by
    unfold Once at once ⊢
    exact once.sublist ((List.sublist_append_left first rest).filterMap _)
  have freshFirst := fresh_empty onceFirst limit
  have sound : t.Sound := freshFirst.sound start
  have fresh : t.Fresh rest := whole.run start.toRecords
  refine ⟨fun id j found => ⟨sound.ownIds found, sound.fits found⟩, ?_,
    fun id old new found there => ?_, fun id old found live absent => ?_,
    fun o e failed => perform_eq_error failed⟩
  · have limited := sound.limited
    rwa [historyLimit_run freshFirst start.toRecords] at limited
  · rcases fresh.next sound.toRecords found with ⟨last, there', later⟩ | ⟨absent, -⟩
    · rw [there] at there'
      cases there'
      exact later
    · rw [there] at absent
      cases absent
  · rcases fresh.next sound.toRecords found with ⟨last, there, -⟩ | ⟨-, ends⟩
    · rw [absent] at there
      cases there
    · exact ends live

def idleTask (id : Nat) : Task := ⟨⟨id⟩, .manual, .job ⟨"idle", "none", .null, none⟩⟩

/-- One task runs and a later one is cancelled while it is queued. -/
def runningAndCancelled : List Operation :=
  [.enqueue (idleTask 1) default, .start ⟨1⟩ "worker-0" default, .enqueue (idleTask 2) default,
    .cancelQueued ⟨2⟩ default]

/-- The first task ends.  With room for one record that has ended, its own is dropped at once. -/
def firstEnds : List Operation := [.finish ⟨1⟩ .succeeded none none default]

theorem lifecycle_firstEnds :
    let t := (empty 1).run runningAndCancelled
    let t' := t.run firstEnds
    Once (runningAndCancelled ++ firstEnds) ∧ t.terminalCount = 1 ∧
      (∃ old, t.jobs.find? ⟨1⟩ = some old ∧ old.Fits ∧ old.state = .running) ∧
      t'.jobs.find? ⟨1⟩ = none ∧ t.Ends firstEnds ⟨1⟩ ∧
      ∃ kept, t.jobs.find? ⟨2⟩ = some kept ∧ kept.state = .cancelled ∧
        ∀ later, t'.jobs.find? ⟨2⟩ = some later → later = kept := by
  intro t t'
  have once : Once (runningAndCancelled ++ firstEnds) := by decide +kernel
  obtain ⟨fits, -, later, ends, -⟩ := lifecycle 1 runningAndCancelled firstEnds once
  have running : ∃ old, t.jobs.find? ⟨1⟩ = some old ∧ old.state = .running := ⟨_, rfl, rfl⟩
  have cancelled : ∃ kept, t.jobs.find? ⟨2⟩ = some kept ∧ kept.state = .cancelled := ⟨_, rfl, rfl⟩
  have dropped : t'.jobs.find? ⟨1⟩ = none := by decide +kernel
  obtain ⟨old, found, state⟩ := running
  obtain ⟨kept, found', state'⟩ := cancelled
  refine ⟨once, by decide +kernel, ⟨old, found, (fits _ old found).2, state⟩, dropped,
    ends _ old found (by rw [state]; rfl) dropped, kept, found', state', fun j there => ?_⟩
  exact (later _ kept j found' there).2 (by rw [state']; rfl)

end Tracker

end DeviceWatch
