import DeviceWatch.Proofs.Pool.Frames

/-!
# Polls under way

A poll is under way from its acceptance until the claim on its connector is released: first its
record is open, and whoever closes the record owes the release.  All the time its connector is in
flight.
-/

namespace DeviceWatch

/-- The task whose record has been closed. -/
def Closing.task : Closing → Uuid
  | cancelled j => j.taskId
  | concluded e _ | dropped e | leaving e => e.task.id

namespace Tracker

/-- The record of the task is that of a poll of the connector, and is open. -/
def IsOpen (t : Tracker) (task : Uuid) (id : String) : Prop :=
  ∃ j, t.jobs.find? task = some j ∧ j.connectorId = some id ∧ j.state.isTerminal = false

variable {t t' : Tracker} {task : Uuid} {id : String} {old new : Job}

theorem IsOpen.retains (h : t.IsOpen task id) (retains : t.Retains t') : t'.IsOpen task id := by
  obtain ⟨j, found, connector, live⟩ := h
  exact ⟨j, retains.live found live, connector, live⟩

theorem IsOpen.moves (h : t.IsOpen task id) (moves : t.Moves t' old new)
    (goesOn : old.taskId = task → new.state.isTerminal = false) : t'.IsOpen task id := by
  obtain ⟨j, found, connector, live⟩ := h
  by_cases same : old.taskId = task
  · have stored := moves.stored
    rw [same, found] at stored
    cases stored
    refine ⟨new, ?_, moves.sameConnector.trans connector, goesOn same⟩
    rw [← same]
    exact moves.moved (goesOn same)
  · exact ⟨j, moves.live (Ne.symm same) found live, connector, live⟩

theorem IsOpen.enqueue (h : t.IsOpen task id) {other : Task}
    (fresh : t.jobs.find? other.id = none) (now : Instant) :
    (t.enqueue other now).2.IsOpen task id := by
  obtain ⟨j, found, rest⟩ := h
  refine ⟨j, ?_, rest⟩
  rw [enqueue_find?, if_neg, found]
  rintro rfl
  rw [fresh] at found
  cases found

theorem IsOpen.openPolls (h : t.IsOpen task id) : 0 < (t.openPolls id).length := by
  obtain ⟨j, found, connector, live⟩ := h
  rw [length_openPolls, List.countP_pos_iff]
  exact ⟨j, OrderedMap.mem_values_iff.mpr ⟨task, found⟩, by simp [Job.isOpenPoll, connector, live]⟩

end Tracker

namespace PollTraffic

variable {s : PollTraffic} {event : PollEvent} {id : String} {task : Uuid}

/-- The poll of the connector by the task is under way: its record is open, or its claim is still to
be released. -/
def Polls (s : PollTraffic) (task : Uuid) (id : String) : Prop :=
  s.pool.tracker.IsOpen task id ∨ ∃ c ∈ s.closings, c.task = task ∧ c.owes = some id

theorem Sound.isInFlight_of_owned (h : s.Sound) (owned : 0 < s.owners id) :
    s.pool.registry.isInFlight id = true := by
  have balanced := h.balanced id
  split at balanced
  · assumption
  · omega

theorem owners_pos_of_claim {c : Claim} (there : c ∈ s.claims) :
    0 < s.owners c.ticket.connectorId := by
  have owned : 0 < s.claims.countP (·.isFor c.ticket.connectorId) :=
    List.countP_pos_iff.mpr ⟨c, there, decide_eq_true rfl⟩
  unfold owners
  omega

theorem owners_pos_of_closing {c : Closing} (there : c ∈ s.closings) (owes : c.owes = some id) :
    0 < s.owners id := by
  have owned : 0 < s.closings.countP (·.isFor id) :=
    List.countP_pos_iff.mpr ⟨c, there, decide_eq_true owes⟩
  unfold owners
  omega

theorem Polls.owners_pos (polls : s.Polls task id) : 0 < s.owners id := by
  rcases polls with isOpen | ⟨c, there, -, owes⟩
  · have owned := isOpen.openPolls
    unfold owners
    omega
  · exact owners_pos_of_closing there owes

theorem Polls.isInFlight (polls : s.Polls task id) (h : s.Sound) :
    s.pool.registry.isInFlight id = true := h.isInFlight_of_owned polls.owners_pos

theorem cancelQueued_eq (s : PollTraffic) (task : Uuid) (now : Instant) :
    s.cancelQueued task now = s ∨
      ∃ j tracker, s.pool.tracker.cancelQueued task now = .ok (some j, tracker) ∧
        (s.cancelQueued task now).pool.tracker = tracker ∧
        (s.cancelQueued task now).closings = s.closings ++ [.cancelled j] := by
  unfold cancelQueued
  split
  · rename_i j tracker done
    exact .inr ⟨j, tracker, done, rfl, rfl⟩
  · exact .inl rfl

theorem mem_closings_step {c : Closing} (there : c ∈ s.closings)
    (notNext : ∀ i problem now, event = .proceed i problem now → s.closings[i]? ≠ some c) :
    c ∈ (s.step event).closings := by
  cases written : event.writesClosings with
  | false => rwa [step_closings written]
  | true =>
    cases event with
    | cancelQueued task now =>
      simp only [step, cancelQueued]
      split
      · exact List.mem_append_left _ there
      · exact there
    | finish i ending now =>
      simp only [step, finish]
      cases s.pool.running[i]? with
      | none => exact there
      | some e =>
        simp only [Option.elim_some]
        split
        · exact there
        · split <;> exact List.mem_append_left _ there
    | proceed i problem now =>
      cases here : s.closings[i]? with
      | none => simpa [step, here] using there
      | some next =>
        have other : c ≠ next := by
          rintro rfl
          exact notNext i problem now rfl here
        simp only [step, here, Option.elim_some]
        cases next with
        | cancelled j => exact mem_eraseIdx_of_ne here there other
        | leaving e => exact mem_eraseIdx_of_ne here there other
        | _ => exact mem_set_of_ne here there other _
    | _ => cases written

theorem isOpen_submit {p p' : Pool} (isOpen : p.tracker.IsOpen task id) {t : Task}
    (fresh : p.tracker.jobs.find? t.id = none) {now : Instant} {answer : Outcome Job}
    (done : p.submit t now = (answer, p')) : p'.tracker.IsOpen task id := by
  cases answer with
  | ok j =>
    rw [Pool.submit_eq_ok done]
    exact isOpen.enqueue fresh now
  | error e =>
    obtain ⟨metrics, rfl⟩ := Pool.submit_eq_error done
    exact isOpen

theorem polls_cancelQueued (h : s.Sound) (isOpen : s.pool.tracker.IsOpen task id) (t : Uuid)
    (now : Instant) : (s.cancelQueued t now).Polls task id := by
  rcases s.cancelQueued_eq t now with same | ⟨j, tracker, done, rfl, closings⟩
  · rw [same]
    exact .inl isOpen
  · rcases Tracker.cancelQueued_eq_ok h.files.ownIds done with ⟨nothing, -⟩ |
      ⟨old, new, closed, rfl, queued, ended, moves⟩
    · cases nothing
    · cases closed
      by_cases same : old.taskId = task
      · obtain ⟨own, found, connector, -⟩ := isOpen
        have stored := moves.stored
        rw [same, found] at stored
        cases stored
        refine .inr ⟨.cancelled j, ?_, moves.sameTask.trans same, ?_⟩
        · rw [closings]
          exact List.mem_append_right _ List.mem_cons_self
        · exact moves.sameConnector.trans connector
      · exact .inl (isOpen.moves moves fun own => absurd own same)

theorem polls_finish (h : s.Sound) (isOpen : s.pool.tracker.IsOpen task id) {e : Execution}
    (there : e ∈ s.pool.running) (ending : Ending) (now : Instant) :
    (s.finish e ending now).Polls task id := by
  rcases h.finish_eq there ending now with same |
    ⟨old, j, tracker, found, connector, done, metrics, finished⟩
  · rw [same]
    exact .inl isOpen
  · rw [finished]
    obtain ⟨prior, ownId, -, -, moves⟩ := Tracker.finish_eq_ok h.files.ownIds done
    by_cases same : e.task.id = task
    · obtain ⟨current, stored, own, -⟩ := isOpen
      rw [← same, found] at stored
      cases stored
      refine .inr ⟨.concluded e ending, ?_, same, connector.symm.trans own⟩
      exact List.mem_append_right _ List.mem_cons_self
    · exact .inl (isOpen.moves moves fun own => absurd (ownId.symm.trans own) same)

theorem polls_step_of_isOpen (h : s.Sound) (isOpen : s.pool.tracker.IsOpen task id)
    (event : PollEvent) : (s.step event).Polls task id := by
  cases written : event.writesTracker with
  | false =>
    left
    rwa [step_tracker written]
  | true =>
    cases event with
    | submit i t now =>
      simp only [step, submit]
      cases s.claims[i]? with
      | none => exact .inl isOpen
      | some c =>
        simp only [Option.elim_some]
        split
        · exact .inl isOpen
        · rename_i admissible
          have unused : t ∉ s.accepted := by simp_all
          split <;> rename_i done <;> exact .inl (isOpen_submit isOpen (h.files.fresh unused) done)
    | submitJob kind spec t now =>
      simp only [step, submitJob]
      split
      · exact .inl isOpen
      · rename_i admissible
        have unused : t ∉ s.accepted := by simpa using admissible
        split <;> rename_i done <;> exact .inl (isOpen_submit isOpen (h.files.fresh unused) done)
    | cancelQueued t now =>
      rw [step]
      exact polls_cancelQueued h isOpen t now
    | start i worker course now =>
      simp only [step, start]
      cases s.pool.queue[i]? with
      | none => exact .inl isOpen
      | some t =>
        simp only [Option.elim_some]
        split
        · split
          · rename_i done
            obtain ⟨old, -, -, running, moves⟩ := Tracker.start_eq_ok h.files.ownIds done
            refine .inl (isOpen.moves moves fun _ => ?_)
            rw [running]
            rfl
          · exact .inl isOpen
        · exact .inl isOpen
    | report t r now =>
      rcases Tracker.report_eq h.files.ownIds t r now with same | ⟨old, new, state, moves⟩
      · left
        show (s.pool.tracker.report t r now).IsOpen task id
        rwa [same]
      · refine .inl (isOpen.moves moves fun own => ?_)
        obtain ⟨prior, found, -, live⟩ := isOpen
        have stored := moves.stored
        rw [own, found] at stored
        cases stored
        rw [state]
        exact live
    | finish i ending now =>
      cases here : s.pool.running[i]? with
      | none => simpa [step, here] using .inl isOpen
      | some e =>
        have there := List.mem_of_getElem? here
        simpa only [step, here, Option.elim_some] using polls_finish h isOpen there ending now
    | prune keep => exact .inl (isOpen.retains (s.pool.tracker.prune_retains keep))
    | _ => cases written

/-- A poll under way goes on until its claim is released. -/
theorem Polls.step (polls : s.Polls task id) (h : s.Sound) (event : PollEvent) :
    (s.step event).Polls task id ∨ ∃ i problem now c, event = .proceed i problem now ∧
      s.closings[i]? = some c ∧ c.task = task ∧ c.owes = some id := by
  rcases polls with isOpen | ⟨c, there, own, owes⟩
  · exact .inl (polls_step_of_isOpen h isOpen event)
  · by_cases next : ∃ i problem now, event = .proceed i problem now ∧ s.closings[i]? = some c
    · obtain ⟨i, problem, now, same, here⟩ := next
      exact .inr ⟨i, problem, now, c, same, here, own, owes⟩
    · refine .inl (.inr ⟨c, mem_closings_step there fun i problem now same here => ?_, own, owes⟩)
      exact next ⟨i, problem, now, same, here⟩

end PollTraffic

end DeviceWatch
