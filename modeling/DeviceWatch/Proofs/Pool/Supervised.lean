import DeviceWatch.Proofs.Pool.Supervision
import DeviceWatch.Proofs.Pool.Undisturbed

/-!
# Supervised executions that nothing disturbs

When an execution of the service is over, the events of its supervision lead to the same ending;
what the service then does in one go is a run that hands on what is delivered to the correlation.
-/

namespace DeviceWatch

/-- The phase after some occurrences, each of which was waited for. -/
def Phase.after? (p : Phase) (e : Execution) (config : WorkerConfig) (signalled : Bool) :
    List Occurrence → Option Phase
  | [] => some p
  | o :: rest => (p.next? e config signalled o).bind fun q => q.after? e config signalled rest

/-- What an execution of the service ends with is an ending of its supervision. -/
theorem Timeline.exists_occurrences_ending (t : Timeline) (e : Execution) {signalled : Bool}
    (told : e.cancelledAt.isSome = true → signalled = true) :
    ∃ os, Phase.starting.after? e t.service.config.workers signalled os =
      some (.ended (t.ending e).1) := by
  unfold ending
  cases course : e.course with
  | missing => exact ⟨[.resolved], by simp [Phase.after?, Phase.next?, course]⟩
  | maintenance =>
    let result := (Maintenance.run e.task e.cancelledAt.isSome t.now
      ⟨t.service.tracker, t.service.alerts⟩).1
    exact ⟨[.resolved, .answered result], by simp [Phase.after?, Phase.next?, course, result]⟩
  | external driver b =>
    cases cancelled : e.cancelledAt with
    | some at' =>
      have signal : signalled = true := told (by rw [cancelled]; rfl)
      exact ⟨[.resolved, .noticed, .graceOver], by simp [Phase.after?, Phase.next?, course, signal]⟩
    | none =>
      by_cases done : e.workEndsAt ≤ e.patienceEndsAt t.service.config.workers
      · let result := (t.finishWork e driver b).1
        refine ⟨[.resolved, .answered result], ?_⟩
        simp [Phase.after?, Phase.next?, course, done, result]
      · exact ⟨[.resolved, .timedOut], by simp [Phase.after?, Phase.next?, course, done]⟩

namespace Supervision

variable {s : Supervision} {i : Nat} {e : Execution}

theorem run_occur (here : s.traffic.pool.running[i]? = some e) {os : List Occurrence} {p : Phase}
    (after : (s.phase e.task.id).after? e s.traffic.pool.config
      (s.signalled.contains e.task.id) os = some p) :
    (s.run (os.map (.occur i))).phase e.task.id = p ∧
      (s.run (os.map (.occur i))).traffic = s.traffic ∧
      (s.run (os.map (.occur i))).handedOn = s.handedOn := by
  induction os generalizing s with
  | nil => exact ⟨Option.some.inj after, rfl, rfl⟩
  | cons o rest ih =>
    obtain ⟨q, next, later⟩ := Option.bind_eq_some_iff.mp after
    have stepped : s.step (.occur i o) = s.enter e.task.id q := by
      simp only [step, act, handsOn, here, Option.elim_some, occur, next, List.append_nil]
      rfl
    have entered : (s.enter e.task.id q).phase e.task.id = q := if_pos rfl
    rw [List.map_cons, run_cons, stepped]
    exact ih (s := s.enter e.task.id q) here (entered.symm ▸ later)

theorem exists_run_ending (t : Timeline) (here : s.traffic.pool.running[i]? = some e)
    (starting : s.phase e.task.id = .starting)
    (config : s.traffic.pool.config = t.service.config.workers)
    (told : e.cancelledAt.isSome = true → e.task.id ∈ s.signalled) :
    ∃ events, (s.run events).phase e.task.id = .ended (t.ending e).1 ∧
      (s.run events).traffic = s.traffic ∧ (s.run events).handedOn = s.handedOn := by
  obtain ⟨os, after⟩ := t.exists_occurrences_ending e fun cancelled =>
    List.contains_iff_mem.mpr (told cancelled)
  rw [← starting, ← config] at after
  exact ⟨os.map (.occur i), run_occur here after⟩

end Supervision

def Service.handover? (v : Service) (e : Execution) (ending : Ending) (now : Instant) :
    Option Handover :=
  if (v.pool.record e ending now).1 then ending.handover? e.task else none

/-- Alerts change by the delivery of what is handed on and in no other way. -/
theorem Service.conclude_alerts (v : Service) (e : Execution) (ending : Ending) (now : Instant) :
    (v.conclude e ending now).alerts =
      match v.handover? e ending now with
      | some d =>
        ((v.setPool (v.pool.record e ending now).2).deliver d.connectorId d.findings now).2.alerts
      | none => v.alerts := by
  unfold conclude handover? Ending.handover?
  rcases v.pool.record e ending now with ⟨first, p⟩
  cases first with
  | false => rfl
  | true =>
    cases e.task.connectorId with
    | none => rfl
    | some id =>
      cases nothing : ending.findings.isEmpty with
      | false => rfl
      | true => simp [deliver, nothing, setPool]

theorem PollTraffic.finish_closings {s : PollTraffic} {e : Execution}
    (working : e.task.id ∉ s.past) (ending : Ending) (now : Instant) :
    ∃ c : Closing, (s.finish e ending now).closings = s.closings ++ [c] ∧
      (c = .concluded e ending ∧ (s.pool.record e ending now).1 = true ∨
        c = .dropped e ∧ (s.pool.record e ending now).1 = false) := by
  unfold PollTraffic.finish Pool.record
  rw [if_neg (by simpa using working)]
  cases s.pool.tracker.finish e.task.id ending.state (ending.error e.task) ending.result now with
  | ok r => exact ⟨.concluded e ending, rfl, .inl ⟨rfl, rfl⟩⟩
  | error problem => exact ⟨.dropped e, rfl, .inr ⟨rfl, rfl⟩⟩

namespace Supervision

variable {s : Supervision} {i : Nat} {e : Execution}

/-- The end of an execution is a run of events, and it hands on what the service delivers. -/
theorem exists_run_conclude {v : Service} (h : s.traffic.Stands v.dispatcher)
    (here : v.pool.running[i]? = some e) (working : e.task.id ∉ s.traffic.past) {ending : Ending}
    (settled : s.phase e.task.id = .ended ending) (now : Instant) :
    ∃ events,
      (s.run events).traffic.Stands
        { v.dispatcher with pool := (v.conclude e ending now).pool } ∧
      (s.run events).traffic.closings = s.traffic.closings ∧
      (s.run events).handedOn = s.handedOn ++ (v.handover? e ending now).toList := by
  obtain ⟨problem, stands, -, closings⟩ := h.conclude_run here working ending now
  let n := s.traffic.closings.length
  let proceed := Event.traffic (.proceed n problem now)
  let leave := Event.traffic (.proceed n none now)
  have samePool : s.traffic.pool = v.pool := h.pool
  have concluded : (s.step (.conclude i now)).traffic = s.traffic.finish e ending now := by
    simp [step, act, samePool, here, conclude, settled, setTraffic]
  have finished : (s.step (.conclude i now)).traffic = s.traffic.step (.finish i ending now) := by
    rw [concluded]
    simp [PollTraffic.step, samePool, here]
  have ran : (s.run [.conclude i now, proceed, leave]).traffic =
      .run s.traffic [.finish i ending now, .proceed n problem now, .proceed n none now] := by
    rw [PollTraffic.run_cons, ← finished]
    rfl
  refine ⟨[.conclude i now, proceed, leave], ran ▸ stands, ran ▸ closings, ?_⟩
  obtain ⟨c, closing, kind⟩ := PollTraffic.finish_closings working ending now
  have first : (s.step (.conclude i now)).handsOn proceed = (v.handover? e ending now).toList := by
    have there : (s.step (.conclude i now)).traffic.closings[n]? = some c := by
      rw [concluded, closing]
      simp [n]
    rw [samePool] at kind
    rcases kind with ⟨rfl, accepted⟩ | ⟨rfl, refused⟩
    · simp [proceed, handsOn, there, Closing.handover?, Service.handover?, accepted]
    · simp [proceed, handsOn, there, Closing.handover?, Service.handover?, refused]
  have second : ((s.step (.conclude i now)).step proceed).handsOn leave = [] := by
    have left : ((s.step (.conclude i now)).step proceed).traffic.closings =
        s.traffic.closings ++ [.leaving e] := by
      show ((s.step (.conclude i now)).traffic.step (.proceed n problem now)).closings = _
      rw [concluded]
      rcases kind with ⟨rfl, -⟩ | ⟨rfl, -⟩ <;>
        simp [PollTraffic.step, closing, n, PollTraffic.proceed]
    simp [leave, handsOn, left, n, Closing.handover?]
  calc
    (s.run [.conclude i now, proceed, leave]).handedOn
      = s.handedOn ++ [] ++ (s.step (.conclude i now)).handsOn proceed ++
          ((s.step (.conclude i now)).step proceed).handsOn leave := rfl
    _ = s.handedOn ++ (v.handover? e ending now).toList := by simp [first, second]

end Supervision

end DeviceWatch
