import DeviceWatch.Proofs.Connector.Health
import DeviceWatch.Proofs.Job.Endings
import DeviceWatch.Proofs.Pool.Handover
import DeviceWatch.Proofs.Pool.UnderWay
import DeviceWatch.Proofs.Pool.Undisturbed

/-!
# Job and health agree

While a poll is under way, its connector shows the health from before the claim, whatever is
requested meanwhile.  The release of the claim makes of that health what the record of the job says,
and so it stays until the connector is claimed again or removed.
-/

namespace DeviceWatch

def Claim.before (c : Claim) : Health :=
  ⟨c.ticket.previousStatus, c.snapshot.errorMessage, c.snapshot.consecutiveFailures⟩

/-- A claim remembers the health before it, and when it was made. -/
theorem Claim.before_of_markPollStart {r r' : Registry} {id : String} {c snapshot : Connector} {ticket : PollTicket}
    {now : Instant} (registered : r.connectors.find? id = some c)
    (granted : r.markPollStart id now = .ok (ticket, snapshot, r')) (kind : JobKind) :
    let q : Claim := ⟨ticket, snapshot, kind, false⟩
    q.ticket.connectorId = id ∧ q.before = c.health ∧ q.snapshot.lastPollAt = some now := by
  obtain ⟨-, old, found, -, rfl, rfl, -⟩ := Registry.markPollStart_eq granted
  rw [registered] at found
  cases found
  exact ⟨rfl, rfl, rfl⟩

namespace Closing

def outcome (problem : Option String) : Closing → PollOutcome
  | concluded e ending => ending.pollOutcome e.task problem
  | _ => .cancelled

/-- The record of a poll has been closed, and the release of the claim will say the same. -/
def Settled (c : Closing) (t : Tracker) : Prop :=
  c.owes ≠ none → ∃ state error, t.Ended c.task state error ∧
    (state = .failed → error.isSome = true) ∧
    ∀ (h : Health) problem, h.after (c.outcome problem) = h.afterJob error problem state

variable {c : Closing} {t t' : Tracker} {written : Option Job}

theorem Settled.change (settled : c.Settled t) (change : t.Change written t') : c.Settled t' := by
  intro owing
  obtain ⟨state, error, ended, agrees⟩ := settled owing
  exact ⟨state, error, change.ended ended, agrees⟩

theorem settled_cancelled {j : Job}
    (ended : t.Ended j.taskId .cancelled (some "cancelled before start")) :
    (cancelled j).Settled t :=
  fun _ => ⟨.cancelled, _, ended, nofun, fun _ _ => rfl⟩

theorem settled_concluded {e : Execution} {ending : Ending}
    (ended : t.Ended e.task.id ending.state (ending.error e.task)) :
    (concluded e ending).Settled t := by
  refine fun _ => ⟨_, _, ended, fun failed => ?_, fun h problem => ?_⟩
  · cases ending with
    | failed message => rfl
    | timedOut secs => rfl
    | _ => cases failed
  · exact h.after_pollOutcome ending e.task problem

theorem settled_leaving (e : Execution) (t : Tracker) : (leaving e).Settled t :=
  fun owing => absurd rfl owing

end Closing

def PollEvent.Takes (event : PollEvent) (id : String) : Prop :=
  match event with
  | claim k _ _ | remove k => k = id
  | _ => False

namespace PollTraffic

variable {s : PollTraffic} {event : PollEvent} {id : String} {task : Uuid}
  {claimed : Option ConnectorStatus} {h : Health} {polledAt : Option Instant}

inductive Releases (s : PollTraffic) : PollEvent → String → Prop
  | abort {i : Nat} {c : Claim} (here : s.claims[i]? = some c) (refused : c.refused = true) :
    s.Releases (.abort i) c.ticket.connectorId
  | proceed {i : Nat} {c : Closing} {id : String} {problem : Option String} {now : Instant}
    (here : s.closings[i]? = some c) (owes : c.owes = some id) :
    s.Releases (.proceed i problem now) id

theorem proceed_registry {i : Nat} {c : Closing} (here : s.closings[i]? = some c)
    (owes : c.owes = some id) (problem : Option String) (now : Instant) :
    (s.step (.proceed i problem now)).pool.registry =
      (s.pool.registry.markPollResult id (c.outcome problem) now).2 := by
  have released (outcome : PollOutcome) : (s.pool.release c.owes outcome now).registry =
      (s.pool.registry.markPollResult id outcome now).2 := by
    rw [owes]
    rfl
  simp only [step, here, Option.elim_some]
  cases c with
  | leaving e => cases owes
  | _ => exact released _

theorem Releases.free (releases : s.Releases event id) :
    (s.step event).pool.registry.isInFlight id = false := by
  cases releases with
  | @abort i c here refused =>
    have aborted : (s.step (.abort i)).pool.registry = s.pool.registry.abortPollStart c.ticket := by
      simp only [step, here, Option.elim_some, PollTraffic.abort, refused, if_true]
      rfl
    rw [aborted, Registry.abortPollStart_isInFlight]
    simp
  | proceed here owes =>
    rw [proceed_registry here owes, Registry.markPollResult_isInFlight]
    simp

theorem Releases.owners_pos (releases : s.Releases event id) : 0 < s.owners id := by
  cases releases with
  | abort here refused => exact owners_pos_of_claim (List.mem_of_getElem? here)
  | proceed here owes => exact owners_pos_of_closing (List.mem_of_getElem? here) owes

inductive Writes (s : PollTraffic) : PollEvent → Registry → Prop
  | none {event : PollEvent} : s.Writes event s.pool.registry
  | upsert {id : String} {input : ConnectorInput} {now : Instant} {c : Connector} {r : Registry}
    (done : s.pool.registry.upsert id input now = .ok (c, r)) : s.Writes (.upsert id input now) r
  | setEnabled {id : String} {enabled : Bool} {now : Instant} {c : Connector} {r : Registry}
    (done : s.pool.registry.setEnabled id enabled now = .ok (c, r)) :
    s.Writes (.setEnabled id enabled now) r
  | remove {id : String} {c : Connector} {r : Registry}
    (done : s.pool.registry.remove id = .ok (c, r)) : s.Writes (.remove id) r
  | claim {id : String} {kind : JobKind} {now : Instant} {ticket : PollTicket} {c : Connector}
    {r : Registry} (done : s.pool.registry.markPollStart id now = .ok (ticket, c, r)) :
    s.Writes (.claim id kind now) r
  | abort {i : Nat} {c : Claim} (here : s.claims[i]? = some c) (refused : c.refused = true) :
    s.Writes (.abort i) (s.pool.registry.abortPollStart c.ticket)
  | release {i : Nat} {c : Closing} {id : String} {problem : Option String} {now : Instant}
    (here : s.closings[i]? = some c) (owes : c.owes = some id) :
    s.Writes (.proceed i problem now)
      (s.pool.registry.markPollResult id (c.outcome problem) now).2

theorem writes_configure {outcome : Outcome (Connector × Registry)}
    (done : ∀ c r, outcome = .ok (c, r) → s.Writes event r) :
    s.Writes event (s.configure outcome).pool.registry := by
  cases outcome with
  | ok result => exact done result.1 result.2 rfl
  | error e => exact .none

theorem writes (s : PollTraffic) (event : PollEvent) :
    s.Writes event (s.step event).pool.registry := by
  cases written : event.writesRegistry with
  | false =>
    rw [step_registry written]
    exact .none
  | true =>
    cases event with
    | upsert k input now => exact writes_configure fun c r done => .upsert done
    | setEnabled k enabled now => exact writes_configure fun c r done => .setEnabled done
    | remove k => exact writes_configure fun c r done => .remove done
    | claim k kind now =>
      simp only [step, claim]
      split
      · rename_i done
        exact .claim done
      · exact .none
    | abort i =>
      cases here : s.claims[i]? with
      | none =>
        simp only [step, here, Option.elim_none]
        exact .none
      | some c =>
        simp only [step, here, Option.elim_some, abort]
        split
        · rename_i refused
          exact .abort here refused
        · exact .none
    | proceed i problem now =>
      cases here : s.closings[i]? with
      | none =>
        simp only [step, here, Option.elim_none]
        exact .none
      | some c =>
        cases owes : c.owes with
        | some k =>
          rw [proceed_registry here owes]
          exact .release here owes
        | none =>
          have same : (s.step (.proceed i problem now)).pool.registry = s.pool.registry := by
            simp only [step, here, Option.elim_some]
            cases c with
            | leaving e => rfl
            | _ => exact congrArg (fun o => (s.pool.release o _ now).registry) owes
          rw [same]
          exact .none
    | _ => cases written

/-- The health of a connector stays while nobody releases its claim, or claims or removes it. -/
theorem shows_step (shows : s.pool.registry.Shows id claimed h polledAt)
    (held : ¬ s.Releases event id) (left : claimed = none → ¬ event.Takes id) :
    (s.step event).pool.registry.Shows id claimed h polledAt := by
  have writes := s.writes event
  generalize (s.step event).pool.registry = r at writes ⊢
  cases writes with
  | none => exact shows
  | upsert done => exact shows.upsert done
  | setEnabled done => exact shows.setEnabled done
  | remove done => exact shows.remove done fun same free => left free same
  | claim done => exact shows.markPollStart done fun same free => left free same
  | abort here refused =>
    refine shows.abortPollStart ?_
    rintro rfl
    exact held (.abort here refused)
  | release here owes =>
    refine shows.markPollResult_of_ne ?_ _ _
    rintro rfl
    exact held (.proceed here owes)

/-- What holds in every state that traffic leads to: claimed connectors show their health from
before the claim, and records that have been closed agree with the releases that are owed. -/
structure Tended (s : PollTraffic) : Prop extends s.Sound, s.Filed where
  claimed : ∀ c ∈ s.claims, s.pool.registry.Shows c.ticket.connectorId (some c.before.status)
    c.before.polling c.snapshot.lastPollAt
  settled : ∀ c ∈ s.closings, c.Settled s.pool.tracker

/-- A claim is there already, or it is made right now. -/
theorem mem_claims_step {c : Claim} (there : c ∈ (s.step event).claims) :
    (∃ old ∈ s.claims, old.ticket = c.ticket ∧ old.snapshot = c.snapshot ∧ old.kind = c.kind) ∨
      ∃ k now, event = .claim k c.kind now ∧ s.pool.registry.markPollStart k now =
        .ok (c.ticket, c.snapshot, (s.step event).pool.registry) := by
  cases written : event.writesClaims with
  | false =>
    rw [step_claims written] at there
    exact .inl ⟨c, there, rfl, rfl, rfl⟩
  | true =>
    cases event with
    | claim k kind now =>
      simp only [step, claim] at there ⊢
      split at there
      · rename_i ticket snapshot r done
        rcases List.mem_append.mp there with old | new
        · exact .inl ⟨c, old, rfl, rfl, rfl⟩
        · obtain rfl := List.mem_singleton.mp new
          exact .inr ⟨k, now, rfl, by simp only [done]; rfl⟩
      · exact .inl ⟨c, there, rfl, rfl, rfl⟩
    | submit i t now =>
      left
      cases here : s.claims[i]? with
      | none =>
        simp only [step, here, Option.elim_none] at there
        exact ⟨c, there, rfl, rfl, rfl⟩
      | some d =>
        simp only [step, here, Option.elim_some, submit] at there
        split at there
        · exact ⟨c, there, rfl, rfl, rfl⟩
        · split at there
          · exact ⟨c, List.mem_of_mem_eraseIdx there, rfl, rfl, rfl⟩
          · rcases List.mem_or_eq_of_mem_set there with old | rfl
            · exact ⟨c, old, rfl, rfl, rfl⟩
            · exact ⟨d, List.mem_of_getElem? here, rfl, rfl, rfl⟩
    | refuse i =>
      left
      cases here : s.claims[i]? with
      | none =>
        simp only [step, here, Option.elim_none] at there
        exact ⟨c, there, rfl, rfl, rfl⟩
      | some d =>
        simp only [step, here, Option.elim_some, refuse] at there
        rcases List.mem_or_eq_of_mem_set there with old | rfl
        · exact ⟨c, old, rfl, rfl, rfl⟩
        · exact ⟨d, List.mem_of_getElem? here, rfl, rfl, rfl⟩
    | abort i =>
      left
      cases here : s.claims[i]? with
      | none =>
        simp only [step, here, Option.elim_none] at there
        exact ⟨c, there, rfl, rfl, rfl⟩
      | some d =>
        simp only [step, here, Option.elim_some, abort] at there
        split at there
        · exact ⟨c, List.mem_of_mem_eraseIdx there, rfl, rfl, rfl⟩
        · exact ⟨c, there, rfl, rfl, rfl⟩
    | _ => cases written

theorem Tended.claimed_step (tended : s.Tended) (event : PollEvent) {c : Claim}
    (there : c ∈ (s.step event).claims) :
    (s.step event).pool.registry.Shows c.ticket.connectorId (some c.before.status)
      c.before.polling c.snapshot.lastPollAt := by
  have held : ¬ s.Releases event c.ticket.connectorId := by
    intro releases
    have flying := (tended.toSound.step event).isInFlight_of_owned (owners_pos_of_claim there)
    rw [releases.free] at flying
    cases flying
  rcases mem_claims_step there with ⟨old, before, ticket, snapshot, -⟩ | ⟨k, now, rfl, done⟩
  · have shows := tended.claimed old before
    simp only [Claim.before, ticket, snapshot] at shows ⊢
    exact shows_step shows held nofun
  · obtain ⟨-, old, found, -⟩ := Registry.markPollStart_eq done
    obtain ⟨rfl, health, polledAt⟩ := Claim.before_of_markPollStart found done c.kind
    have shows := Registry.shows_markPollStart found done
    rw [← health, ← polledAt] at shows
    exact shows

/-- Whoever closes a record of a poll will release its claim as the record says. -/
theorem Tended.settled_step (tended : s.Tended) (event : PollEvent) {c : Closing}
    (there : c ∈ (s.step event).closings) : c.Settled (s.step event).pool.tracker := by
  have old (before : c ∈ s.closings) : c.Settled (s.step event).pool.tracker := by
    obtain ⟨written, change⟩ := (tended.toFiled.step event).change
    exact (tended.settled c before).change change
  cases written : event.writesClosings with
  | false =>
    rw [step_closings written] at there
    exact old there
  | true =>
    cases event with
    | cancelQueued t now =>
      rw [PollTraffic.step] at there old ⊢
      rcases s.cancelQueued_eq t now with same | ⟨j, tracker, done, rfl, closings⟩
      · rw [same] at there
        exact old there
      · rw [closings] at there
        rcases List.mem_append.mp there with before | new
        · exact old before
        · obtain rfl := List.mem_singleton.mp new
          obtain ⟨rfl, ended⟩ := Tracker.cancelQueued_ended tended.records done
          exact Closing.settled_cancelled ended
    | finish i ending now =>
      cases here : s.pool.running[i]? with
      | none =>
        simp only [step, here, Option.elim_none] at there old ⊢
        exact old there
      | some e =>
        simp only [step, here, Option.elim_some] at there old ⊢
        rcases tended.finish_eq (List.mem_of_getElem? here) ending now with same |
          ⟨-, j, tracker, -, -, done, metrics, finished⟩
        · rw [same] at there
          exact old there
        · rw [finished] at there old ⊢
          rcases List.mem_append.mp there with before | new
          · exact old before
          · obtain rfl := List.mem_singleton.mp new
            exact Closing.settled_concluded (Tracker.finish_ended tended.records done)
    | proceed i problem now =>
      cases here : s.closings[i]? with
      | none =>
        simp only [step, here, Option.elim_none] at there old ⊢
        exact old there
      | some next =>
        have left (e : Execution) (changed : c ∈ s.closings.set i (.leaving e)) :
            c.Settled (s.step (.proceed i problem now)).pool.tracker := by
          rcases List.mem_or_eq_of_mem_set changed with before | rfl
          · exact old before
          · exact Closing.settled_leaving e _
        simp only [step, here, Option.elim_some] at there old left ⊢
        cases next with
        | cancelled j => exact old (List.mem_of_mem_eraseIdx there)
        | leaving e => exact old (List.mem_of_mem_eraseIdx there)
        | concluded e ending => exact left e there
        | dropped e => exact left e there
    | _ => cases written

theorem Tended.step (tended : s.Tended) (event : PollEvent) : (s.step event).Tended where
  toSound := tended.toSound.step event
  toFiled := (tended.toFiled.step event).filed
  claimed _ there := tended.claimed_step event there
  settled _ there := tended.settled_step event there

theorem tended_initial (workers : WorkerConfig) (historyLimit : Nat) (dispatch : DispatchConfig) :
    (initial workers historyLimit dispatch).Tended where
  toSound := sound_initial workers historyLimit dispatch
  toFiled := filed_initial workers historyLimit dispatch
  claimed _ there := nomatch there
  settled _ there := nomatch there

theorem Tended.run (tended : s.Tended) (events : List PollEvent) : (run s events).Tended :=
  run_induction tended (fun _ event tended => tended.step event) events

theorem run_append_singleton (s : PollTraffic) (events : List PollEvent) (event : PollEvent) :
    PollTraffic.run s (events ++ [event]) = (PollTraffic.run s events).step event :=
  run_append s events [event]

/-- The connector of an accepted poll shows its health from before the claim. -/
theorem Tended.submit (tended : s.Tended) {i : Nat} {c : Claim} (held : s.claims[i]? = some c)
    {now : Instant} (unused : task ∉ s.accepted)
    (accepted : task ∈ (s.step (.submit i task now)).accepted) :
    (s.step (.submit i task now)).Polls task c.ticket.connectorId ∧
      (s.step (.submit i task now)).pool.registry.Shows c.ticket.connectorId
        (some c.before.status) c.before.polling c.snapshot.lastPollAt := by
  have there := List.mem_of_getElem? held
  refine ⟨?_, shows_step (tended.claimed c there) nofun nofun⟩
  simp only [PollTraffic.step, held, Option.elim_some, PollTraffic.submit] at accepted ⊢
  split at accepted
  · exact absurd accepted unused
  · rename_i admissible
    rw [if_neg admissible]
    split at accepted
    · rename_i j p done
      refine .inl ⟨Task.toJob ⟨task, c.kind, .poll c.snapshot⟩ now, ?_, ?_, rfl⟩
      · rw [Pool.submit_eq_ok done]
        exact (Tracker.enqueue_find? _ _ _ _).trans (if_pos rfl)
      · exact congrArg some (tended.snapshots c there)
    · exact absurd accepted unused

theorem Tended.release (tended : s.Tended) {k : Nat} {c : Closing} (here : s.closings[k]? = some c)
    (owes : c.owes = some id) {before : Health}
    (shows : s.pool.registry.Shows id (some before.status) before.polling polledAt)
    (problem : Option String) (now : Instant) :
    let d := s.step (.proceed k problem now)
    ¬ d.Polls c.task id ∧ ∃ state error, d.pool.tracker.Ended c.task state error ∧
      (state = .failed → error.isSome = true) ∧
      d.pool.registry.Shows id none (before.afterJob error problem state) polledAt := by
  intro d
  have free : d.pool.registry.isInFlight id = false := Releases.free (.proceed here owes)
  refine ⟨fun polls => ?_, ?_⟩
  · rw [polls.isInFlight (tended.step _).toSound] at free
    cases free
  · obtain ⟨state, error, ended, failed, agrees⟩ :=
      tended.settled c (List.mem_of_getElem? here) (by simp [owes])
    refine ⟨state, error, ?_, failed, ?_⟩
    · show (s.step (.proceed k problem now)).pool.tracker.Ended c.task state error
      rw [step_tracker rfl]
      exact ended
    · show (s.step (.proceed k problem now)).pool.registry.Shows id none _ polledAt
      rw [proceed_registry here owes, ← agrees before problem]
      exact shows.markPollResult (c.outcome problem) now

/-- While a poll is under way its connector shows the health from before the claim; and it is under
way until its claim is released. -/
theorem Tended.polls_run (tended : s.Tended) (polls : s.Polls task id) {before : Health}
    (shows : s.pool.registry.Shows id (some before.status) before.polling polledAt)
    (events : List PollEvent) :
    (PollTraffic.run s events).Polls task id ∨
      ∃ first k problem now rest c, events = first ++ .proceed k problem now :: rest ∧
        (PollTraffic.run s first).closings[k]? = some c ∧ c.task = task ∧ c.owes = some id ∧
        (PollTraffic.run s first).pool.registry.Shows id (some before.status) before.polling
          polledAt := by
  induction events generalizing s with
  | nil => exact .inl polls
  | cons event rest ih =>
    rcases polls.step tended.toSound event with goesOn | ⟨k, problem, now, c, rfl, released⟩
    · have held : ¬ s.Releases event id := by
        intro releases
        have flying := goesOn.isInFlight (tended.step event).toSound
        rw [releases.free] at flying
        cases flying
      rcases ih (tended.step event) goesOn (shows_step shows held nofun) with still |
        ⟨first, k, problem, now, later, c, rfl, released⟩
      · exact .inl still
      · exact .inr ⟨event :: first, k, problem, now, later, c, rfl, released⟩
    · obtain ⟨here, own, owes⟩ := released
      exact .inr ⟨[], k, problem, now, rest, c, rfl, here, own, owes, shows⟩

/-- The health of a connector that is not in flight stays until it is claimed or removed. -/
theorem Tended.shows_run (tended : s.Tended) (shows : s.pool.registry.Shows id none h polledAt)
    {events : List PollEvent} (left : ∀ e ∈ events, ¬ e.Takes id) :
    (PollTraffic.run s events).pool.registry.Shows id none h polledAt := by
  induction events generalizing s with
  | nil => exact shows
  | cons event rest ih =>
    have held : ¬ s.Releases event id := by
      intro releases
      have flying := tended.isInFlight_of_owned releases.owners_pos
      rw [shows.isInFlight] at flying
      cases flying
    have stepped := shows_step shows held fun _ => left event List.mem_cons_self
    exact ih (tended.step event) stepped fun e later => left e (List.mem_cons_of_mem _ later)

/-- Whatever else happens, and however the poll ends, its connector is in flight until the pool is
done with it.  Then it is not, and its health follows from the ending on the record of the job: it is
sound after a success, unless something went wrong with the findings; after a failure it shows the
error of the job and one failure more; and after a cancel it is what it was before the claim.  The
time of the claim stays, and all that stays until the connector is claimed again or removed. -/
theorem health_follows_job (workers : WorkerConfig) (historyLimit : Nat)
    (dispatch : DispatchConfig) (before waiting during : List PollEvent) {id : String}
    {kind : JobKind} {claimedAt submittedAt : Instant} {i : Nat} {task : Uuid}
    {s₀ s₁ s₂ : PollTraffic} {c snapshot : Connector} {ticket : PollTicket} {r : Registry}
    (start : s₀ = run (initial workers historyLimit dispatch) before)
    (registered : s₀.pool.registry.connectors.find? id = some c)
    (granted : s₀.pool.registry.markPollStart id claimedAt = .ok (ticket, snapshot, r))
    (waited : s₁ = run s₀ (.claim id kind claimedAt :: waiting))
    (held : s₁.claims[i]? = some ⟨ticket, snapshot, kind, false⟩)
    (submitted : s₂ = s₁.step (.submit i task submittedAt))
    (unused : task ∉ s₁.accepted) (accepted : task ∈ s₂.accepted) :
    let failures := min (c.consecutiveFailures + 1) Json.word32Max
    (run s₂ during).Polls task id ∧ (run s₂ during).pool.registry.isInFlight id = true ∨
      ∃ first k problem now rest, during = first ++ .proceed k problem now :: rest ∧
        let d := run s₂ (first ++ [.proceed k problem now])
        ¬ d.Polls task id ∧ ∃ state error health, d.pool.tracker.Ended task state error ∧
          (state = .succeeded → problem = none → health = ⟨.connected, none, 0⟩) ∧
          (∀ message, state = .succeeded → problem = some message →
            health = ⟨.error, some message, failures⟩) ∧
          (state = .failed → error.isSome = true ∧ health = ⟨.error, error, failures⟩) ∧
          (state = .cancelled → health = ⟨c.status, c.errorMessage, c.consecutiveFailures⟩) ∧
          ∀ later, (∀ e ∈ later, ¬ e.Takes id) →
            (run d later).pool.registry.Shows id none health (some claimedAt) := by
  intro failures
  obtain ⟨connector, health, polledAt⟩ := Claim.before_of_markPollStart registered granted kind
  subst start waited submitted
  have tended₁ := ((tended_initial workers historyLimit dispatch).run before).run
    (.claim id kind claimedAt :: waiting)
  obtain ⟨polls, shows⟩ := tended₁.submit held unused accepted
  rw [connector] at polls
  rw [connector, health, polledAt] at shows
  have tended₂ := tended₁.step (.submit i task submittedAt)
  rcases tended₂.polls_run polls shows during with still |
    ⟨first, k, problem, now, rest, closing, rfl, here, rfl, owes, shows⟩
  · exact .inl ⟨still, still.isInFlight (tended₂.run during).toSound⟩
  · right
    refine ⟨first, k, problem, now, rest, rfl, ?_⟩
    intro d
    obtain ⟨done, state, error, ended, failed, shown⟩ :=
      (tended₂.run first).release here owes shows problem now
    rw [← run_append_singleton] at done ended shown
    refine ⟨done, state, error, c.health.afterJob error problem state, ended, ?_, ?_, ?_, ?_,
      fun later left => ?_⟩
    · rintro rfl rfl
      rfl
    · rintro message rfl rfl
      rfl
    · rintro rfl
      exact ⟨failed rfl, rfl⟩
    · rintro rfl
      rfl
    · exact Tended.shows_run (tended₂.run _) shown left

def registeredPing : List PollEvent :=
  [.upsert "edge-1" ⟨none, .ping { host := "10.1.1.1" }, true, none⟩ default]

/-- A poll runs into its timeout, and its connector is disabled meanwhile. -/
def disabledAndTimedOut : List PollEvent :=
  [.start 0 0 .missing default, .setEnabled "edge-1" false default,
    .finish 0 (.timedOut 30) default, .proceed 0 none default]

theorem health_follows_job_timedOut :
    let s₀ := run (initial {} 500 {}) registeredPing
    let s₁ := run s₀ [.claim "edge-1" .manual default]
    let s₂ := s₁.step (.submit 0 ⟨1⟩ default)
    let s := run s₂ disabledAndTimedOut
    let error := some "poll timed out after 30s"
    s.pool.tracker.Ended ⟨1⟩ .failed error ∧
      s.pool.registry.Shows "edge-1" none ⟨.error, error, 1⟩ (some default) := by
  intro s₀ s₁ s₂ s error
  have start : s₀ = run (initial {} 500 {}) registeredPing := rfl
  have waited : s₁ = run s₀ [.claim "edge-1" .manual default] := rfl
  have submitted : s₂ = s₁.step (.submit 0 ⟨1⟩ default) := rfl
  have reached : s = run s₂ disabledAndTimedOut := rfl
  have landed : s.pool.registry.isInFlight "edge-1" = false := by decide +kernel
  have published : (s.pool.tracker.latest ⟨1⟩).map (fun u => (u.state, u.error)) =
      some (.failed, error) := by decide +kernel
  obtain ⟨c, registered, failures⟩ :
      ∃ c, s₀.pool.registry.connectors.find? "edge-1" = some c ∧ c.consecutiveFailures = 0 :=
    ⟨_, rfl, rfl⟩
  obtain ⟨ticket, snapshot, r, granted⟩ : ∃ ticket snapshot r,
      s₀.pool.registry.markPollStart "edge-1" default = .ok (ticket, snapshot, r) :=
    ⟨_, _, _, rfl⟩
  have unclaimed : s₀.claims = [] := rfl
  have unused : (⟨1⟩ : Uuid) ∉ s₁.accepted := by decide +kernel
  have accepted : (⟨1⟩ : Uuid) ∈ s₂.accepted := by decide +kernel
  clear_value s s₂ s₁ s₀ error
  have held : s₁.claims[0]? = some ⟨ticket, snapshot, .manual, false⟩ := by
    rw [waited]
    show (s₀.claim "edge-1" .manual default).claims[0]? = _
    simp [claim, granted, unclaimed]
  rcases health_follows_job {} 500 {} registeredPing [] disabledAndTimedOut start registered granted
    waited held submitted unused accepted with ⟨-, flying⟩ |
    ⟨first, k, problem, now, rest, split, -, state, shown, health, ended, -, -, failed, -, stays⟩
  · rw [← reached, landed] at flying
    cases flying
  · -- The claim is released by the last of the four events.
    obtain rfl : rest = [] := by
      rcases first with _ | ⟨_, _ | ⟨_, _ | ⟨_, _ | _⟩⟩⟩ <;> simp_all [disabledAndTimedOut]
    rw [← split, ← reached] at ended
    have shows := stays [] (by simp)
    rw [← split, ← reached] at shows
    obtain ⟨u, latest, rfl, rfl⟩ := ended.published
    simp only [latest, Option.map_some, Option.some.injEq, Prod.mk.injEq] at published
    obtain ⟨state, rfl⟩ := published
    obtain ⟨-, rfl⟩ := failed state
    rw [failures] at shows
    exact ⟨state ▸ ended, shows⟩

end PollTraffic

namespace Service

/-- What went wrong with the findings: nothing if there were none or if they were ingested, and
otherwise the error of the ingestion. -/
theorem deliver_problem (v : Service) (id : String) (fs : List Finding) (now : Instant) :
    match (v.deliver id fs now).1 with
    | none => fs = [] ∨ v.storeAvailable = true ∧ ∃ counts, (v.ingest id fs now).1 = .ok counts
    | some message => fs ≠ [] ∧ ∃ e : ServiceError, message = "ingest failed: " ++ e.message ∧
        (v.storeAvailable = false ∨ (v.ingest id fs now).1 = .error e) := by
  unfold deliver
  by_cases nothing : fs = []
  · simp [nothing]
  · have some' : fs.isEmpty = false := List.isEmpty_eq_false_iff.mpr nothing
    cases available : v.storeAvailable with
    | false =>
      simp only [some', Bool.false_eq_true, if_false, Bool.not_false, if_true]
      exact ⟨nothing, _, rfl, .inl trivial⟩
    | true =>
      simp only [some', Bool.false_eq_true, if_false, Bool.not_true]
      rcases ingested : v.ingest id fs now with ⟨e | counts, v'⟩
      · exact ⟨nothing, e, rfl, .inr rfl⟩
      · exact .inr ⟨trivial, counts, rfl⟩

theorem record_registry {p : Pool} {e : Execution} {ending : Ending} {now : Instant}
    (first : (p.record e ending now).1 = true) :
    (p.record e ending now).2.registry = p.registry := by
  unfold Pool.record at first ⊢
  split
  · rfl
  · rename_i failed
    rw [failed] at first
    cases first

/-- The end of the execution that closes the record of a poll makes of the health of the connector
what the record says, with what went wrong in the delivery of its findings. -/
theorem conclude_health {v : Service} {e : Execution} {ending : Ending} {now : Instant}
    {id : String} {before : Health} {polledAt : Option Instant}
    (poll : e.task.connectorId = some id) (first : (v.pool.record e ending now).1 = true)
    (shows : v.pool.registry.Shows id (some before.status) before.polling polledAt) :
    let closed := v.setPool (v.pool.record e ending now).2
    let problem := (closed.deliver id ending.findings now).1
    (v.conclude e ending now).pool.registry.Shows id none
      (before.afterJob (ending.error e.task) problem ending.state) polledAt := by
  intro closed problem
  rw [← record_registry first] at shows
  have delivered : (closed.deliver id ending.findings now).2.pool = closed.pool :=
    PollTraffic.deliver_pool closed id ending.findings now
  have ended : (v.conclude e ending now).pool.registry =
      (closed.pool.registry.markPollResult id (ending.pollOutcome e.task problem) now).2 := by
    unfold conclude
    rw [← delivered]
    simp only [first, poll]
    rfl
  rw [ended, ← before.after_pollOutcome ending e.task problem]
  exact shows.markPollResult _ now

end Service

end DeviceWatch
