import DeviceWatch.Pool.Basic
import DeviceWatch.Proofs.Connector.Consistency

/-!
# The health of a connector

How the last polls went is written down at a claim, and again when the claim is released; it follows
from the health before the claim and from the outcome of the poll.  In between nothing changes it:
requests keep it, and what happens to other connectors does not touch it.
-/

namespace DeviceWatch

/-- How the last polls of a connector went. -/
structure Health where
  status : ConnectorStatus
  errorMessage : Option String
  consecutiveFailures : Nat
  deriving DecidableEq

namespace Health

/-- Nothing is known of the device. -/
def fresh : Health := ⟨.disconnected, none, 0⟩

def sound : Health := ⟨.connected, none, 0⟩

def polling (h : Health) : Health := { h with status := .connecting }

/-- One more poll has failed. -/
def failed (h : Health) (error : Option String) : Health :=
  ⟨.error, error, min (h.consecutiveFailures + 1) Json.word32Max⟩

def after (h : Health) : PollOutcome → Health
  | .success => sound
  | .failed message => h.failed (some message)
  | .cancelled => h

/-- The health after a result that is reported under the given claim, if there is one. -/
def recorded (h : Health) (claim : Option ConnectorStatus) : PollOutcome → Health
  | .success => sound
  | .failed message => h.failed (some message)
  | .cancelled => { h with status := claim.getD .disconnected }

theorem recorded_polling (h : Health) (outcome : PollOutcome) :
    h.polling.recorded (some h.status) outcome = h.after outcome := by
  cases outcome <;> rfl

/-- The health after a poll whose record ends so; `problem` is what went wrong with the findings. -/
def afterJob (h : Health) (error problem : Option String) : JobState → Health
  | .succeeded => if problem.isSome then h.failed problem else sound
  | .failed => h.failed error
  | _ => h

end Health

namespace Connector

def health (c : Connector) : Health := ⟨c.status, c.errorMessage, c.consecutiveFailures⟩

end Connector

/-- What an outcome makes of the health is what the record of the job says. -/
theorem Health.after_pollOutcome (h : Health) (ending : Ending) (t : Task)
    (problem : Option String) :
    h.after (ending.pollOutcome t problem) = h.afterJob (ending.error t) problem ending.state := by
  cases ending with
  | completed output => cases problem <;> rfl
  | failed message => rfl
  | timedOut secs => rfl
  | cancelled => rfl

namespace Registry

/-- The status before the claim, if the connector is claimed, its health, and when it was polled
last. -/
structure Shows (r : Registry) (id : String) (claim : Option ConnectorStatus) (h : Health)
    (polledAt : Option Instant) : Prop where
  claim : r.inFlight.find? id = claim
  connector : ∃ c, r.connectors.find? id = some c ∧ c.health = h ∧ c.lastPollAt = polledAt

variable {r r' : Registry} {id k : String} {c : Connector} {now : Instant}
  {claim : Option ConnectorStatus} {h : Health} {polledAt : Option Instant}

theorem Shows.isInFlight (shows : r.Shows id claim h polledAt) :
    r.isInFlight id = claim.isSome := by
  rw [isInFlight_eq_isSome, shows.claim]

theorem Touches.shows (touches : r.Touches r' k) (other : id ≠ k)
    (shows : r.Shows id claim h polledAt) : r'.Shows id claim h polledAt := by
  obtain ⟨claim, c, found, rest⟩ := shows
  refine ⟨?_, c, ?_, rest⟩
  · rw [touches.inFlight id other, claim]
  · rw [touches.connectors id other, found]

theorem Shows.insert (shows : r.Shows id claim h polledAt)
    (keeps : k = id → c.health = h ∧ c.lastPollAt = polledAt) :
    ({ r with connectors := r.connectors.insert k c } : Registry).Shows id claim h polledAt := by
  by_cases same : k = id
  · subst same
    exact ⟨shows.claim, c, r.connectors.find?_insert_self k c, keeps rfl⟩
  · exact (r.touches_insert k c).shows (Ne.symm same) shows

theorem Shows.upsert (shows : r.Shows id claim h polledAt) {input : ConnectorInput}
    (done : r.upsert k input now = .ok (c, r')) : r'.Shows id claim h polledAt := by
  obtain ⟨fresh, -, chosen, rfl⟩ := upsert_eq done
  refine shows.insert fun same => ?_
  obtain ⟨old, found, rest⟩ := shows.connector
  rw [same, found] at chosen
  rw [chosen]
  exact rest

theorem shows_upsert (consistent : r.Consistent) (absent : r.connectors.find? id = none)
    {input : ConnectorInput} (done : r.upsert id input now = .ok (c, r')) :
    r'.Shows id none .fresh none := by
  have free := isInFlight_eq_false_iff.mp (consistent.free_of_absent absent)
  obtain ⟨fresh, built, chosen, rfl⟩ := upsert_eq done
  rw [absent] at chosen
  subst chosen
  obtain ⟨-, -, -, defaults⟩ := toConnector_eq built
  refine ⟨free, c, r.connectors.find?_insert_self id c, ?_, ?_⟩
  · rw [defaults]
    rfl
  · rw [defaults]

theorem Shows.setEnabled (shows : r.Shows id claim h polledAt) {enabled : Bool}
    (done : r.setEnabled k enabled now = .ok (c, r')) : r'.Shows id claim h polledAt := by
  obtain ⟨old, found, rfl, rfl⟩ := setEnabled_eq done
  refine shows.insert fun same => ?_
  obtain ⟨c, stored, rest⟩ := shows.connector
  rw [same, stored] at found
  cases found
  exact rest

theorem Shows.ne_of_free (shows : r.Shows id claim h polledAt) (free : r.isInFlight k = false)
    (claimed : k = id → claim ≠ none) : id ≠ k := by
  rintro rfl
  exact claimed rfl (shows.claim.symm.trans (isInFlight_eq_false_iff.mp free))

theorem Shows.remove (shows : r.Shows id claim h polledAt) (done : r.remove k = .ok (c, r'))
    (claimed : k = id → claim ≠ none) : r'.Shows id claim h polledAt :=
  (touches_remove done).shows (shows.ne_of_free (remove_eq done).1 claimed) shows

/-- A claim keeps the health of the connector but for its status, and remembers that. -/
theorem shows_markPollStart {old : Connector} {ticket : PollTicket}
    (found : r.connectors.find? id = some old)
    (done : r.markPollStart id now = .ok (ticket, c, r')) :
    r'.Shows id (some old.health.status) old.health.polling (some now) := by
  obtain ⟨-, before, stored, -, -, rfl, rfl⟩ := markPollStart_eq done
  rw [found] at stored
  cases stored
  exact ⟨r.inFlight.find?_insert_self id old.status, _, r.connectors.find?_insert_self id _, rfl,
    rfl⟩

theorem Shows.markPollStart (shows : r.Shows id claim h polledAt) {ticket : PollTicket}
    (done : r.markPollStart k now = .ok (ticket, c, r')) (claimed : k = id → claim ≠ none) :
    r'.Shows id claim h polledAt :=
  (touches_markPollStart done).shows (shows.ne_of_free (markPollStart_eq done).1 claimed) shows

theorem markPollResult_snd (r : Registry) (id : String) (outcome : PollOutcome) (now : Instant) :
    (r.markPollResult id outcome now).2 =
      { r with
        connectors := r.connectors.modify id (recordOutcome (r.inFlight.find? id) outcome now)
        inFlight := r.inFlight.erase id } := by
  unfold markPollResult
  split
  · rename_i absent
    rw [OrderedMap.modify_of_absent absent]
  · rfl

theorem Shows.abortPollStart (shows : r.Shows id claim h polledAt) {ticket : PollTicket}
    (other : id ≠ ticket.connectorId) : (r.abortPollStart ticket).Shows id claim h polledAt :=
  (r.touches_release ticket.connectorId _).shows other shows

theorem Shows.markPollResult_of_ne (shows : r.Shows id claim h polledAt) (other : id ≠ k)
    (outcome : PollOutcome) (now : Instant) :
    (r.markPollResult k outcome now).2.Shows id claim h polledAt := by
  rw [markPollResult_snd]
  exact (r.touches_release k _).shows other shows

theorem recordOutcome_health (c : Connector) (claim : Option ConnectorStatus)
    (outcome : PollOutcome) (now : Instant) :
    (recordOutcome claim outcome now c).health = c.health.recorded claim outcome := by
  cases outcome <;> rfl

theorem recordOutcome_lastPollAt (claim : Option ConnectorStatus) (outcome : PollOutcome)
    (now : Instant) (c : Connector) :
    (recordOutcome claim outcome now c).lastPollAt = c.lastPollAt := by
  cases outcome <;> rfl

/-- Undoing a claim restores the status and the last poll that its ticket remembers. -/
theorem Shows.abortPollStart_self {ticket : PollTicket}
    (shows : r.Shows ticket.connectorId claim h polledAt) :
    (r.abortPollStart ticket).Shows ticket.connectorId none
      { h with status := ticket.previousStatus } ticket.previousPollAt := by
  obtain ⟨-, c, found, rfl, -⟩ := shows
  exact ⟨r.inFlight.find?_erase_self _, _, OrderedMap.find?_modify_self found _, rfl, rfl⟩

theorem Shows.markPollResult_self (shows : r.Shows id claim h polledAt) (outcome : PollOutcome)
    (now : Instant) :
    (r.markPollResult id outcome now).2.Shows id none (h.recorded claim outcome) polledAt := by
  obtain ⟨rfl, c, found, rfl, polled⟩ := shows
  rw [markPollResult_snd]
  refine ⟨r.inFlight.find?_erase_self id, _, OrderedMap.find?_modify_self found _,
    recordOutcome_health c _ outcome now, ?_⟩
  rw [recordOutcome_lastPollAt, polled]

theorem Shows.markPollResult {before : Health}
    (shows : r.Shows id (some before.status) before.polling polledAt) (outcome : PollOutcome)
    (now : Instant) :
    (r.markPollResult id outcome now).2.Shows id none (before.after outcome) polledAt :=
  before.recorded_polling outcome ▸ shows.markPollResult_self outcome now

end Registry

end DeviceWatch
