import DeviceWatch.Http.Router
import DeviceWatch.Proofs.Pool.Ownership

/-!
# Requests that fail

A request that fails leaves the service as it was, except that an identifier may have been drawn for a
task that was not accepted, and that a full queue counts the submission that it refused.  Each endpoint
is composed of a few kinds of replies, and each of those keeps to that rule; only a submission has
something to undo, which is the claim of the connector that was to be polled.
-/

namespace DeviceWatch

namespace Dispatcher

/-- The dispatcher after identifiers were drawn and submissions were refused. -/
def recount (d : Dispatcher) (ids : IdSupply) (rejections : Nat) : Dispatcher :=
  { d with
    ids := ids
    pool := { d.pool with metrics := { d.pool.metrics with backpressureRejections := rejections } } }

/-- What may be left of something that failed with the status: only a refusal by a full queue is
counted. -/
def Refused (d : Dispatcher) (status : Nat) (d' : Dispatcher) : Prop :=
  ∃ ids rejections, d' = d.recount ids rejections ∧
    (rejections = d.pool.metrics.backpressureRejections ∨
      status = 503 ∧ rejections = d.pool.metrics.backpressureRejections + 1)

theorem Refused.refl (d : Dispatcher) (status : Nat) : d.Refused status d :=
  ⟨d.ids, d.pool.metrics.backpressureRejections, rfl, .inl rfl⟩

variable {d d' : Dispatcher} {e : ServiceError} {now : Instant}

theorem submit_refused {kind : JobKind} {payload : Payload}
    (failed : d.submit kind payload now = (.error e, d')) : d.Refused e.status d' := by
  simp only [submit, Pool.submit] at failed
  split at failed
  · cases failed
    exact ⟨_, _, rfl, .inl rfl⟩
  · split at failed
    · cases failed
      exact ⟨_, _, rfl, .inr ⟨rfl, rfl⟩⟩
    · cases failed

theorem submitPoll_refused {r : Registry} {kind : JobKind} {ticket : PollTicket}
    {snapshot : Connector} (undone : r.abortPollStart ticket = d.registry)
    (failed : (d.setRegistry r).submitPoll kind ticket snapshot now = (.error e, d')) :
    d.Refused e.status d' := by
  unfold submitPoll at failed
  split at failed
  · cases failed
  · rename_i d₁ refused
    cases failed
    obtain ⟨ids, rejections, rfl, counted⟩ := submit_refused refused
    refine ⟨ids, rejections, ?_, counted⟩
    calc
      ((d.setRegistry r).recount ids rejections).setRegistry (r.abortPollStart ticket)
        = (d.setRegistry (r.abortPollStart ticket)).recount ids rejections := rfl
      _ = d.recount ids rejections := by rw [undone]; rfl

theorem pollNow_refused {id : String} (failed : d.pollNow id now = (.error e, d')) :
    d.Refused e.status d' := by
  unfold pollNow at failed
  split at failed
  · cases failed
    exact .refl d _
  · rename_i claimed
    exact submitPoll_refused (Registry.abortPollStart_markPollStart claimed) failed

theorem runJobNow_refused {name : String} (failed : d.runJobNow name now = (.error e, d')) :
    d.Refused e.status d' := by
  unfold runJobNow at failed
  split at failed
  · cases failed
    exact .refl d _
  · split at failed
    · cases failed
      exact .refl d _
    · exact submit_refused failed

theorem submit_full (running : d.pool.stopped = false)
    (full : d.pool.config.queueBound ≤ d.pool.reserved) (kind : JobKind) (payload : Payload)
    (now : Instant) :
    d.submit kind payload now = (.error (.backpressure d.pool.reserved d.pool.config.queueBound),
      d.recount d.ids.draw.2 (d.pool.metrics.backpressureRejections + 1)) := by
  simp only [submit, Pool.submit, recount, Metrics.recordBackpressure, running, Bool.false_eq_true,
    if_false, if_pos full]

/-- A poll that a full queue refuses: the connector is claimed, and the claim is undone. -/
theorem pollNow_full {id : String} {c : Connector}
    (found : d.registry.connectors.find? id = some c) (enabled : c.enabled = true)
    (free : d.registry.isInFlight id = false) (running : d.pool.stopped = false)
    (full : d.pool.config.queueBound ≤ d.pool.reserved) (now : Instant) :
    (∃ ticket snapshot r, d.registry.markPollStart id now = .ok (ticket, snapshot, r) ∧
      r.isInFlight id = true) ∧
    d.pollNow id now = (.error (.backpressure d.pool.reserved d.pool.config.queueBound),
      d.recount d.ids.draw.2 (d.pool.metrics.backpressureRejections + 1)) := by
  have claimed : ∃ ticket snapshot r, d.registry.markPollStart id now = .ok (ticket, snapshot, r) := by
    simp [Registry.markPollStart, Registry.get_eq_ok_iff.mpr found, enabled, free, bind, Except.bind,
      pure, Except.pure]
  obtain ⟨ticket, snapshot, r, claimed⟩ := claimed
  obtain ⟨-, -, -, inFlight⟩ := Registry.markPollStart_eq_ok claimed
  refine ⟨⟨ticket, snapshot, r, claimed, by simp [inFlight]⟩, ?_⟩
  have refused := submit_full (d := d.setRegistry r) running full .manual (.poll snapshot) now
  have undone := Registry.abortPollStart_markPollStart claimed
  simp only [pollNow, claimed, submitPoll, refused]
  exact congrArg (fun r' => (_, (d.setRegistry r').recount _ _)) undone

end Dispatcher

theorem Pool.cancel_eq_error {p p' : Pool} {id : Uuid} {now : Instant} {e : ServiceError}
    (failed : p.cancel id now = (.error e, p')) : p' = p := by
  unfold Pool.cancel at failed
  cases found : p.tracker.observe id with
  | error e =>
    rw [found] at failed
    cases failed
    rfl
  | ok j =>
    have signalled : (p.signal (·.id == id) now).tracker = p.tracker := rfl
    simp only [found, signalled, Tracker.cancelQueued, bind, Except.bind] at failed
    cases state : j.state <;>
      simp [state, JobState.isTerminal, pure, Except.pure] at failed <;> exact failed.2.symm

namespace Http

namespace Response

@[simp] theorem status_measured (r : Response) : r.measured.status = r.status := by
  unfold measured
  split <;> rfl

@[simp] theorem status_headOnly (r : Response) : r.headOnly.status = r.status := rfl

@[simp] theorem status_allowing (r : Response) (methods : List Method) :
    (r.allowing methods).status = r.status := rfl

end Response

def withDispatcher (s : Service) (d : Dispatcher) : Service := { s with dispatcher := d }

/-- A reply to the service that leaves it as it was if it is a failure. -/
def Harmless (s : Service) (reply : Reply) : Prop :=
  reply.1.isFailure = true →
    ∃ d, reply.2 = withDispatcher s d ∧ s.dispatcher.Refused reply.1.status d

namespace Harmless

variable {s s' : Service}

theorem unmoved (r : Response) : Harmless s (r, s) :=
  fun _ => ⟨s.dispatcher, rfl, .refl _ _⟩

theorem of_success {r : Response} (fine : r.status < 400) : Harmless s (r, s') := by
  intro failed
  rw [Response.isFailure, decide_eq_true_iff] at failed
  exact absurd fine (Nat.not_lt.mpr failed)

theorem presentOutcome (outcome : Outcome Json) : Harmless s (Api.presentOutcome s outcome) := by
  cases outcome <;> exact unmoved _

theorem change {α : Type} {status : Nat} (fine : status < 400) (view : Service → α → Json)
    (outcome : Outcome (α × Service)) : Harmless s (Api.change s status view outcome) := by
  cases outcome with
  | ok done => exact of_success fine
  | error e => exact unmoved _

theorem withQuery {α : Type} (reader : Query.Reader α) (query : Query) {reply : α → Reply}
    (harmless : ∀ a, Harmless s (reply a)) : Harmless s (Api.withQuery s reader query reply) := by
  unfold Api.withQuery
  split
  · exact harmless _
  · exact unmoved _

theorem submitted {result : Outcome Job × Dispatcher}
    (refused : ∀ e, result.1 = .error e → s.dispatcher.Refused e.status result.2) :
    Harmless s (Api.submitted s result) := by
  obtain ⟨outcome, d⟩ := result
  cases outcome with
  | ok j => exact of_success (by decide : 202 < 400)
  | error e => exact fun _ => ⟨d, rfl, refused e rfl⟩

variable (s) (now : Instant)

theorem updateConnector (id : String) (update : Api.ConnectorUpdate) :
    Harmless s (Api.updateConnector s id now update) := by
  cases update with
  | definition input =>
    refine change ?_ Api.connectorView _
    split <;> decide
  | enabled value => exact change (by decide) Api.connectorView _

theorem putConnector (id : String) (req : Request) :
    Harmless s (Api.putConnector s id req now) := by
  unfold Api.putConnector
  split
  · exact unmoved _
  · split
    · exact unmoved _
    · split
      · exact unmoved _
      · exact updateConnector s now id _

theorem deleteConnector (id : String) : Harmless s (Api.deleteConnector s id) := by
  unfold Api.deleteConnector
  split
  · exact of_success (by decide : 204 < 400)
  · exact unmoved _

theorem pollConnector (id : String) : Harmless s (Api.pollConnector s id now) :=
  submitted fun _ failed => Dispatcher.pollNow_refused (Prod.ext failed rfl)

theorem runJob (name : String) : Harmless s (Api.runJob s name now) :=
  submitted fun _ failed => Dispatcher.runJobNow_refused (Prod.ext failed rfl)

theorem cancelExecution (raw : String) : Harmless s (Api.cancelExecution s raw now) := by
  unfold Api.cancelExecution
  split
  · exact unmoved _
  · rename_i id _
    cases done : s.pool.cancel id now with
    | mk outcome p =>
      cases outcome with
      | ok j => exact of_success (by decide : 200 < 400)
      | error e =>
        obtain rfl := Pool.cancel_eq_error done
        exact unmoved _

theorem streamExecution (raw : String) : Harmless s (Api.streamExecution s raw) := by
  unfold Api.streamExecution
  split <;> exact unmoved _

theorem withAlertQuery (query : Query) (view : AlertQuery → Json) :
    Harmless s (Api.withAlertQuery s query view) :=
  withQuery _ _ fun _ => presentOutcome _

theorem endpoint (req : Request) (r : Route) : Harmless s (Http.endpoint s now req r) := by
  cases r with
  | health | config | queueStatus | metrics | jobs => exact unmoved _
  | connectors => exact withQuery _ _ fun _ => unmoved _
  | connector id =>
    simp only [Http.endpoint]
    split
    · exact putConnector s now id req
    · exact deleteConnector s id
    · exact presentOutcome _
  | connectorPoll id => exact pollConnector s now id
  | executions => exact withQuery _ _ fun _ => unmoved _
  | execution id => exact presentOutcome _
  | executionCancel id => exact cancelExecution s now id
  | executionStream id => exact streamExecution s id
  | jobToggle name => exact change (by decide) _ _
  | jobRun name => exact runJob s now name
  | alerts => exact withAlertQuery s _ _
  | alertAggregate => exact withAlertQuery s _ _
  | alert id => exact presentOutcome _
  | alertAction id action => exact change (by decide) _ _

theorem answer (req : Request) (r : Route) : Harmless s (r.answer s now req) := by
  unfold Route.answer
  split
  · exact unmoved _
  · split
    · exact unmoved _
    · exact endpoint s now req _

variable {s}

theorem of_status {r r' : Response} (harmless : Harmless s (r, s')) (same : r'.status = r.status) :
    Harmless s (r', s') := by
  intro failed
  rw [Response.isFailure, same] at failed
  rw [same]
  exact harmless failed

theorem route (req : Request) : Harmless s (Http.route s now req) := by
  unfold Http.route
  split
  · exact unmoved _
  · refine of_status (answer s now req _) ?_
    split <;> simp

theorem handle (req : Request) : Harmless s (Http.handle s now req) := by
  unfold Http.handle
  split
  · exact unmoved _
  · exact of_status (route now req) rfl

end Harmless

/-- The request asks for a poll that nothing but the full queue is in the way of. -/
structure PollsIntoFullQueue (s : Service) (req : Request) (id : String) : Prop where
  method : req.method = .post
  path : ∃ raw, Route.ofSegments? req.uri.segments = some (.connectorPoll raw) ∧
    Route.decodePart "id" raw = .ok id
  enabled : ∃ c, s.registry.connectors.find? id = some c ∧ c.enabled = true
  free : s.registry.isInFlight id = false
  running : s.pool.stopped = false
  full : s.pool.config.queueBound ≤ s.pool.reserved

theorem PollsIntoFullQueue.answer {s : Service} {req : Request} {id : String}
    (poll : PollsIntoFullQueue s req id) (now : Instant) :
    (∃ ticket snapshot r, s.registry.markPollStart id now = .ok (ticket, snapshot, r) ∧
      r.isInFlight id = true) ∧
    (handle s now req).1.status = 503 ∧
    (handle s now req).2 = withDispatcher s (s.dispatcher.recount s.dispatcher.ids.draw.2
      (s.pool.metrics.backpressureRejections + 1)) := by
  obtain ⟨raw, named, decoded⟩ := poll.path
  obtain ⟨c, found, enabled⟩ := poll.enabled
  obtain ⟨claimed, refused⟩ :=
    Dispatcher.pollNow_full found enabled poll.free poll.running poll.full now
  have answered : (Route.connectorPoll raw).answer s now req =
      Api.submitted s (s.dispatcher.pollNow id now) := by
    simp [Route.answer, Route.methods, poll.method, Route.decode, decoded, Except.map, endpoint,
      Api.pollConnector]
  refine ⟨claimed, ?_, ?_⟩ <;>
    simp [handle, route, poll.method, named, answered, refused, Api.submitted, Api.fail,
      Response.error, Response.json, ServiceError.status, Service.pool, withDispatcher]

/-- A request that fails leaves everything as it was, whatever the service and the request are: an
identifier may have been drawn, and a submission that the full queue refused is counted.  A poll that
is refused so has claimed its connector, and nothing is left of the claim. -/
theorem failed_request_changes_nothing (s : Service) (now : Instant) (req : Request) :
    let response := (handle s now req).1
    let s' := (handle s now req).2
    (response.isFailure = true →
      (s'.registry = s.registry ∧ s'.tracker = s.tracker ∧ s'.schedule = s.schedule ∧
        s'.alerts = s.alerts ∧ s'.pool.queue = s.pool.queue) ∧
      ∃ ids rejections, s' = withDispatcher s (s.dispatcher.recount ids rejections) ∧
        (rejections = s.pool.metrics.backpressureRejections ∨
          response.status = 503 ∧ rejections = s.pool.metrics.backpressureRejections + 1)) ∧
    ∀ id, PollsIntoFullQueue s req id →
      (∃ ticket snapshot r, s.registry.markPollStart id now = .ok (ticket, snapshot, r) ∧
        r.isInFlight id = true) ∧
      response.status = 503 ∧ s'.registry = s.registry ∧
      s'.pool.metrics.backpressureRejections = s.pool.metrics.backpressureRejections + 1 := by
  intro response s'
  refine ⟨fun failed => ?_, fun id poll => ?_⟩
  · obtain ⟨d, after, ids, rejections, rfl, counted⟩ := Harmless.handle now req failed
    have after' : s' = withDispatcher s (s.dispatcher.recount ids rejections) := after
    refine ⟨?_, ids, rejections, after', counted⟩
    rw [after']
    exact ⟨rfl, rfl, rfl, rfl, rfl⟩
  · obtain ⟨claimed, status, left⟩ := poll.answer now
    have after : s' = withDispatcher s (s.dispatcher.recount _ _) := left
    rw [after]
    exact ⟨claimed, status, rfl, rfl⟩

/-- A service whose queue holds one task, and a poll of another connector than the one that waits. -/
def crowded : Service :=
  let input : ConnectorInput := ⟨none, .ping { host := "10.1.1.1" }, true, none⟩
  let put (s : Service) (id : String) : Service :=
    (Api.updateConnector s id default (.definition input)).2
  let empty : Service := {
    config := { workers := { queueBound := 1 } }
    dispatcher := ⟨.new { queueBound := 1 } (.empty 500) (.empty {}), default, {}⟩
    alerts := .empty
    drivers := {}
    startedAt := default }
  (Api.pollConnector (put (put empty "edge-1") "edge-2") "edge-1" default).2

def secondPoll : Request := { method := .post, uri := ⟨"/connectors/edge-2/poll", ""⟩ }

theorem failed_request_changes_nothing_crowded :
    (handle crowded default secondPoll).1.isFailure = true ∧
    (handle crowded default secondPoll).1.status = 503 ∧
    (handle crowded default secondPoll).2.registry = crowded.registry ∧
    (handle crowded default secondPoll).2.pool.metrics.backpressureRejections = 1 := by
  obtain ⟨restored, refused⟩ := failed_request_changes_nothing crowded default secondPoll
  have decoded : decodeSegment? "edge-2" = some "edge-2" := by decide +kernel
  have poll : PollsIntoFullQueue crowded secondPoll "edge-2" := {
    method := rfl
    path := ⟨"edge-2", by decide +kernel, by simp [Route.decodePart, decoded]⟩
    enabled := ⟨_, rfl, by decide +kernel⟩
    free := by decide +kernel
    running := rfl
    full := by decide +kernel }
  obtain ⟨-, status, -, counted⟩ := refused "edge-2" poll
  have failed : (handle crowded default secondPoll).1.isFailure = true := by
    rw [Response.isFailure, status]
    rfl
  exact ⟨failed, status, (restored failed).1.1, counted.trans (by decide +kernel)⟩

end Http

end DeviceWatch
