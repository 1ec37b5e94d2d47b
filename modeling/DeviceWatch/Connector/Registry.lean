import DeviceWatch.Connector.Basic
import DeviceWatch.OrderedMap

/-!
The registry of connectors, with the polls in flight.

A poll claims its connector before it is submitted, and at most one claim per connector is held.
The claim ends when the poll reports its result, or when it is undone with the ticket that it was
given.  Every operation is one step.
-/

namespace DeviceWatch

/-- What is needed to undo a claim. -/
structure PollTicket where
  connectorId : String
  previousPollAt : Option Instant
  previousStatus : ConnectorStatus
  deriving DecidableEq

/-- How a poll ended, as far as the health of its connector is concerned. -/
inductive PollOutcome where
  | success
  | failed (message : String)
  | cancelled
  deriving DecidableEq

/-- The connectors in order of creation, and for each poll in flight the status before its claim. -/
structure Registry where
  dispatch : DispatchConfig
  connectors : OrderedMap String Connector
  inFlight : OrderedMap String ConnectorStatus

namespace Registry

def empty (dispatch : DispatchConfig) : Registry := ⟨dispatch, .empty, .empty⟩

instance : Inhabited Registry := ⟨empty {}⟩

def all (r : Registry) : List Connector := r.connectors.values

def list (r : Registry) (enabled : Option Bool) : List Connector :=
  r.all.filter fun c => match enabled with
    | some e => c.enabled == e
    | none => true

def notFound (id : String) : ServiceError := .notFound ("connector '" ++ id ++ "'")

def get (r : Registry) (id : String) : Outcome Connector :=
  match r.connectors.find? id with
  | some c => .ok c
  | none => .error (notFound id)

def isInFlight (r : Registry) (id : String) : Bool := r.inFlight.contains id

def inFlightCount (r : Registry) : Nat := r.inFlight.size

/-- A new definition keeps the poll history of the old one. -/
def carryHistory (old fresh : Connector) : Connector :=
  { fresh with
    createdAt := old.createdAt
    lastPollAt := old.lastPollAt
    status := old.status
    errorMessage := old.errorMessage
    consecutiveFailures := old.consecutiveFailures }

def upsert (r : Registry) (id : String) (input : ConnectorInput) (now : Instant) :
    Outcome (Connector × Registry) := do
  let fresh ← input.toConnector id r.dispatch now
  let c := match r.connectors.find? id with
    | some old => carryHistory old fresh
    | none => fresh
  return (c, { r with connectors := r.connectors.insert id c })

def setEnabled (r : Registry) (id : String) (enabled : Bool) (now : Instant) :
    Outcome (Connector × Registry) := do
  let old ← r.get id
  let c := { old with enabled := enabled, updatedAt := now }
  return (c, { r with connectors := r.connectors.insert id c })

def remove (r : Registry) (id : String) : Outcome (Connector × Registry) := do
  if r.isInFlight id then .error (.conflict ("connector '" ++ id ++ "' has a poll in flight"))
  else
    let c ← r.get id
    return (c, { r with connectors := r.connectors.erase id })

/-- Claims a connector for one poll, and gives the connector as the poll sees it. -/
def markPollStart (r : Registry) (id : String) (now : Instant) :
    Outcome (PollTicket × Connector × Registry) := do
  let old ← r.get id
  if !old.enabled then .error (.validation ("connector '" ++ id ++ "' is disabled"))
  else if r.isInFlight id then .error (.conflict ("connector '" ++ id ++ "' is already polling"))
  else
    let c := { old with lastPollAt := some now, status := .connecting }
    return (⟨id, old.lastPollAt, old.status⟩, c,
      { r with
        connectors := r.connectors.insert id c
        inFlight := r.inFlight.insert id old.status })

/-- Undoes a claim whose poll was never submitted. -/
def abortPollStart (r : Registry) (ticket : PollTicket) : Registry :=
  { r with
    connectors := r.connectors.modify ticket.connectorId fun c =>
      { c with lastPollAt := ticket.previousPollAt, status := ticket.previousStatus }
    inFlight := r.inFlight.erase ticket.connectorId }

/-- The health of a connector after a poll that was claimed under the given status. -/
def recordOutcome (claim : Option ConnectorStatus) (outcome : PollOutcome) (now : Instant)
    (c : Connector) : Connector :=
  match outcome with
  | .success =>
    { c with status := .connected, errorMessage := none, consecutiveFailures := 0, updatedAt := now }
  | .failed message =>
    { c with
      status := .error
      errorMessage := some message
      consecutiveFailures := min (c.consecutiveFailures + 1) Json.word32Max
      updatedAt := now }
  | .cancelled => { c with status := claim.getD .disconnected, updatedAt := now }

/-- Releases the claim and records how the poll ended.  The claim is released even when the
connector is not registered, which is then reported. -/
def markPollResult (r : Registry) (id : String) (outcome : PollOutcome) (now : Instant) :
    Outcome Unit × Registry :=
  let released := { r with inFlight := r.inFlight.erase id }
  match r.connectors.find? id with
  | none => (.error (notFound id), released)
  | some _ =>
    (.ok (), { released with
      connectors := r.connectors.modify id (recordOutcome (r.inFlight.find? id) outcome now) })

end Registry

end DeviceWatch
