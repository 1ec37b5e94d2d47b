import DeviceWatch.Alert.Basic
import DeviceWatch.OrderedMap

/-!
The store of alerts.

Every write raises the version of the record.  A writer commits a changed copy, and the copy must
carry the version that is stored; a record of version 0 is new, and is refused while the latest
alert of its fingerprint is open.
-/

namespace DeviceWatch

/-- The records in order of creation, and the latest alert of each fingerprint. -/
structure AlertStore where
  records : OrderedMap Uuid Alert
  latest : OrderedMap String Uuid

namespace AlertStore

def empty : AlertStore := ⟨.empty, .empty⟩

instance : Inhabited AlertStore := ⟨empty⟩

def alerts (s : AlertStore) : List Alert := s.records.values

def size (s : AlertStore) : Nat := s.records.size

def notFound (id : Uuid) : ServiceError := .notFound ("alert '" ++ id.text ++ "'")

def get (s : AlertStore) (id : Uuid) : Outcome Alert :=
  match s.records.find? id with
  | some a => .ok a
  | none => .error (notFound id)

def latestFor (s : AlertStore) (fingerprint : String) : Option Alert :=
  (s.latest.find? fingerprint).bind s.records.find?

def isOpenFor (s : AlertStore) (fingerprint : String) : Bool :=
  match s.latestFor fingerprint with
  | some a => a.status.isOpen
  | none => false

/-- The record as it is stored by its next write. -/
def bumped (a : Alert) : Alert := { a with version := a.version + 1 }

def staleError (stored a : Alert) : ServiceError :=
  .conflict ("alert '" ++ a.id.text ++ "' changed (version " ++ toString stored.version ++ " != " ++
    toString a.version ++ ")")

def alreadyOpenError (fingerprint : String) : ServiceError :=
  .conflict ("fingerprint " ++ fingerprint ++ " already has an open alert")

/-- Writes a record unless somebody else has written it since it was read. -/
def commit (s : AlertStore) (a : Alert) : Outcome (Alert × AlertStore) :=
  match s.records.find? a.id with
  | some stored =>
    if stored.version = a.version then
      .ok (bumped a, { s with records := s.records.insert a.id (bumped a) })
    else .error (staleError stored a)
  | none =>
    if a.version ≠ 0 then .error (notFound a.id)
    else if s.isOpenFor a.fingerprint then .error (alreadyOpenError a.fingerprint)
    else
      .ok (bumped a, {
        records := s.records.insert a.id (bumped a)
        latest := s.latest.insert a.fingerprint a.id })

/-- Changes the current record of an id in one step; a change that fails writes nothing. -/
def modify (s : AlertStore) (id : Uuid) (change : Alert → Outcome Alert) :
    Outcome (Alert × AlertStore) := do
  let current ← s.get id
  let next ← change current
  let next := { next with version := current.version + 1 }
  return (next, { s with records := s.records.insert id next })

def expiredSuppressions (s : AlertStore) (now : Instant) : List Uuid :=
  (s.alerts.filter fun a => a.status = .suppressed && !a.suppressionActive now).map (·.id)

end AlertStore

end DeviceWatch
