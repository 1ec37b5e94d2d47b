import DeviceWatch.Alert.Store

/-!
What operators do to alerts, and the end of suppressions.
-/

namespace DeviceWatch

inductive AlertAction where
  | acknowledge
  | unacknowledge
  /-- Ends at the given time, or else when it is lifted. -/
  | suppress (until' : Option Instant)
  | unsuppress
  | resolve
  deriving DecidableEq

namespace AlertAction

def name : AlertAction → String
  | acknowledge => "acknowledge"
  | unacknowledge => "unacknowledge"
  | suppress _ => "suppress"
  | unsuppress => "unsuppress"
  | resolve => "resolve"

def parse (name : String) (until' : Option Instant) : Outcome AlertAction :=
  match [acknowledge, unacknowledge, suppress until', unsuppress, resolve].find?
      (·.name == name) with
  | some action => .ok action
  | none => .error (.validation ("unknown alert action '" ++ name ++ "'"))

def target : AlertAction → AlertStatus
  | acknowledge => .acknowledged
  | unacknowledge | unsuppress => .active
  | suppress _ => .suppressed
  | resolve => .resolved

/-- The only status from which the action makes sense, if there is but one. -/
def requiredSource : AlertAction → Option AlertStatus
  | unacknowledge => some .acknowledged
  | unsuppress => some .suppressed
  | _ => none

def checkSource (action : AlertAction) (a : Alert) : Outcome Unit :=
  match action.requiredSource with
  | some source =>
    if a.status = source then .ok ()
    else .error (.invalidTransition a.status.name action.target.name)
  | none => .ok ()

def checkEnd (now : Instant) : AlertAction → Outcome Unit
  | suppress (some until') =>
    if until' ≤ now then .error (.validation "suppression end must be in the future") else .ok ()
  | _ => .ok ()

/-- The times that an action leaves on an alert. -/
def stamp (now : Instant) (a : Alert) : AlertAction → Alert
  | acknowledge => { a with acknowledgedAt := some now }
  | unacknowledge => { a with acknowledgedAt := none }
  | suppress until' => { a with suppressedUntil := until' }
  | unsuppress => { a with suppressedUntil := none }
  | resolve => { a with resolvedAt := some now, suppressedUntil := none }

def applyTo (action : AlertAction) (now : Instant) (a : Alert) : Outcome Alert := do
  action.checkSource a
  a.status.ensureTransition action.target
  action.checkEnd now
  return { action.stamp now a with status := action.target, updatedAt := now }

end AlertAction

namespace AlertStore

def apply (s : AlertStore) (id : Uuid) (action : AlertAction) (now : Instant) :
    Outcome (Alert × AlertStore) :=
  s.modify id (action.applyTo now)

def reactivate (now : Instant) (a : Alert) : Outcome Alert :=
  if a.status ≠ .suppressed ∨ a.suppressionActive now then
    .error (.conflict "suppression changed")
  else .ok { a with status := .active, suppressedUntil := none, updatedAt := now }

/-- Ends one suppression; an alert that has changed meanwhile is left alone. -/
def expireOne (now : Instant) (acc : Nat × AlertStore) (id : Uuid) : Nat × AlertStore :=
  match acc.2.modify id (reactivate now) with
  | .ok (_, s) => (acc.1 + 1, s)
  | .error _ => acc

def expireSuppressions (s : AlertStore) (now : Instant) : Nat × AlertStore :=
  (s.expiredSuppressions now).foldl (expireOne now) (0, s)

end AlertStore

end DeviceWatch
