import DeviceWatch.Time

/-!
The ways a request to the service can fail, and the text of each.
-/

namespace DeviceWatch

inductive ServiceError where
  | conflict (reason : String)
  | backpressure (queued bound : Nat)
  | notFound (what : String)
  | driver (reason : String)
  | timeout (after : Span)
  | validation (reason : String)
  | alreadyTerminal (what : String)
  | invalidTransition (source target : String)
  | internal (reason : String)
  deriving DecidableEq

namespace ServiceError

def message : ServiceError → String
  | conflict reason => "Conflict: " ++ reason
  | backpressure queued bound =>
    "Backpressure: " ++ toString queued ++ " tasks queued (bound " ++ toString bound ++ ")"
  | notFound what => "Not found: " ++ what
  | driver reason => "Driver error: " ++ reason
  | timeout after => "Timed out after " ++ after.text
  | validation reason => "Validation error: " ++ reason
  | alreadyTerminal what => "Already terminal: " ++ what
  | invalidTransition source target => "Invalid transition from " ++ source ++ " to " ++ target
  | internal reason => "Internal error: " ++ reason

def status : ServiceError → Nat
  | notFound _ => 404
  | conflict _ | alreadyTerminal _ | invalidTransition _ _ => 409
  | validation _ => 400
  | backpressure _ _ => 503
  | timeout _ => 504
  | driver _ => 502
  | internal _ => 500

end ServiceError

abbrev Outcome (α : Type) := Except ServiceError α

end DeviceWatch
