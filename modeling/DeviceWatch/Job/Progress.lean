import DeviceWatch.Time

/-!
The progress of a running job: its steps, a percentage and a message.

A step only moves forward, from pending over running to completed or failed.
-/

namespace DeviceWatch

inductive StepStatus where
  | pending
  | running
  | completed
  | failed
  deriving DecidableEq, Inhabited

namespace StepStatus

def name : StepStatus → String
  | pending => "pending"
  | running => "running"
  | completed => "completed"
  | failed => "failed"

def ofName? (s : String) : Option StepStatus :=
  [pending, running, completed, failed].find? (·.name == s)

def rank : StepStatus → Nat
  | pending => 0
  | running => 1
  | completed | failed => 2

def canAdvanceTo (s t : StepStatus) : Bool := s.rank < t.rank

end StepStatus

structure ProgressStep where
  name : String
  status : StepStatus
  startedAt : Option Instant
  durationMillis : Option Nat
  deriving DecidableEq

structure Progress where
  percent : Nat := 0
  message : Option String := none
  currentStep : Option String := none
  steps : List ProgressStep := []
  deriving DecidableEq, Inhabited

inductive ProgressReport where
  | plan (names : List String)
  | begin (name : String)
  | complete (name : String)
  | fail (name : String)
  | percent (value : Nat)
  | message (text : String)
  deriving DecidableEq

namespace Progress

def plannedStep (name : String) : ProgressStep := ⟨name, .pending, none, none⟩

def runningStep (name : String) (now : Instant) : ProgressStep := ⟨name, .running, some now, none⟩

/-- Starts the first pending step of the name, or appends a running one. -/
def beginStep (name : String) (now : Instant) : List ProgressStep → List ProgressStep
  | [] => [runningStep name now]
  | step :: rest =>
    if step.name = name ∧ step.status = .pending then
      { step with status := .running, startedAt := some now } :: rest
    else step :: beginStep name now rest

def updateFirst {α : Type} (p : α → Bool) (f : α → α) : List α → List α
  | [] => []
  | a :: rest => if p a then f a :: rest else a :: updateFirst p f rest

/-- Ends the last step of the name that can still end that way. -/
def endStep (name : String) (status : StepStatus) (now : Instant) (steps : List ProgressStep) :
    List ProgressStep :=
  (updateFirst (fun step => step.name = name && step.status.canAdvanceTo status)
    (fun step =>
      { step with status := status, durationMillis := step.startedAt.map (·.millisUntil now) })
    steps.reverse).reverse

def finishStep (p : Progress) (name : String) (status : StepStatus) (now : Instant) : Progress :=
  { p with
    steps := endStep name status now p.steps
    currentStep := if p.currentStep = some name then none else p.currentStep }

def apply (p : Progress) (now : Instant) : ProgressReport → Progress
  | .plan names => { p with steps := p.steps ++ names.map plannedStep }
  | .begin name => { p with steps := beginStep name now p.steps, currentStep := some name }
  | .complete name => p.finishStep name .completed now
  | .fail name => p.finishStep name .failed now
  | .percent value => { p with percent := min value 100 }
  | .message text => { p with message := some text }

def stepJson (s : ProgressStep) : Json := .object [
  ("name", .str s.name),
  ("status", .str s.status.name),
  ("started_at", .ofOption Instant.toJson s.startedAt),
  ("duration_ms", .ofOption .ofNat s.durationMillis)]

def toJson (p : Progress) : Json := .object [
  ("percent", .ofNat p.percent),
  ("message", .ofOption .str p.message),
  ("current_step", .ofOption .str p.currentStep),
  ("steps", .arr (p.steps.map stepJson))]

end Progress

end DeviceWatch
