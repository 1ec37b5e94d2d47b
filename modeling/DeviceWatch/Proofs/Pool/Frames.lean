import DeviceWatch.Proofs.Pool.Ownership

/-!
# What an event of the traffic leaves alone

Few events write the registry, the tracker, the claims or the closings.  All others keep them as they
are.
-/

namespace DeviceWatch

namespace PollEvent

def writesRegistry : PollEvent → Bool
  | upsert .. | setEnabled .. | remove .. | claim .. | abort .. | proceed .. => true
  | _ => false

def writesTracker : PollEvent → Bool
  | submit .. | submitJob .. | cancelQueued .. | start .. | report .. | finish .. | prune .. => true
  | _ => false

def writesClaims : PollEvent → Bool
  | claim .. | submit .. | refuse .. | abort .. => true
  | _ => false

def writesClosings : PollEvent → Bool
  | cancelQueued .. | finish .. | proceed .. => true
  | _ => false

end PollEvent

namespace PollTraffic

/-- The parts of a state that the event does not write are the same afterwards. -/
structure Spares (event : PollEvent) (s s' : PollTraffic) : Prop where
  registry : event.writesRegistry = false → s'.pool.registry = s.pool.registry
  tracker : event.writesTracker = false → s'.pool.tracker = s.pool.tracker
  claims : event.writesClaims = false → s'.claims = s.claims
  closings : event.writesClosings = false → s'.closings = s.closings

variable {s : PollTraffic} {event : PollEvent}

theorem loud {p : Prop} (quiet : true = false) : p := by
  cases quiet

theorem Spares.refl (event : PollEvent) (s : PollTraffic) : Spares event s s :=
  ⟨fun _ => rfl, fun _ => rfl, fun _ => rfl, fun _ => rfl⟩

theorem spares_configure (written : event.writesRegistry = true)
    (outcome : Outcome (Connector × Registry)) : Spares event s (s.configure outcome) := by
  cases outcome with
  | ok r =>
    exact ⟨fun quiet => loud (written.symm.trans quiet), fun _ => rfl, fun _ => rfl, fun _ => rfl⟩
  | error e => exact .refl event s

theorem submit_registry {t : Task} {now : Instant} {answer : Outcome Job} {p : Pool}
    (done : s.pool.submit t now = (answer, p)) : p.registry = s.pool.registry := by
  cases answer with
  | ok j => rw [Pool.submit_eq_ok done]
  | error e =>
    obtain ⟨metrics, rfl⟩ := Pool.submit_eq_error done
    rfl

theorem release_tracker (p : Pool) (connectorId : Option String) (outcome : PollOutcome)
    (now : Instant) : (p.release connectorId outcome now).tracker = p.tracker := by
  cases connectorId <;> rfl

theorem spares_step (s : PollTraffic) (event : PollEvent) : Spares event s (s.step event) := by
  cases event with
  | upsert id input now => exact spares_configure rfl _
  | setEnabled id enabled now => exact spares_configure rfl _
  | remove id => exact spares_configure rfl _
  | claim id kind now =>
    simp only [step, claim]
    split
    · exact ⟨loud, fun _ => rfl, loud, fun _ => rfl⟩
    · exact .refl _ s
  | submit i task now =>
    simp only [step, submit]
    cases s.claims[i]? with
    | none => exact .refl _ s
    | some c =>
      simp only [Option.elim_some]
      split
      · exact .refl _ s
      · split
        · rename_i done
          exact ⟨fun _ => submit_registry done, loud, loud, fun _ => rfl⟩
        · rename_i failed
          exact ⟨fun _ => submit_registry failed, loud, loud, fun _ => rfl⟩
  | refuse i =>
    simp only [step]
    cases s.claims[i]? with
    | none => exact .refl _ s
    | some c => exact ⟨fun _ => rfl, fun _ => rfl, loud, fun _ => rfl⟩
  | abort i =>
    simp only [step, abort]
    cases s.claims[i]? with
    | none => exact .refl _ s
    | some c =>
      simp only [Option.elim_some]
      split
      · exact ⟨loud, fun _ => rfl, loud, fun _ => rfl⟩
      · exact .refl _ s
  | submitJob kind spec task now =>
    simp only [step, submitJob]
    split
    · exact .refl _ s
    · split
      · rename_i done
        exact ⟨fun _ => submit_registry done, loud, fun _ => rfl, fun _ => rfl⟩
      · rename_i failed
        exact ⟨fun _ => submit_registry failed, loud, fun _ => rfl, fun _ => rfl⟩
  | signal task now => exact ⟨fun _ => rfl, fun _ => rfl, fun _ => rfl, fun _ => rfl⟩
  | cancelQueued task now =>
    simp only [step, cancelQueued]
    split
    · exact ⟨fun _ => rfl, loud, fun _ => rfl, loud⟩
    · exact .refl _ s
  | limit limiter => exact ⟨fun _ => rfl, fun _ => rfl, fun _ => rfl, fun _ => rfl⟩
  | start i worker course now =>
    simp only [step, start]
    cases s.pool.queue[i]? with
    | none => exact .refl _ s
    | some t =>
      simp only [Option.elim_some]
      split
      · split <;> exact ⟨fun _ => rfl, loud, fun _ => rfl, fun _ => rfl⟩
      · exact .refl _ s
  | report task r now => exact ⟨fun _ => rfl, loud, fun _ => rfl, fun _ => rfl⟩
  | finish i ending now =>
    simp only [step, finish]
    cases s.pool.running[i]? with
    | none => exact .refl _ s
    | some e =>
      simp only [Option.elim_some]
      split
      · exact .refl _ s
      · split <;> exact ⟨fun _ => rfl, loud, fun _ => rfl, loud⟩
  | proceed i problem now =>
    simp only [step]
    cases s.closings[i]? with
    | none => exact .refl _ s
    | some c =>
      refine ⟨loud, fun _ => ?_, fun _ => ?_, loud⟩
      · cases c with
        | leaving e => rfl
        | _ => exact release_tracker _ _ _ now
      · cases c <;> rfl
  | prune keep => exact ⟨fun _ => rfl, loud, fun _ => rfl, fun _ => rfl⟩

theorem step_registry (quiet : event.writesRegistry = false) :
    (s.step event).pool.registry = s.pool.registry := (s.spares_step event).registry quiet

theorem step_tracker (quiet : event.writesTracker = false) :
    (s.step event).pool.tracker = s.pool.tracker := (s.spares_step event).tracker quiet

theorem step_claims (quiet : event.writesClaims = false) :
    (s.step event).claims = s.claims := (s.spares_step event).claims quiet

theorem step_closings (quiet : event.writesClosings = false) :
    (s.step event).closings = s.closings := (s.spares_step event).closings quiet

end PollTraffic

end DeviceWatch
