import DeviceWatch.Config.Basic

/-!
Settings from environment variables.

Under a profile `P` every variable `KEY` is looked up as `P_KEY` first.  A variable that is empty,
or that cannot be read as its setting, counts as not set.
-/

namespace DeviceWatch

abbrev Environment := List (String × String)

namespace Environment

def nonEmpty? (env : Environment) (key : String) : Option String :=
  (env.lookup key).filter (· ≠ "")

/-- A variable under a profile, or without one when the profiled variable is not set. -/
def profiled? (env : Environment) (profile key : String) : Option String :=
  if profile = "" then env.nonEmpty? key
  else (env.nonEmpty? (profile ++ "_" ++ key)).orElse fun _ => env.nonEmpty? key

/-- A decimal number up to `max`: digits after an optional plus sign. -/
def parseNat? (max : Nat) (s : String) : Option Nat :=
  let digits := match s.toList with
    | '+' :: rest => rest
    | cs => cs
  (Text.natIn? 10 digits).filter (· ≤ max)

def nat (env : Environment) (profile key : String) (max default : Nat) : Nat :=
  ((env.profiled? profile key).bind (parseNat? max)).getD default

def text (env : Environment) (profile key default : String) : String :=
  (env.profiled? profile key).getD default

def policy (env : Environment) (profile key : String) : ReopenPolicy :=
  match (env.profiled? profile key).map ReopenPolicy.parse with
  | some (.ok policy) => policy
  | _ => .newIncident

/-- The settings under a profile; the empty profile stands for none. -/
def config (env : Environment) (profile : String) : Config :=
  let p := Text.uppercase profile
  let word32 (key : String) (default : Nat) : Nat := env.nat p key Json.word32Max default
  let word64 (key : String) (default : Nat) : Nat := env.nat p key Json.word64Max default
  { profile := p
    server :=
      { host := env.text p "HOST" "0.0.0.0"
        port := env.nat p "PORT" Json.word16Max 3080
        corsOrigin := env.text p "CORS_ORIGIN" "*" }
    dispatch :=
      { tickSecs := word64 "DISPATCH_TICK_SECS" 60
        defaultPollIntervalSecs := word64 "DEFAULT_POLL_INTERVAL_SECS" 300
        minPollIntervalSecs := word64 "MIN_POLL_INTERVAL_SECS" 60 }
    workers :=
      { workerCount := word32 "WORKER_COUNT" 2
        workerConcurrency := word32 "WORKER_CONCURRENCY" 4
        rateLimit := word32 "RATE_LIMIT" 10
        queueBound := word32 "QUEUE_BOUND" 100
        cancelGraceSecs := word64 "CANCEL_GRACE_SECS" 10
        defaultTaskTimeoutSecs := word64 "DEFAULT_TASK_TIMEOUT_SECS" 300 }
    executionHistoryLimit := word32 "EXECUTION_HISTORY_LIMIT" 500
    alerts :=
      { reopenPolicy := env.policy p "ALERT_REOPEN_POLICY"
        maxCommitRetries := word32 "ALERT_MAX_COMMIT_RETRIES" 5 }
    connectorsFile := env.profiled? p "CONNECTORS_FILE" }

def profileKey : String := "NETPULSE_PROFILE"

def namedConfig (env : Environment) : Config :=
  env.config (Text.uppercase ((env.lookup profileKey).getD ""))

end Environment

end DeviceWatch
