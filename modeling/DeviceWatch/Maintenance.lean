import DeviceWatch.Alert.Action
import DeviceWatch.Driver.Basic
import DeviceWatch.Job.Tracker
import DeviceWatch.Schedule

/-!
Housekeeping: scheduled jobs of the service itself that end suppressions and prune the history.
-/

namespace DeviceWatch.Maintenance

def driverKind : String := "maintenance"

def expireSuppressions : String := "alerts.expire_suppressions"

def pruneExecutions : String := "executions.prune"

def job (name : String) : JobSpec := ⟨name, driverKind, .null, some 60⟩

def builtinJobs : List (JobSpec × String) :=
  [(job expireSuppressions, "0 * * * * *"), (job pruneExecutions, "0 */15 * * * *")]

def addBuiltinJobs (s : Schedule) (now : Instant) : Outcome Schedule :=
  builtinJobs.foldlM (fun s (spec, cron) => (s.register spec cron true now).map Prod.snd) s

structure State where
  tracker : Tracker
  alerts : AlertStore

/-- How many terminal jobs a pruning keeps: as its settings say, else the history limit. -/
def keepCount (spec : JobSpec) (t : Tracker) : Nat :=
  ((spec.config.get? "keep").bind Json.asNat?).getD t.historyLimit

/-- Does a job in one step of the given name, and reports its progress.  Nothing is done once the job
has been cancelled. -/
def inOneStep (id : Uuid) (step : String) (cancelled : Bool) (now : Instant)
    (work : State → Json × State) (s : State) : DriverResult × State :=
  let report (r : ProgressReport) (s : State) : State :=
    { s with tracker := s.tracker.report id r now }
  let s := report (.plan [step]) s
  if cancelled then (.error .cancelled, s)
  else
    let (result, s) := work (report (.begin step) s)
    (.ok (.value result), report (.percent 100) (report (.complete step) s))

def expire (now : Instant) (s : State) : Json × State :=
  let (n, alerts) := s.alerts.expireSuppressions now
  (.object [("expired", .ofNat n)], { s with alerts := alerts })

def prune (keep : Nat) (s : State) : Json × State :=
  let (n, tracker) := s.tracker.prune keep
  (.object [("removed", .ofNat n), ("keep", .ofNat keep)], { s with tracker := tracker })

def run (t : Task) (cancelled : Bool) (now : Instant) (s : State) : DriverResult × State :=
  match t.payload with
  | .poll _ => (.error (.notSupported driverKind t), s)
  | .job spec =>
    if spec.name = expireSuppressions then inOneStep t.id "expire" cancelled now (expire now) s
    else if spec.name = pruneExecutions then
      inOneStep t.id "prune" cancelled now (prune (keepCount spec s.tracker)) s
    else (.error (.unsupported ("unknown maintenance job '" ++ spec.name ++ "'")), s)

end DeviceWatch.Maintenance
