import DeviceWatch.Proofs.Alert.Requests

/-!
# Alerts as incidents

What is heard of a condition is that it occurs and that it ends, because a clear finding or an
operator says so.  An incident collects occurrences from the first one after an end to the next end;
where alerts are resumed, there is one incident that collects them all.  When requests are served
one after the other, the alerts of a fingerprint report the incidents of what was heard of it.
-/

namespace DeviceWatch

open Correlation AlertStore

structure Sighting where
  finding : Finding
  seenAt : Instant

/-- What is heard of a condition.  An end may leave a message; the empty one stands for none. -/
inductive Signal where
  | occurs (o : Sighting)
  | ends (message : String)

namespace Signal

def ofFinding (now : Instant) (f : Finding) : Signal :=
  if f.severity = .clear then ends f.message else occurs ⟨f, now⟩

def isEnd : Signal → Bool
  | occurs _ => false
  | ends _ => true

def occurrence? : Signal → Option Sighting
  | occurs o => some o
  | ends _ => none

end Signal

/-- The occurrences of a condition that belong together, and the message of their end if there was
one. -/
structure Incident where
  first : Sighting
  later : List Sighting := []
  ending : Option String := none

/-- What an alert says about an incident. -/
structure Report where
  occurrenceCount : Nat
  occurredAt : Instant
  severity : Severity
  message : String
  rawData : Json
  resolved : Bool
  deriving DecidableEq

def Alert.report (a : Alert) : Report where
  occurrenceCount := a.occurrenceCount
  occurredAt := a.occurredAt
  severity := a.severity
  message := a.message
  rawData := a.rawData
  resolved := a.status = .resolved

namespace Incident

def occurrences (i : Incident) : List Sighting := i.first :: i.later

def last (i : Incident) : Finding := (i.later.getLastD i.first).finding

def message (i : Incident) : String :=
  match i.ending with
  | some m => if m = "" then i.last.message else m
  | none => i.last.message

def ended (i : Incident) : Bool := i.ending.isSome

def report (i : Incident) : Report where
  occurrenceCount := i.occurrences.length
  occurredAt := i.first.seenAt
  severity := i.last.severity
  message := i.message
  rawData := i.last.raw
  resolved := i.ended

def join (i : Incident) (o : Sighting) : Incident :=
  { i with later := i.later ++ [o], ending := none }

/-- Only the first end of an incident counts. -/
def close (i : Incident) (message : String) : Incident :=
  if i.ended then i else { i with ending := some message }

def observe (policy : ReopenPolicy) : List Incident → Signal → List Incident
  | [], .occurs o => [{ first := o }]
  | i :: older, .occurs o =>
    if i.ended && policy = .newIncident then { first := o } :: i :: older else i.join o :: older
  | [], .ends _ => []
  | i :: older, .ends message => i.close message :: older

/-- The incidents that a history consists of, in order. -/
def ofHistory (policy : ReopenPolicy) (history : List Signal) : List Incident :=
  (history.foldl (observe policy) []).reverse

/-- The occurrences between two ends, or all of them where alerts are resumed. -/
def stretches (policy : ReopenPolicy) (history : List Signal) : List (List Sighting) :=
  match policy with
  | .newIncident => (history.splitOnP Signal.isEnd).map (·.filterMap Signal.occurrence?)
  | .resume => [history.filterMap Signal.occurrence?]

@[simp] theorem occurrences_ne_nil (i : Incident) : i.occurrences ≠ [] := List.cons_ne_nil _ _

@[simp] theorem occurrences_join (i : Incident) (o : Sighting) :
    (i.join o).occurrences = i.occurrences ++ [o] := rfl

@[simp] theorem occurrences_close (i : Incident) (message : String) :
    (i.close message).occurrences = i.occurrences := by
  unfold close
  split <;> rfl

@[simp] theorem ended_close (i : Incident) (message : String) :
    (i.close message).ended = true := by
  unfold close
  split
  · assumption
  · rfl

theorem stretches_ends (message : String) (history : List Signal) :
    stretches .newIncident (.ends message :: history) = [] :: stretches .newIncident history := by
  simp [stretches, List.splitOnP_cons_eq_if_modifyHead, Signal.isEnd]

theorem stretches_occurs (o : Sighting) (history : List Signal) :
    stretches .newIncident (.occurs o :: history) =
      (stretches .newIncident history).modifyHead (o :: ·) := by
  obtain ⟨head, rest, split⟩ :=
    List.exists_cons_of_ne_nil (List.splitOnP_ne_nil Signal.isEnd history)
  simp [stretches, List.splitOnP_cons_eq_if_modifyHead, Signal.isEnd, split, Signal.occurrence?]

/-- An incident that has not ended goes on with the first stretch of what follows; the other
stretches are incidents of their own. -/
theorem occurrences_foldl_newIncident (history : List Signal) :
    (∀ older : List Incident, (∀ i ∈ older.head?, i.ended = true) →
      (history.foldl (observe .newIncident) older).reverse.map occurrences =
        older.reverse.map occurrences ++
          (stretches .newIncident history).filter (!·.isEmpty)) ∧
    ∀ (i : Incident) (older : List Incident), i.ended = false →
      (history.foldl (observe .newIncident) (i :: older)).reverse.map occurrences =
        older.reverse.map occurrences ++
          ((stretches .newIncident history).modifyHead (i.occurrences ++ ·)).filter
            (!·.isEmpty) := by
  induction history with
  | nil => simp [stretches]
  | cons signal rest ih =>
    obtain ⟨idle, running⟩ := ih
    cases signal with
    | occurs o =>
      rw [stretches_occurs]
      constructor
      · intro older ended
        have started : observe .newIncident older (.occurs o) = { first := o } :: older := by
          cases older with
          | nil => rfl
          | cons i older => simp [observe, ended i rfl]
        rw [List.foldl_cons, started, running _ older rfl]
        rfl
      · intro i older runs
        have joined : observe .newIncident (i :: older) (.occurs o) = i.join o :: older := by
          simp [observe, runs]
        rw [List.foldl_cons, joined, running _ older rfl, List.modifyHead_modifyHead]
        simp [Function.comp_def]
    | ends message =>
      rw [stretches_ends]
      constructor
      · intro older ended
        have kept : observe .newIncident older (.ends message) = older := by
          cases older with
          | nil => rfl
          | cons i older => simp [observe, close, ended i rfl]
        rw [List.foldl_cons, kept, idle older ended]
        simp
      · intro i older runs
        rw [List.foldl_cons, observe, idle _ (by simp)]
        simp

theorem occurrences_foldl_resume (history : List Signal) (i : Incident) :
    (history.foldl (observe .resume) [i]).reverse.map occurrences =
      [i.occurrences ++ history.filterMap Signal.occurrence?] := by
  induction history generalizing i with
  | nil => simp
  | cons signal rest ih =>
    cases signal with
    | occurs o =>
      have joined : observe .resume [i] (.occurs o) = [i.join o] := by simp [observe]
      rw [List.foldl_cons, joined, ih]
      simp [Signal.occurrence?]
    | ends message =>
      rw [List.foldl_cons, observe, ih, occurrences_close]
      rfl

theorem occurrences_foldl_resume_nil (history : List Signal) :
    (history.foldl (observe .resume) []).reverse.map occurrences =
      [history.filterMap Signal.occurrence?].filter (!·.isEmpty) := by
  induction history with
  | nil => rfl
  | cons signal rest ih =>
    cases signal with
    | occurs o =>
      rw [List.foldl_cons, observe, occurrences_foldl_resume]
      rfl
    | ends message =>
      rw [List.foldl_cons, observe, ih]
      rfl

theorem occurrences_ofHistory (policy : ReopenPolicy) (history : List Signal) :
    (ofHistory policy history).map occurrences =
      (stretches policy history).filter (!·.isEmpty) := by
  unfold ofHistory
  cases policy with
  | newIncident => exact (occurrences_foldl_newIncident history).1 [] (by simp)
  | resume => exact occurrences_foldl_resume_nil history

theorem length_ofHistory_resume (history : List Signal) :
    (ofHistory .resume history).length ≤ 1 := by
  have one := congrArg List.length (occurrences_ofHistory .resume history)
  rw [List.length_map] at one
  rw [one]
  exact List.length_filter_le _ [_]

theorem report_join (i : Incident) (o : Sighting) : (i.join o).report =
    { occurrenceCount := i.report.occurrenceCount + 1
      occurredAt := i.report.occurredAt
      severity := o.finding.severity
      message := o.finding.message
      rawData := o.finding.raw
      resolved := false } := by
  have last : (i.join o).last = o.finding := by simp [Incident.last, join]
  have message : (i.join o).message = o.finding.message := congrArg Finding.message last
  have count : (i.join o).occurrences.length = i.occurrences.length + 1 := by simp
  unfold report
  rw [last, message, count]
  rfl

theorem report_close {i : Incident} (runs : i.ended = false) (m : String) : (i.close m).report =
    { i.report with
      message := if m = "" then i.report.message else m
      resolved := true } := by
  have unended : i.ending = none := by simpa [ended] using runs
  have message : i.message = i.last.message := by simp [message, unended]
  have closed : i.close m = { i with ending := some m } := by simp [close, runs]
  rw [closed, report, report, message]
  rfl

end Incident

theorem Incident.ended_of_report {a : Alert} {i : Incident} (same : a.report = i.report) :
    i.ended = decide (a.status = .resolved) := (congrArg Report.resolved same).symm

namespace AlertStore

/-- The alerts of a fingerprint report the incidents, newest first. -/
def Reports (s : AlertStore) (fp : String) (incidents : List Incident) : Prop :=
  (s.recent fp).map Alert.report = incidents.map Incident.report

variable {s : AlertStore} {fp : String} {incidents : List Incident} {id : Uuid} {old new : Alert}

theorem reports_empty (fp : String) : empty.Reports fp [] := rfl

theorem Reports.inOrder (h : s.Reports fp incidents) :
    (s.alertsFor fp).map Alert.report = incidents.reverse.map Incident.report := by
  have inOrder : s.alertsFor fp = (s.recent fp).reverse := (List.reverse_reverse _).symm
  rw [inOrder, List.map_reverse, List.map_reverse, h]

theorem Reports.newest (h : s.Reports fp incidents) {a : Alert} {older : List Alert}
    (newest : s.recent fp = a :: older) :
    ∃ i rest, incidents = i :: rest ∧ a.report = i.report ∧
      older.map Alert.report = rest.map Incident.report := by
  rw [Reports, newest] at h
  obtain ⟨i, rest, rfl, report, reports⟩ := List.map_eq_cons_iff.mp h.symm
  exact ⟨i, rest, rfl, report.symm, reports.symm⟩

theorem Reports.ended_of_closed (h : s.Reports fp incidents)
    (closed : ∀ a, (s.recent fp).head? = some a → a.status = .resolved) {i : Incident}
    {rest : List Incident} (first : incidents = i :: rest) : i.ended = true := by
  rw [Reports, first] at h
  obtain ⟨a, older, newest, report, -⟩ := List.map_eq_cons_iff.mp h
  rw [Incident.ended_of_report report]
  exact decide_eq_true (closed a (by rw [newest]; rfl))

theorem Reports.put (h : s.Reports fp incidents) (coherent : s.Coherent)
    (stored : s.records.find? id = some old) (sameFingerprint : new.fingerprint = old.fingerprint)
    (report : new.report = old.report) : (s.put id new).Reports fp incidents := by
  have kept (a : Alert) : (replaced old new a).report = a.report := by
    unfold replaced
    split
    · rename_i isOld
      rw [report, isOld]
    · rfl
  rw [Reports, coherent.recent_put stored sameFingerprint, List.map_map]
  exact (List.map_congr_left fun a _ => kept a).trans h

theorem Reports.put_of_ne (h : s.Reports fp incidents) (coherent : s.Coherent)
    (stored : s.records.find? id = some old) (sameFingerprint : new.fingerprint = old.fingerprint)
    (other : old.fingerprint ≠ fp) : (s.put id new).Reports fp incidents := by
  have absent : old ∉ s.recent fp := fun there => other (coherent.mem_recent_iff.mp there).2
  rw [Reports, coherent.recent_put stored sameFingerprint, map_replaced_of_not_mem absent]
  exact h

theorem Reports.put_newest {older : List Alert} {i : Incident} {rest : List Incident}
    (coherent : s.Coherent) (newest : s.recent fp = old :: older)
    (sameFingerprint : new.fingerprint = old.fingerprint) (report : new.report = i.report)
    (reports : older.map Alert.report = rest.map Incident.report) :
    (s.put old.id new).Reports fp (i :: rest) := by
  obtain ⟨-, rfl⟩ := coherent.stored_of_newest newest
  rw [Reports, coherent.recent_put_newest newest sameFingerprint, if_pos rfl, List.map_cons, report,
    reports]
  rfl

theorem Reports.close (h : s.Reports fp incidents) (coherent : s.Coherent) {older : List Alert}
    (newest : s.recent fp = old :: older) (wasOpen : old.status.isOpen = true)
    (sameFingerprint : new.fingerprint = old.fingerprint) {m : String}
    (report : new.report = { old.report with
      message := if m = "" then old.message else m
      resolved := true }) (policy : ReopenPolicy) :
    (s.put old.id new).Reports fp (Incident.observe policy incidents (.ends m)) := by
  obtain ⟨i, rest, rfl, same, reports⟩ := h.newest newest
  have runs : i.ended = false := by
    rw [Incident.ended_of_report same]
    exact decide_eq_false (AlertStatus.isOpen_iff.mp wasOpen)
  refine Reports.put_newest coherent newest sameFingerprint ?_ reports
  rw [report, Incident.report_close runs, ← same]
  rfl

end AlertStore

namespace Correlation

variable {s t : State} {policy : ReopenPolicy} {connector fp : String} {f : Finding}
  {now : Instant} {incidents : List Incident}

theorem report_refreshed {a : Alert} {i : Incident} (same : a.report = i.report)
    (connector : String) (f : Finding) (now : Instant) :
    (bumped (refresh (reopened a) connector f now)).report = (i.join ⟨f, now⟩).report := by
  have runs : (reopened a).status ≠ .resolved := AlertStatus.isOpen_iff.mp (reopened_isOpen a)
  rw [Incident.report_join, ← same]
  simp [Alert.report, bumped, refresh, runs]

/-- A finding does to the alerts of its fingerprint what its signal does to the incidents. -/
theorem Received.reports {applied : Applied} (h : s.Orderly)
    (r : Received policy connector f now s applied t)
    (same : s.store.Reports f.fingerprint incidents) :
    t.store.Reports f.fingerprint (Incident.observe policy incidents (.ofFinding now f)) := by
  cases r with
  | ignored ends closed =>
    rw [Signal.ofFinding, if_pos ends]
    cases incidents with
    | nil => exact same
    | cons i rest =>
      have ended := same.ended_of_closed closed rfl
      rwa [Incident.observe, Incident.close, if_pos ended]
  | @created new occurs closed absent fresh =>
    have started : Incident.observe policy incidents (.occurs ⟨f, now⟩) =
        { first := ⟨f, now⟩ } :: incidents := by
      cases incidents with
      | nil => rfl
      | cons i rest =>
        have ended := same.ended_of_closed (fun a newest => (closed a newest).1) rfl
        obtain ⟨a, older, newest, -, -⟩ := List.map_eq_cons_iff.mp same
        have stays := (closed a (by rw [newest]; rfl)).2
        simp [Incident.observe, ended, stays]
    have mine : f.fingerprint = new.fingerprint := fresh ▸ rfl
    have report : new.report = ({ first := ⟨f, now⟩ } : Incident).report := fresh ▸ rfl
    rw [Signal.ofFinding, if_neg occurs, started, AlertStore.Reports, recent_add absent,
      if_pos mine, List.map_cons, List.map_cons, report, same]
  | @updated a new older newest occurs reopens refreshed =>
    obtain ⟨i, rest, rfl, report, reports⟩ := same.newest newest
    have joined : Incident.observe policy (i :: rest) (.occurs ⟨f, now⟩) =
        i.join ⟨f, now⟩ :: rest := by
      rw [Incident.observe, Incident.ended_of_report report]
      by_cases resolved : a.status = .resolved
      · simp [reopens resolved]
      · simp [resolved]
    rw [Signal.ofFinding, if_neg occurs, joined]
    subst refreshed
    exact AlertStore.Reports.put_newest h.coherent newest (reopened_fingerprint a)
      (report_refreshed report connector f now) reports
  | @resolved a new older newest ends wasOpen clears =>
    rw [Signal.ofFinding, if_pos ends]
    exact same.close h.coherent newest wasOpen (clears ▸ rfl) (clears ▸ rfl) policy

theorem reports_batch (h : s.Orderly) (same : s.store.Reports fp incidents)
    (policy : ReopenPolicy) (connector : String) (now : Instant) (batch : List Finding) :
    (batch.foldl (receive policy connector now) s).store.Reports fp
      (((batch.filter (·.fingerprint = fp)).map (Signal.ofFinding now)).foldl
        (Incident.observe policy) incidents) := by
  induction batch generalizing s incidents with
  | nil => exact same
  | cons f rest ih =>
    obtain ⟨applied, t, attempted, r⟩ := h.attempt policy connector f now
    have there : receive policy connector now s f = t := congrArg Prod.snd attempted
    rw [List.foldl_cons, there]
    by_cases mine : f.fingerprint = fp
    · subst mine
      rw [List.filter_cons_of_pos (by simp), List.map_cons, List.foldl_cons]
      exact ih (h.received r) (r.reports h same)
    · rw [List.filter_cons_of_neg (by simp [mine])]
      refine ih (h.received r) ?_
      rw [AlertStore.Reports, h.recent_of_ne r fun same => mine same.symm]
      exact same

theorem report_operated {action : AlertAction} {old next : Alert}
    (allowed : action.applyTo now old = .ok next) (version : Nat) :
    ({ next with version := version } : Alert).report =
      { old.report with resolved := action = .resolve } := by
  obtain ⟨-, -, -, rfl⟩ := AlertAction.applyTo_eq_ok allowed
  cases action <;> rfl

/-- An operator ends an incident by resolving the alert of it, and by nothing else. -/
theorem reports_operate (h : s.Orderly) (same : s.store.Reports fp incidents) {id : Uuid}
    {action : AlertAction} {old next : Alert} (stored : s.store.records.find? id = some old)
    (allowed : action.applyTo now old = .ok next) :
    (s.store.put id { next with version := old.version + 1 }).Reports fp
      ((if next.fingerprint = fp ∧ action = .resolve then [.ends ""] else []).foldl
        (Incident.observe policy) incidents) := by
  have adjusts := AlertAction.adjusts allowed
  have wasOpen := AlertStatus.isOpen_of_mayBecome adjusts.status
  have report := report_operated allowed (old.version + 1)
  generalize changed : ({ next with version := old.version + 1 } : Alert) = new at report ⊢
  have kept : new.fingerprint = old.fingerprint := changed ▸ adjusts.fingerprint
  rw [adjusts.fingerprint]
  by_cases mine : old.fingerprint = fp
  · by_cases resolves : action = .resolve
    · rw [if_pos ⟨mine, resolves⟩]
      obtain rfl := h.coherent.own_id stored
      have there : old ∈ s.store.recent fp := h.coherent.mem_recent_iff.mpr ⟨stored, mine⟩
      obtain ⟨a, older, newest⟩ := List.exists_cons_of_ne_nil (List.ne_nil_of_mem there)
      obtain rfl := h.newest_of_isOpen newest there wasOpen
      refine same.close h.coherent newest wasOpen kept ?_ policy
      rw [report, resolves, if_pos rfl]
      rfl
    · rw [if_neg fun both => resolves both.2]
      refine same.put h.coherent stored kept (report.trans ?_)
      simp [Alert.report, resolves, AlertStatus.isOpen_iff.mp wasOpen]
  · rw [if_neg fun both => mine both.1]
    exact same.put_of_ne h.coherent stored kept mine

/-- What a request says about a fingerprint.  An operator says that a condition has ended by
resolving an alert of it. -/
def State.signals (fp : String) (s : State) : AlertRequest → List Signal
  | .ingest _ now batch => (batch.filter (·.fingerprint = fp)).map (Signal.ofFinding now)
  | .operate id action now =>
    match s.store.apply id action now with
    | .ok (a, _) => if a.fingerprint = fp ∧ action = .resolve then [.ends ""] else []
    | .error _ => []
  | .sweep _ => []

/-- What is heard of a fingerprint while requests are served. -/
def State.history (c : AlertConfig) (fp : String) (s : State) : List AlertRequest → List Signal
  | [] => []
  | request :: rest => s.signals fp request ++ history c fp (s.serve c request) rest

theorem reports_serve (h : s.Orderly) (same : s.store.Reports fp incidents) (c : AlertConfig)
    (request : AlertRequest) :
    (s.serve c request).store.Reports fp
      ((s.signals fp request).foldl (Incident.observe c.reopenPolicy) incidents) := by
  cases request with
  | ingest connector now batch =>
    rw [State.serve, (h.ingest c connector now batch).1]
    exact reports_batch h same c.reopenPolicy connector now batch
  | operate id action now =>
    rw [State.serve, State.signals]
    cases applied : s.store.apply id action now with
    | error e => exact same
    | ok result =>
      obtain ⟨a, t⟩ := result
      obtain ⟨old, next, stored, allowed, rfl, rfl⟩ := modify_eq_ok applied
      exact reports_operate h same stored allowed
  | sweep now =>
    have both : State.Orderly ⟨(s.store.expireSuppressions now).2, s.ids⟩ ∧
        (s.store.expireSuppressions now).2.Reports fp incidents := by
      refine sweep_induction (P := fun store => State.Orderly ⟨store, s.ids⟩ ∧
        store.Reports fp incidents) ⟨h, same⟩ ?_
      rintro store id old next ⟨orderly, same⟩ stored allowed
      have adjusts := reactivate_adjusts allowed
      refine ⟨orderly.adjust stored adjusts, ?_⟩
      refine same.put orderly.coherent stored adjusts.fingerprint ?_
      obtain ⟨suppressed, -, rfl⟩ := reactivate_eq_ok allowed
      simp [Alert.report, suppressed]
    exact both.2

theorem reports_serveAll (h : s.Orderly) (same : s.store.Reports fp incidents) (c : AlertConfig)
    (requests : List AlertRequest) :
    (s.serveAll c requests).Orderly ∧ (s.serveAll c requests).store.Reports fp
      ((s.history c fp requests).foldl (Incident.observe c.reopenPolicy) incidents) := by
  induction requests generalizing s incidents with
  | nil => exact ⟨h, same⟩
  | cons request rest ih =>
    rw [State.history, List.foldl_append]
    exact ih (h.serve c request) (reports_serve h same c request)

/-- Serving requests one after the other on an empty store: the alerts of a fingerprint report the
incidents that were heard of it, which are the stretches between two ends, or all occurrences if
alerts are resumed; all alerts but the newest are resolved; no attempt at a finding fails, and it
makes an alert just if it is an occurrence and there is no open alert to join, or none at all if
alerts are resumed; and the answer to a batch counts each finding for what became of it. -/
theorem alerts_report_incidents (c : AlertConfig) (ids : IdSupply) (requests : List AlertRequest)
    (fp : String) :
    let start : State := ⟨.empty, ids⟩
    let s := start.serveAll c requests
    let history := start.history c fp requests
    let incidents := Incident.ofHistory c.reopenPolicy history
    let alerts := s.store.alertsFor fp
    alerts.map Alert.report = incidents.map Incident.report ∧
    incidents.map Incident.occurrences =
      (Incident.stretches c.reopenPolicy history).filter (!·.isEmpty) ∧
    (∀ a ∈ alerts.dropLast, a.status = .resolved) ∧
    (c.reopenPolicy = .resume → alerts.length ≤ 1) ∧
    s.store.latestFor fp = alerts.getLast? ∧
    (∀ connector now f, f.fingerprint = fp →
      let applied := verdict c.reopenPolicy alerts f
      ∃ t, attempt c.reopenPolicy connector f now s = (.ok applied, t) ∧
        (t.store.alertsFor fp).length = alerts.length + if applied = .created then 1 else 0) ∧
    (∀ request, (∀ connector now batch, request ≠ .ingest connector now batch) →
      ((s.serve c request).store.alertsFor fp).length = alerts.length) ∧
    ∀ connector now batch, ingest c connector now batch s =
      (.ok (.mergeAll ((verdicts c.reopenPolicy connector now batch s).map Applied.counts)),
        batch.foldl (receive c.reopenPolicy connector now) s) := by
  intro start s history incidents alerts
  obtain ⟨orderly, reports⟩ :=
    reports_serveAll (State.Orderly.start ids) (reports_empty fp) c requests
  have same : alerts.map Alert.report = incidents.map Incident.report := reports.inOrder
  refine ⟨same, Incident.occurrences_ofHistory c.reopenPolicy history,
    fun _ there => orderly.resolved_of_mem_dropLast there, ?_, ?_, ?_, ?_, ?_⟩
  · intro resume
    have count : alerts.length = incidents.length := by simpa using congrArg List.length same
    have one := Incident.length_ofHistory_resume history
    rw [← resume] at one
    rw [count]
    exact one
  · rw [← List.head?_reverse]
    exact orderly.latestFor fp
  · rintro connector now f rfl applied
    obtain ⟨_, t, attempted, r⟩ := orderly.attempt c.reopenPolicy connector f now
    obtain rfl := orderly.eq_verdict r
    have grown := orderly.recordCount r (· = f.fingerprint)
    simp only [decide_true, Bool.true_and, decide_eq_true_eq] at grown
    exact ⟨t, attempted, grown⟩
  · exact fun request other => recordCount_serve other (· = fp)
  · exact fun connector now batch => (orderly.ingest c connector now batch).1

def recurrence (f : Finding) : List AlertRequest :=
  [.ingest "a" ⟨10⟩ [f, f], .ingest "b" ⟨20⟩ [{ f with severity := .clear, message := "gone" }],
    .sweep ⟨30⟩, .ingest "a" ⟨40⟩ [f]]

theorem alerts_report_incidents_recurrence :
    let f := AlertTraffic.highCpu
    let s := State.serveAll {} ⟨.empty, {}⟩ (recurrence f)
    (s.store.alertsFor f.fingerprint).map Alert.report =
      [⟨2, ⟨10⟩, .major, "gone", .null, true⟩, ⟨1, ⟨40⟩, .major, f.message, .null, false⟩] ∧
    ∃ t, attempt .newIncident "b" f ⟨50⟩ s = (.ok .updated, t) := by
  intro f s
  obtain ⟨reports, -, -, -, -, attempts, -⟩ :=
    alerts_report_incidents {} {} (recurrence f) f.fingerprint
  have verdict : verdict .newIncident (s.store.alertsFor f.fingerprint) f = .updated := by
    decide +kernel
  obtain ⟨t, attempted, -⟩ := attempts "b" ⟨50⟩ f rfl
  refine ⟨reports.trans (by decide +kernel), t, ?_⟩
  rw [← verdict]
  exact attempted

/-- Where alerts are resumed, all occurrences are those of one alert. -/
example :
    let s := State.serveAll ⟨.resume, 5⟩ ⟨.empty, {}⟩ (recurrence AlertTraffic.highCpu)
    s.store.alerts.map (fun a => (a.occurrenceCount, a.occurredAt)) = [(3, ⟨10⟩)] := by
  decide +kernel

end Correlation

end DeviceWatch
