import DeviceWatch.Proofs.Alert.Calls
import DeviceWatch.Proofs.Alert.Conservation

/-!
# Findings that are given up

A commit is refused only if its window has a write of somebody else to the fingerprint of the
finding: without one, what was read is the latest alert still.  A finding that is given up has
therefore met as many such writes as it has had attempts, while a finding that nobody interferes with
is done after the first one.
-/

namespace DeviceWatch

open Correlation AlertStore

/-- Somebody other than ingester `i` has written to an alert of the fingerprint. -/
def AlertWrite.interferes (i : Nat) (fp : String) (x : AlertWrite) : Bool :=
  x.writer ≠ .ingester i && x.fingerprint = fp

/-- What the ingester has read, or has planned from, is the latest alert still. -/
def Ingester.UpToDate (c : AlertConfig) (s : AlertStore) (f : Finding) (w : Ingester) : Prop :=
  match w.stage with
  | .read latest => s.latestFor f.fingerprint = latest
  | .planned next applied => ∃ now id,
      Correlation.plan c.reopenPolicy w.connector f.fingerprint (s.latestFor f.fingerprint) f now
        id = some (next, applied)
  | _ => True

namespace IngestCall

/-- What is noted of the call that an ingester has under way. -/
structure Fits (c : AlertConfig) (i : Nat) (s : AlertStore) (w : Ingester) (call : IngestCall) :
    Prop where
  budget : w.left + call.windows.length = c.maxCommitRetries
  foreign : ∀ x ∈ call.during, x.writer ≠ .ingester i
  within : (call.windows.flatten ++ call.since).Sublist call.during
  contended : ∀ f rest, w.todo = f :: rest →
    ∀ window ∈ call.windows, window.any (·.interferes i f.fingerprint) = true
  current : ∀ f rest, w.todo = f :: rest →
    call.since.any (·.interferes i f.fingerprint) = false → w.UpToDate c s f

variable {c : AlertConfig} {i : Nat} {s t : AlertStore} {w : Ingester} {call : IngestCall}
  {f : Finding} {rest : List Finding}

theorem Fits.note (h : call.Fits c i s w) {write : Option AlertWrite}
    (foreign : ∀ x ∈ write, x.writer ≠ .ingester i)
    (frame : ∀ fp, (∀ x ∈ write, x.fingerprint ≠ fp) → t.latestFor fp = s.latestFor fp) :
    (call.note write).Fits c i t w where
  budget := h.budget
  foreign := by
    intro x there
    rcases List.mem_append.mp there with old | new
    · exact h.foreign x old
    · exact foreign x (Option.mem_toList.mp new)
  within := by
    rw [note_windows, note_since, note_during, ← List.append_assoc]
    exact h.within.append_right _
  contended := h.contended
  current := by
    intro f rest todo quiet
    rw [note_since, List.any_append, Bool.or_eq_false_iff] at quiet
    obtain ⟨quietBefore, quietNow⟩ := quiet
    have kept : t.latestFor f.fingerprint = s.latestFor f.fingerprint := by
      refine frame _ fun x written same => ?_
      have calm := List.any_eq_false.mp quietNow x (Option.mem_toList.mpr written)
      simp [AlertWrite.interferes, same, foreign x written] at calm
    have upToDate := h.current f rest todo quietBefore
    unfold Ingester.UpToDate at upToDate ⊢
    rwa [kept]

theorem Fits.accepted (h : call.Fits c i s w) {next : Alert} {applied : Applied}
    (coherent : s.Coherent)
    (unused : ∀ next, w.stage = .planned next .created → s.records.find? next.id = none)
    (drafted : w.stage = .planned next applied) (todo : w.todo = f :: rest)
    (quiet : call.since.any (·.interferes i f.fingerprint) = false) :
    ∃ t, s.commit next = .ok (bumped next, t) := by
  have upToDate := h.current f rest todo quiet
  simp only [Ingester.UpToDate, drafted] at upToDate
  obtain ⟨now, id, planned⟩ := upToDate
  exact commit_of_latest coherent rfl planned fun created => unused next (created ▸ drafted)

theorem Fits.interfered (h : call.Fits c i s w) {next : Alert} {applied : Applied}
    {e : ServiceError} (coherent : s.Coherent)
    (unused : ∀ next, w.stage = .planned next .created → s.records.find? next.id = none)
    (drafted : w.stage = .planned next applied) (todo : w.todo = f :: rest)
    (failed : s.commit next = .error e) :
    call.since.any (·.interferes i f.fingerprint) = true := by
  cases quiet : call.since.any (·.interferes i f.fingerprint) with
  | true => rfl
  | false =>
    obtain ⟨t, done⟩ := h.accepted coherent unused drafted todo quiet
    rw [done] at failed
    cases failed

theorem fits_empty (ready : w.stage = .ready) (budget : w.left = c.maxCommitRetries) :
    ({} : IngestCall).Fits c i s w where
  budget := budget
  foreign := by simp
  within := List.nil_sublist _
  contended := by simp
  current := by
    intro f rest todo quiet
    unfold Ingester.UpToDate
    rw [ready]
    trivial

theorem Fits.read (h : call.Fits c i s w) (todo : w.todo = f :: rest) :
    ({ call with since := [] } : IngestCall).Fits c i s
      { w with stage := .read (s.latestFor f.fingerprint) } where
  budget := h.budget
  foreign := h.foreign
  within := by
    rw [List.append_nil]
    exact (List.sublist_append_left _ _).trans h.within
  contended := h.contended
  current := by
    intro f' rest' todo' quiet
    cases todo.symm.trans todo'
    rfl

theorem Fits.draft (h : call.Fits c i s w) {latest : Option Alert} {now : Instant} {id : Uuid}
    {next : Alert} {applied : Applied} (known : w.stage = .read latest)
    (todo : w.todo = f :: rest)
    (planned : Correlation.plan c.reopenPolicy w.connector f.fingerprint latest f now id =
      some (next, applied)) :
    call.Fits c i s { w with stage := .planned next applied } where
  budget := h.budget
  foreign := h.foreign
  within := h.within
  contended := h.contended
  current := by
    intro f' rest' todo' quiet
    cases todo.symm.trans todo'
    have upToDate := h.current f rest todo quiet
    simp only [Ingester.UpToDate, known] at upToDate
    exact ⟨now, id, upToDate ▸ planned⟩

/-- Every attempt up to a refused one has been interfered with. -/
theorem Fits.contended_closed (h : call.Fits c i s w) (todo : w.todo = f :: rest)
    (interfered : call.since.any (·.interferes i f.fingerprint) = true) :
    ∀ window ∈ call.closed.windows, window.any (·.interferes i f.fingerprint) = true := by
  intro window there
  rcases List.mem_append.mp there with earlier | last
  · exact h.contended f rest todo window earlier
  · obtain rfl := List.mem_singleton.mp last
    exact interfered

theorem Fits.retry (h : call.Fits c i s w) {left : Nat} (todo : w.todo = f :: rest)
    (budget : w.left = left + 1)
    (interfered : call.since.any (·.interferes i f.fingerprint) = true) :
    call.closed.Fits c i s { w with left := left, stage := .ready } where
  budget := by
    have spent := h.budget
    simp only [closed_windows, List.length_append, List.length_singleton]
    omega
  foreign := h.foreign
  within := by simpa using h.within
  contended := by
    intro f' rest' todo'
    cases todo.symm.trans todo'
    exact h.contended_closed todo interfered
  current := by
    intro f' rest' todo' quiet
    trivial

end IngestCall

/-- What the ingester itself writes for a finding: nothing if it is ignored or given up. -/
def EndedCall.ownWrites (i : Nat) (ended : EndedCall) : List AlertWrite :=
  match ended.result with
  | .ok .ignored | .error _ => []
  | .ok _ => [⟨.ingester i, ended.finding.fingerprint⟩]

structure EndedCall.Fair (c : AlertConfig) (i : Nat) (ended : EndedCall) : Prop where
  /-- The windows lie in the call, one after the other. -/
  within : ended.call.windows.flatten.Sublist ended.call.during
  attempts : ended.call.windows.length ≤ c.maxCommitRetries + 1
  /-- A finding is given up after as many attempts as are allowed, each of them interfered with. -/
  givenUp : ∀ e, ended.result = .error e →
    (∃ reason, e = contendedError ended.finding.fingerprint c.maxCommitRetries reason) ∧
      ended.call.windows.length = c.maxCommitRetries + 1 ∧
      ∀ window ∈ ended.call.windows,
        window.any (·.interferes i ended.finding.fingerprint) = true
  /-- There is one write for a finding that is counted as more than ignored, and else none. -/
  own : ended.call.during.filter (·.writer = .ingester i) = ended.ownWrites i
  /-- An attempt that nobody interferes with is the last one. -/
  undisturbed : ∃ earlier last, ended.call.windows = earlier ++ [last] ∧
    (∀ window ∈ earlier, window.any (·.interferes i ended.finding.fingerprint) = true) ∧
    (last.any (·.interferes i ended.finding.fingerprint) = false →
      ∃ applied, ended.result = .ok applied)

namespace IngestCall

variable {c : AlertConfig} {i : Nat} {s : AlertStore} {w : Ingester} {call : IngestCall}
  {f : Finding} {rest : List Finding}

theorem Fits.fair (h : call.Fits c i s w) (todo : w.todo = f :: rest) {result : Outcome Applied}
    {write : Option AlertWrite}
    (givenUp : ∀ e, result = .error e →
      (∃ reason, e = contendedError f.fingerprint c.maxCommitRetries reason) ∧ w.left = 0 ∧
        call.since.any (·.interferes i f.fingerprint) = true)
    (own : write.toList.filter (·.writer = .ingester i) =
      EndedCall.ownWrites i ⟨f, result, call.closed.note write⟩) :
    EndedCall.Fair c i ⟨f, result, call.closed.note write⟩ where
  within := by simpa using h.within.trans (List.sublist_append_left _ write.toList)
  attempts := by
    have budget := h.budget
    simp only [note_windows, closed_windows, List.length_append, List.length_singleton]
    omega
  givenUp := by
    intro e failed
    obtain ⟨contended, spent, interfered⟩ := givenUp e failed
    have budget := h.budget
    refine ⟨contended, ?_, h.contended_closed todo interfered⟩
    simp only [note_windows, closed_windows, List.length_append, List.length_singleton]
    omega
  own := by
    have nothing : call.during.filter (·.writer = .ingester i) = [] := by
      rw [List.filter_eq_nil_iff]
      exact fun x there same => h.foreign x there (of_decide_eq_true same)
    rw [← own]
    simp only [note_during, closed_during, List.filter_append, nothing, List.nil_append]
  undisturbed := by
    refine ⟨call.windows, call.since, rfl, h.contended f rest todo, fun quiet => ?_⟩
    cases result with
    | ok applied => exact ⟨applied, rfl⟩
    | error e =>
      obtain ⟨-, -, interfered⟩ := givenUp e rfl
      cases quiet.symm.trans interfered

end IngestCall

/-- The calls of an ingester that are over and the one under way account for its batch. -/
structure Ingester.Recorded (c : AlertConfig) (i : Nat) (s : AlertStore) (w : Ingester)
    (call : Option IngestCall) (ended : List EndedCall) : Prop where
  batch : w.batch = ended.map (·.finding) ++ w.todo
  counts : w.counts = .mergeAll (ended.map (·.counts))
  between : call = none → w.stage = .ready
  fits : (call.getD {}).Fits c i s w
  fair : ∀ e ∈ ended, e.Fair c i

namespace Ingester

variable {c : AlertConfig} {i : Nat} {s t : AlertStore} {w : Ingester} {call : Option IngestCall}
  {ended : List EndedCall} {f : Finding} {rest : List Finding}

theorem recorded_start (c : AlertConfig) (i : Nat) (s : AlertStore) (connector : String)
    (batch : List Finding) : (start c connector batch).Recorded c i s none [] where
  batch := rfl
  counts := rfl
  between _ := rfl
  fits := IngestCall.fits_empty rfl rfl
  fair := by simp

theorem Recorded.finish (h : w.Recorded c i s call ended) (todo : w.todo = f :: rest)
    {result : Outcome Applied} {applied : Applied} {write : Option AlertWrite}
    (counted : (EndedCall.mk f result ((call.getD {}).closed.note write)).counts = applied.counts)
    (fair : EndedCall.Fair c i ⟨f, result, (call.getD {}).closed.note write⟩) :
    (w.finish c applied).Recorded c i t none
      (ended ++ [⟨f, result, (call.getD {}).closed.note write⟩]) where
  batch := by
    rw [List.map_append, List.append_assoc]
    simpa [Ingester.finish, todo] using h.batch
  counts := by
    rw [List.map_append, IngestCounts.mergeAll_append, ← h.counts]
    simp [Ingester.finish, IngestCounts.mergeAll, counted]
  between _ := rfl
  fits := IngestCall.fits_empty rfl rfl
  fair := by
    intro e there
    rcases List.mem_append.mp there with earlier | last
    · exact h.fair e earlier
    · obtain rfl := List.mem_singleton.mp last
      exact fair

/-- What is noted at an event agrees with what becomes of the ingester. -/
theorem Recorded.turn {s : AlertTraffic} {w' : Ingester} {turn : Turn} {write : Option AlertWrite}
    (h : w.Recorded c i s.store call ended) (coherent : s.store.Coherent)
    (unused : ∀ next, w.stage = .planned next .created → s.store.records.find? next.id = none)
    (frame : ∀ fp, (∀ x ∈ write, x.fingerprint ≠ fp) → t.latestFor fp = s.store.latestFor fp)
    (turned : s.Turned c i w turn write w') :
    w'.Recorded c i t (turn.proceed call write) (ended ++ turn.ended call write) := by
  have silent : ∀ x ∈ (none : Option AlertWrite), x.writer ≠ .ingester i := by simp
  -- Only an ingester that is ready has no call under way.
  have underWay (busy : w.stage ≠ .ready) : ∃ call', call = some call' :=
    Option.ne_none_iff_exists'.mp fun none => busy (h.between none)
  cases turned with
  | waits foreign =>
    rw [Turn.ended, List.append_nil]
    refine ⟨h.batch, h.counts, fun none => h.between (Option.map_eq_none_iff.mp none), ?_, h.fair⟩
    cases call with
    | none => exact IngestCall.fits_empty (h.between rfl) h.fits.budget
    | some call => exact h.fits.note foreign frame
  | reads ready todo =>
    rw [Turn.ended, List.append_nil]
    exact ⟨h.batch, h.counts, by simp [Turn.proceed], (h.fits.read todo).note silent frame, h.fair⟩
  | drafts known todo planned =>
    obtain ⟨call', rfl⟩ := underWay (by simp [known])
    rw [Turn.ended, List.append_nil]
    exact ⟨h.batch, h.counts, by simp [Turn.proceed],
      (h.fits.draft known todo planned).note silent frame, h.fair⟩
  | refused drafted todo budget failed =>
    obtain ⟨call', rfl⟩ := underWay (by simp [drafted])
    have interfered := h.fits.interfered coherent unused drafted todo failed
    rw [Turn.ended, List.append_nil]
    exact ⟨h.batch, h.counts, by simp [Turn.proceed],
      (h.fits.retry todo budget interfered).note silent frame, h.fair⟩
  | ignores todo => exact h.finish todo rfl (h.fits.fair todo (by simp) rfl)
  | @commits f rest applied todo writes =>
    refine h.finish todo rfl (h.fits.fair todo (by simp) ?_)
    cases applied with
    | ignored => exact absurd rfl writes
    | _ => simp [EndedCall.ownWrites]
  | givesUp drafted todo spent failed =>
    have interfered := h.fits.interfered coherent unused drafted todo failed
    refine h.finish todo rfl (h.fits.fair todo (fun e same => ?_) rfl)
    cases same
    exact ⟨⟨_, rfl⟩, spent, interfered⟩

end Ingester

namespace WatchedTraffic

structure Sound (c : AlertConfig) (i : Nat) (s : WatchedTraffic) : Prop where
  absent : s.traffic.ingesters[i]? = none → s.call = none ∧ s.ended = []
  recorded : ∀ w, s.traffic.ingesters[i]? = some w →
    w.Recorded c i s.traffic.store s.call s.ended

variable {c : AlertConfig} {i : Nat} {s : WatchedTraffic} {e : AlertEvent}

theorem Sound.step (h : Sound c i s) (sound : AlertTraffic.Sound c s.traffic)
    (unused : ∀ w ∈ s.traffic.ingesters, ∀ next, w.stage = .planned next .created →
      s.traffic.store.records.find? next.id = none) : Sound c i (s.step c i e) := by
  cases here : s.traffic.ingesters[i]? with
  | none =>
    obtain ⟨noCall, nothing⟩ := h.absent here
    have waits : s.traffic.turn c i e = .waits := by simp [AlertTraffic.turn, here]
    have still : (s.step c i e).call = none ∧ (s.step c i e).ended = [] := by
      simp [WatchedTraffic.step, waits, Turn.proceed, Turn.ended, noCall, nothing]
    refine ⟨fun _ => still, fun w there => ?_⟩
    obtain ⟨connector, batch, rfl⟩ := sound.exists_start here there
    rw [still.1, still.2]
    exact Ingester.recorded_start c i _ connector batch
  | some w =>
    obtain ⟨w', there, turned⟩ := sound.turned here e
    have recorded := (h.recorded w here).turn sound.coherent
      (unused w (List.mem_of_getElem? here)) (fun fp => sound.latestFor_step) turned
    refine ⟨fun none => ?_, fun w'' found => ?_⟩
    · cases there.symm.trans none
    · cases there.symm.trans found
      exact recorded

theorem sound_after {events : List AlertEvent} (once : AlertTraffic.DrawnOnce events) :
    Sound c i (after c i events) := by
  induction events using List.reverseRecOn with
  | nil => exact ⟨fun _ => ⟨rfl, rfl⟩, by simp [after]⟩
  | append_singleton events e ih =>
    have once' : AlertTraffic.DrawnOnce events := by
      unfold AlertTraffic.DrawnOnce at once ⊢
      rw [List.filterMap_append] at once
      exact (List.nodup_append.mp once).1
    rw [after_concat]
    refine (ih once').step ?_ ?_
    · rw [traffic_after]
      exact AlertTraffic.sound_after c events
    · rw [traffic_after]
      exact fun w there next drafted => AlertTraffic.unused_after once' there drafted

end WatchedTraffic

/-- A call in which nobody interferes has one attempt, and does not fail. -/
theorem EndedCall.Fair.of_quiet {c : AlertConfig} {i : Nat} {ended : EndedCall}
    (h : ended.Fair c i)
    (quiet : ended.call.during.any (·.interferes i ended.finding.fingerprint) = false) :
    ended.call.windows.length = 1 ∧ ∃ applied, ended.result = .ok applied := by
  obtain ⟨earlier, last, split, interfered, succeeds⟩ := h.undisturbed
  have calm {window : List AlertWrite} (there : window ∈ ended.call.windows) :
      window.any (·.interferes i ended.finding.fingerprint) = false := by
    rw [List.any_eq_false] at quiet ⊢
    exact fun x found => quiet x (h.within.subset (List.mem_flatten.mpr ⟨window, there, found⟩))
  have alone : earlier = [] := by
    refine List.eq_nil_iff_forall_not_mem.mpr fun window there => ?_
    have quiet' := calm (split ▸ List.mem_append_left [last] there)
    cases quiet'.symm.trans (interfered window there)
  subst alone
  refine ⟨by rw [split]; rfl, succeeds (calm ?_)⟩
  rw [split]
  exact List.mem_singleton_self last

namespace WatchedTraffic

/-- After any traffic in which no identifier is drawn twice, the findings of an ingester have been
given up only under contention: each attempt had a window with a write of somebody else to the
fingerprint, and the ingester itself wrote nothing.  Every finding that is counted as more than
ignored was written once; a call in which nobody interferes has one attempt, which succeeds; and so
does a commit in whose window nobody has interfered yet. -/
theorem givenUp_only_contended (c : AlertConfig) (events : List AlertEvent)
    (once : AlertTraffic.DrawnOnce events) (i : Nat) (w : Ingester)
    (here : (AlertTraffic.after c events).ingesters[i]? = some w) :
    let s := after c i events
    s.traffic = AlertTraffic.after c events ∧
    w.batch = s.ended.map (·.finding) ++ w.todo ∧
    w.counts = .mergeAll (s.ended.map (·.counts)) ∧
    (∀ ended ∈ s.ended,
      let fp := ended.finding.fingerprint
      ended.call.windows.flatten.Sublist ended.call.during ∧
      ended.call.windows.length ≤ c.maxCommitRetries + 1 ∧
      ended.call.during.filter (·.writer = .ingester i) = ended.ownWrites i ∧
      (∀ e, ended.result = .error e →
        (∃ reason, e = contendedError fp c.maxCommitRetries reason) ∧
        ended.call.windows.length = c.maxCommitRetries + 1 ∧
        (∀ window ∈ ended.call.windows, window.any (·.interferes i fp) = true) ∧
        c.maxCommitRetries + 1 ≤ ended.call.during.countP (·.interferes i fp)) ∧
      (ended.call.during.any (·.interferes i fp) = false →
        ended.call.windows.length = 1 ∧ ∃ applied, ended.result = .ok applied)) ∧
    ∀ f rest next applied, w.todo = f :: rest → w.stage = .planned next applied →
      ∃ call, s.call = some call ∧ (call.since.any (·.interferes i f.fingerprint) = false →
        ∃ t, s.traffic.store.commit next = .ok (bumped next, t)) := by
  intro s
  have same : s.traffic = AlertTraffic.after c events := traffic_after c i events
  have recorded : w.Recorded c i s.traffic.store s.call s.ended :=
    (sound_after once).recorded w (same ▸ here)
  refine ⟨same, recorded.batch, recorded.counts, fun ended there => ?_, ?_⟩
  · have fair := recorded.fair ended there
    refine ⟨fair.within, fair.attempts, fair.own, fun e failed => ?_, fair.of_quiet⟩
    obtain ⟨contended, attempts, interfered⟩ := fair.givenUp e failed
    refine ⟨contended, attempts, interfered, ?_⟩
    exact Nat.le_trans (Nat.le_of_eq attempts.symm) (length_le_countP_flatten fair.within interfered)
  · intro f rest next applied todo drafted
    have busy : s.call ≠ none := fun none => by
      cases drafted.symm.trans (recorded.between none)
    obtain ⟨call, underWay⟩ := Option.ne_none_iff_exists'.mp busy
    refine ⟨call, underWay, fun quiet => ?_⟩
    have fits : call.Fits c i s.traffic.store w := by
      have fits := recorded.fits
      rwa [underWay] at fits
    have coherent := (AlertTraffic.sound_after c events).coherent
    rw [same] at fits ⊢
    exact fits.accepted coherent
      (fun next => AlertTraffic.unused_after once (List.mem_of_getElem? here)) drafted todo quiet

/-- Two ingesters race to create an alert.  The one that loses reads the alert of the other one, but
an operator acknowledges it before it can be updated. -/
def lostTwice : List AlertEvent :=
  [.arrive "a" [AlertTraffic.highCpu], .arrive "b" [AlertTraffic.highCpu], .read 0, .read 1,
    .plan 0 default ⟨1⟩, .plan 1 default ⟨2⟩, .commit 0, .commit 1, .read 1,
    .plan 1 default ⟨3⟩, .operate ⟨1⟩ .acknowledge default, .commit 1]

theorem givenUp_only_contended_lostTwice :
    let s := after ⟨.resume, 1⟩ 1 lostTwice
    let fp := AlertTraffic.highCpu.fingerprint
    AlertTraffic.DrawnOnce lostTwice ∧ ∃ ended e, s.ended = [ended] ∧
      ended.result = .error e ∧ ended.finding.fingerprint = fp ∧
      ended.call.windows = [[⟨.ingester 0, fp⟩], [⟨.operator, fp⟩]] ∧
      2 ≤ ended.call.during.countP (·.interferes 1 fp) := by
  intro s fp
  have once : AlertTraffic.DrawnOnce lostTwice := by decide
  have arrived : ((AlertTraffic.after ⟨.resume, 1⟩ lostTwice).ingesters[1]?).isSome = true := by
    decide +kernel
  have noted : s.ended.map (fun e => (e.finding.fingerprint, e.call.windows)) =
      [(fp, [[⟨.ingester 0, fp⟩], [⟨.operator, fp⟩]])] := by
    decide +kernel
  have failed : s.ended.all (fun e => e.result.toOption.isNone) = true := by decide +kernel
  obtain ⟨w, here⟩ := Option.isSome_iff_exists.mp arrived
  obtain ⟨-, -, -, calls, -⟩ := givenUp_only_contended ⟨.resume, 1⟩ lostTwice once 1 w here
  obtain ⟨ended, alone, fields⟩ := List.map_eq_singleton_iff.mp noted
  obtain ⟨sameFingerprint, windows⟩ := Prod.mk.inj fields
  have there : ended ∈ s.ended := alone ▸ List.mem_singleton_self ended
  have none := List.all_eq_true.mp failed ended there
  cases result : ended.result with
  | ok applied => simp [result, Except.toOption] at none
  | error e =>
    obtain ⟨-, -, -, givenUp, -⟩ := calls ended there
    obtain ⟨-, -, -, contended⟩ := givenUp e result
    rw [sameFingerprint] at contended
    exact ⟨once, ended, e, alone, result, sameFingerprint, windows, contended⟩

end WatchedTraffic

end DeviceWatch
