import DeviceWatch.Proofs.Job.Reports

/-!
# Which step is ended

Ending a name ends the last step of it that has not ended, and that may be a step that has not even
begun.  So a running step of the name is ended just if none of that name is still to begin behind
it.  Where a name is planned again while a step of it runs, the planned step is ended in its place,
without a duration, and the other one goes on running.
-/

namespace DeviceWatch

namespace Progress

/-- The last step of the name that has not ended. -/
def lastOpen? (p : Progress) (name : String) : Option ProgressStep :=
  p.steps.reverse.find? fun s => s.name = name && !s.status.isEnd

/-- Completing or failing the name ends a running step of that name, with its duration, and changes
none that is pending. -/
def EndsRunning (p : Progress) (name : String) : Prop :=
  ∀ (r : ProgressReport) (status : StepStatus) (now : Instant), r.ends? = some (name, status) →
    (∃ (i : Nat) (s s' : ProgressStep), p.steps[i]? = some s ∧ s.name = name ∧
      s.status = .running ∧ (p.apply now r).steps[i]? = some s' ∧ s'.status = status ∧
      s'.durationMillis.isSome = true) ∧
    ∀ (i : Nat) (s : ProgressStep), p.steps[i]? = some s → s.status = .pending →
      (p.apply now r).steps[i]? = some s

variable {p : Progress} {name : String} {s : ProgressStep} {now : Instant}
  {l l' : List ProgressStep}

theorem lastOpen?_eq_some : p.lastOpen? name = some s ↔
    (s.name = name ∧ s.status.isEnd = false) ∧ ∃ before after, p.steps = before ++ s :: after ∧
      ∀ u ∈ after, u.name = name → u.status.isEnd = true := by
  simp only [lastOpen?, List.find?_eq_some_iff_append, List.reverse_eq_append_iff,
    List.reverse_cons, List.append_assoc, List.singleton_append, Bool.and_eq_true,
    decide_eq_true_iff, Bool.not_eq_true', Bool.and_eq_false_imp, Bool.not_eq_false']
  refine and_congr_right fun _ => ⟨?_, ?_⟩
  · rintro ⟨after, before, split, others⟩
    exact ⟨before.reverse, after.reverse, split, fun u there => others u (List.mem_reverse.mp there)⟩
  · rintro ⟨before, after, split, others⟩
    refine ⟨after.reverse, before.reverse, ?_, fun u there => others u (List.mem_reverse.mp there)⟩
    rw [List.reverse_reverse, List.reverse_reverse]
    exact split

theorem lastOpen?_eq_none : p.lastOpen? name = none ↔
    ∀ s ∈ p.steps, s.name = name → s.status.isEnd = true := by
  simp [lastOpen?, List.find?_eq_none]

theorem steps_apply_of_lastOpen {r : ProgressReport} {status : StepStatus}
    (ends : r.ends? = some (name, status)) (last : p.lastOpen? name = some s) (now : Instant) :
    ∃ before after, p.steps = before ++ s :: after ∧
      (p.apply now r).steps = before ++ s.ended status now :: after := by
  obtain ⟨⟨own, goesOn⟩, first, rest, whole, others⟩ := lastOpen?_eq_some.mp last
  rw [steps_apply_of_ends ends]
  rcases endStep_cases (ProgressReport.isEnd_of_ends ends) name now p.steps with
    ⟨before, u, after, split, rfl, opened, ended, done⟩ | ⟨all, -⟩
  · have found := lastOpen?_eq_some.mpr ⟨⟨rfl, opened⟩, before, after, split, ended⟩
    rw [last] at found
    cases found
    exact ⟨before, after, split, done⟩
  · rw [lastOpen?_eq_none.mpr all] at last
    cases last

theorem endsRunning_of_lastOpen (fits : ∀ s ∈ p.steps, s.Fits) (last : p.lastOpen? name = some s)
    (running : s.status = .running) : p.EndsRunning name := by
  intro r status now ends
  obtain ⟨before, after, split, done⟩ := steps_apply_of_lastOpen ends last now
  have own := (lastOpen?_eq_some.mp last).1.1
  have place : p.steps[before.length]? = some s := by simp [split]
  have began : s.startedAt.isSome = true := (fits s (List.mem_of_getElem? place)).started running
  refine ⟨⟨before.length, s, s.ended status now, place, own, running, by simp [done], rfl,
    Option.isSome_map.trans began⟩, fun i u there pending => ?_⟩
  rw [done, getElem?_replace before after s, ← split]
  split
  · rename_i here
    rw [here, place] at there
    cases there
    rw [running] at pending
    cases pending
  · exact there

theorem EndsRunning.lastOpen (ends : p.EndsRunning name) :
    ∃ s, p.lastOpen? name = some s ∧ s.status = .running := by
  obtain ⟨⟨i, u, -, there, own, running, -⟩, untouched⟩ := ends (.complete name) .completed default rfl
  cases last : p.lastOpen? name with
  | none =>
    have past := lastOpen?_eq_none.mp last u (List.mem_of_getElem? there) own
    rw [running] at past
    cases past
  | some s =>
    refine ⟨s, rfl, ?_⟩
    have goesOn := (lastOpen?_eq_some.mp last).1.2
    obtain ⟨before, after, split, done⟩ :=
      steps_apply_of_lastOpen (r := .complete name) rfl last default
    cases status : s.status with
    | running => rfl
    | pending =>
      -- A pending step would be changed.
      have place : (before ++ s.ended .completed default :: after)[before.length]? =
          some (s.ended .completed default) := by simp
      have same := untouched before.length s (by simp [split]) status
      rw [done, place] at same
      rw [← Option.some.inj same] at status
      cases status
    | completed => rw [status] at goesOn; cases goesOn
    | failed => rw [status] at goesOn; cases goesOn

/-- Of two steps of one name that have not ended, both are running. -/
def Tidy (l : List ProgressStep) : Prop :=
  l.Pairwise fun s u => s.name = u.name → s.status.isEnd = false → u.status.isEnd = false →
    s.status = .running ∧ u.status = .running

theorem Tidy.replace {before after : List ProgressStep} {s s' : ProgressStep}
    (tidy : Tidy (before ++ s :: after)) (name : s'.name = s.name)
    (settled : s'.status.isEnd = true ∨ s'.status = .running)
    (goesOn : s.status.isEnd = false) : Tidy (before ++ s' :: after) := by
  unfold Tidy at *
  rw [List.pairwise_append, List.pairwise_cons] at *
  obtain ⟨first, ⟨later, rest⟩, apart⟩ := tidy
  refine ⟨first, ⟨fun u there same opened other => ?_, rest⟩, fun u there v thence => ?_⟩
  · have both := later u there (name ▸ same) goesOn other
    rcases settled with past | running
    · rw [past] at opened
      cases opened
    · exact ⟨running, both.2⟩
  · rcases List.mem_cons.mp thence with rfl | behind
    · intro same opened other
      have both := apart u there s List.mem_cons_self (same.trans name) opened goesOn
      rcases settled with past | running
      · rw [past] at other
        cases other
      · exact ⟨both.1, running⟩
    · exact apart u there v (List.mem_cons_of_mem _ behind)

theorem Moves.tidy {r : ProgressReport} (moves : Moves now l r l') (tidy : Tidy l)
    (anew : ∀ names, r = .plan names →
      names.Nodup ∧ ∀ name ∈ names, ∀ s ∈ l, s.name = name → s.status.isEnd = true) :
    Tidy l' := by
  cases moves with
  | planned names =>
    obtain ⟨distinct, past⟩ := anew names rfl
    refine List.pairwise_append.mpr ⟨tidy, ?_, fun s there u planned same opened => ?_⟩
    · refine List.pairwise_map.mpr (distinct.imp fun differ same => ?_)
      exact absurd same differ
    · obtain ⟨name, listed, rfl⟩ := List.mem_map.mp planned
      rw [past name listed s there same] at opened
      cases opened
  | begun before after s split pending =>
    have goesOn : s.status.isEnd = false := by rw [pending]; rfl
    exact (split ▸ tidy).replace rfl (.inr rfl) goesOn
  | added name unplanned =>
    refine List.pairwise_append.mpr ⟨tidy, List.pairwise_singleton _ _,
      fun s there u added same opened _ => ?_⟩
    rw [List.mem_singleton.mp added] at same ⊢
    refine ⟨?_, rfl⟩
    have notPending := unplanned s there same
    cases status : s.status with
    | running => rfl
    | pending => exact absurd status notPending
    | completed => rw [status] at opened; cases opened
    | failed => rw [status] at opened; cases opened
  | ended r status before after s ends split goesOn last =>
    exact (split ▸ tidy).replace rfl (.inl (ProgressReport.isEnd_of_ends ends)) goesOn
  | _ => exact tidy

theorem Tidy.lastOpen (tidy : Tidy p.steps)
    (running : ∃ s ∈ p.steps, s.name = name ∧ s.status = .running) :
    ∃ s, p.lastOpen? name = some s ∧ s.status = .running := by
  obtain ⟨u, there, own, running⟩ := running
  have opened : u.status.isEnd = false := by rw [running]; rfl
  cases last : p.lastOpen? name with
  | none =>
    rw [lastOpen?_eq_none.mp last u there own] at opened
    cases opened
  | some s =>
    obtain ⟨⟨sameName, goesOn⟩, before, after, split, past⟩ := lastOpen?_eq_some.mp last
    refine ⟨s, rfl, ?_⟩
    rw [Tidy, split] at tidy
    rw [split] at there
    rcases List.mem_append.mp there with early | late
    · exact ((List.pairwise_append.mp tidy).2.2 u early s List.mem_cons_self
        (own.trans sameName.symm) opened goesOn).2
    · rcases List.mem_cons.mp late with rfl | behind
      · exact running
      · rw [past u behind own] at opened
        cases opened

end Progress

namespace Tracker

/-- Whenever steps are planned for the job, no name is planned twice, and none of which a step has
not ended. -/
def PlansAnew (t : Tracker) (operations : List Operation) (id : Uuid) : Prop :=
  ∀ before names now after p, operations = before ++ .report id (.plan names) now :: after →
    (t.run before).progressOf id = some p →
    names.Nodup ∧ ∀ name ∈ names, p.lastOpen? name = none

/-- In every state that operations lead to from an empty tracker, a report on a running job takes
effect, and ending a name ends a running step of it, touching no pending one, if and only if the
last step of the name that has not ended is running.  That is always so, as long as one is running,
where steps are planned anew only. -/
theorem ends_running_iff (limit : Nat) (operations : List Operation) (once : Once operations)
    (id : Uuid) (p : Progress) (shown : ((empty limit).run operations).progressOf id = some p)
    (name : String) :
    (∀ r now, (((empty limit).run operations).report id r now).progressOf id =
        some (p.apply now r)) ∧
      (p.EndsRunning name ↔ ∃ s, p.lastOpen? name = some s ∧ s.status = .running) ∧
      ((empty limit).PlansAnew operations id →
        (∃ s ∈ p.steps, s.name = name ∧ s.status = .running) → p.EndsRunning name) := by
  have fresh := fresh_empty once limit
  have start := (sound_empty limit).toRecords
  have records := (fresh.sound (sound_empty limit)).toRecords
  have fits := fresh.fits_progress start (fun p shown => by cases shown) p shown
  have exact' : p.EndsRunning name ↔ ∃ s, p.lastOpen? name = some s ∧ s.status = .running :=
    ⟨fun ends => ends.lastOpen, fun ⟨_, last, running⟩ =>
      Progress.endsRunning_of_lastOpen fits.steps last running⟩
  refine ⟨fun r now => ?_, exact', fun anew running => exact'.mpr ?_⟩
  · rw [progressOf_report records, if_pos rfl, shown]
    rfl
  · have tidy : ∀ q, ((empty limit).run operations).progressOf id = some q →
        Progress.Tidy q.steps := by
      refine fresh.progress_induction start (fun p shown => by cases shown)
        (fun _ => List.Pairwise.nil) fun before r now after q split reached tidy => ?_
      refine (q.apply_moves now r).tidy tidy fun names planned => ?_
      subst planned
      obtain ⟨distinct, past⟩ := anew before names now after q split reached
      exact ⟨distinct, fun name listed => Progress.lastOpen?_eq_none.mp (past name listed)⟩
    exact (tidy p shown).lastOpen running

/-- While its second step is pending, the first one of two planned steps can be ended. -/
theorem ends_running_scanning : Once scanning ∧ ∃ p,
    ((empty 1).run scanning).progressOf ⟨1⟩ = some p ∧
      p.steps.map (·.status) = [.running, .pending] ∧ p.EndsRunning "scan" := by
  have once : Once scanning := by decide +kernel
  have shows : (((empty 1).run scanning).progressOf ⟨1⟩).map (fun p => (p.steps.map (·.status),
      (p.lastOpen? "scan").map (·.status))) = some ([.running, .pending], some .running) := by
    decide +kernel
  obtain ⟨p, shown, same⟩ := Option.map_eq_some_iff.mp shows
  obtain ⟨statuses, last⟩ := Prod.mk.inj same
  obtain ⟨-, ends, -⟩ := ends_running_iff 1 scanning once ⟨1⟩ p shown "scan"
  exact ⟨once, p, shown, statuses, ends.mpr (Option.map_eq_some_iff.mp last)⟩

def plannedAgain : List Operation :=
  [.enqueue (idleTask 1) default, .start ⟨1⟩ "worker-0" default,
    .report ⟨1⟩ (.begin "scan") default, .report ⟨1⟩ (.plan ["scan"]) default]

/-- Where a name is planned again while a step of it runs, the planned step is ended. -/
theorem not_endsRunning_plannedAgain : Once plannedAgain ∧ ∃ p,
    ((empty 1).run plannedAgain).progressOf ⟨1⟩ = some p ∧
      (∃ s ∈ p.steps, s.name = "scan" ∧ s.status = .running) ∧ ¬ p.EndsRunning "scan" := by
  let steps : List ProgressStep := [Progress.runningStep "scan" default, Progress.plannedStep "scan"]
  have shows : (((empty 1).run plannedAgain).progressOf ⟨1⟩).map (·.steps) = some steps := by
    decide +kernel
  obtain ⟨p, shown, there⟩ := Option.map_eq_some_iff.mp shows
  have first : Progress.runningStep "scan" default ∈ p.steps := there ▸ List.mem_cons_self
  have second : p.steps[1]? = some (Progress.plannedStep "scan") := by rw [there]; rfl
  refine ⟨by decide +kernel, p, shown, ⟨_, first, rfl, rfl⟩, fun ends => ?_⟩
  obtain ⟨-, untouched⟩ := ends (.complete "scan") .completed default rfl
  have same := untouched 1 _ second rfl
  rw [Progress.steps_apply_of_ends rfl, there] at same
  revert same
  decide +kernel

end Tracker

end DeviceWatch
