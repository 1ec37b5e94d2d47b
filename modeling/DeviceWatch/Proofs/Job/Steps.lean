import DeviceWatch.Job.Progress
import DeviceWatch.Proofs.Lists

/-!
# What a report does to the steps

A report appends steps at the end or moves one step on, and leaves all others as they are; `Moves`
lists the ways.  So the steps of a later snapshot extend those of an earlier one: each is still at
its place under its name, its status has only moved forward, and it has not changed since it ended.
-/

namespace DeviceWatch

def StepStatus.isEnd : StepStatus → Bool
  | completed | failed => true
  | _ => false

theorem StepStatus.canAdvanceTo_end (s : StepStatus) {t : StepStatus} (ends : t.isEnd = true) :
    s.canAdvanceTo t = !s.isEnd := by
  cases t with
  | pending => cases ends
  | running => cases ends
  | _ => cases s <;> rfl

def ProgressReport.ends? : ProgressReport → Option (String × StepStatus)
  | complete name => some (name, .completed)
  | fail name => some (name, .failed)
  | _ => none

theorem ProgressReport.isEnd_of_ends {r : ProgressReport} {name : String} {status : StepStatus}
    (ends : r.ends? = some (name, status)) : status.isEnd = true := by
  cases r with
  | complete name => cases ends; rfl
  | fail name => cases ends; rfl
  | _ => cases ends

namespace ProgressStep

def begun (s : ProgressStep) (now : Instant) : ProgressStep :=
  { s with status := .running, startedAt := some now }

def ended (s : ProgressStep) (status : StepStatus) (now : Instant) : ProgressStep :=
  { s with status := status, durationMillis := s.startedAt.map (·.millisUntil now) }

/-- A later record of the same step: its status has only moved forward, and it has not changed since
the step ended. -/
structure Later (old new : ProgressStep) : Prop where
  name : new.name = old.name
  forward : old.status.rank ≤ new.status.rank
  final : old.status.isEnd = true → new = old

theorem Later.refl (s : ProgressStep) : s.Later s := ⟨rfl, Nat.le_refl _, fun _ => rfl⟩

theorem Later.trans {first second third : ProgressStep} (h : first.Later second)
    (g : second.Later third) : first.Later third := by
  refine ⟨g.name.trans h.name, Nat.le_trans h.forward g.forward, fun past => ?_⟩
  have same := h.final past
  exact (g.final (same.symm ▸ past)).trans same

theorem later_begun {s : ProgressStep} (pending : s.status = .pending) (now : Instant) :
    s.Later (s.begun now) := by
  refine ⟨rfl, ?_, fun past => ?_⟩
  · rw [pending]
    exact Nat.zero_le _
  · rw [pending] at past
    cases past

theorem later_ended {s : ProgressStep} (goesOn : s.status.isEnd = false) {status : StepStatus}
    (ends : status.isEnd = true) (now : Instant) : s.Later (s.ended status now) := by
  refine ⟨rfl, ?_, fun past => ?_⟩
  · have advances := s.status.canAdvanceTo_end ends
    rw [goesOn, StepStatus.canAdvanceTo, Bool.not_false, decide_eq_true_iff] at advances
    exact Nat.le_of_lt advances
  · rw [goesOn] at past
    cases past

/-- What a step says in each state.  A step that ended without having begun has no duration. -/
def Fits (s : ProgressStep) : Prop :=
  match s.status with
  | .pending => s.startedAt = none ∧ s.durationMillis = none
  | .running => s.startedAt.isSome = true ∧ s.durationMillis = none
  | _ => s.durationMillis.isSome = s.startedAt.isSome

theorem fits_planned (name : String) : (Progress.plannedStep name).Fits := ⟨rfl, rfl⟩

theorem fits_running (name : String) (now : Instant) : (Progress.runningStep name now).Fits :=
  ⟨rfl, rfl⟩

theorem Fits.begun {s : ProgressStep} (fits : s.Fits) (pending : s.status = .pending)
    (now : Instant) : (s.begun now).Fits := by
  simp only [Fits, pending] at fits
  exact ⟨rfl, fits.2⟩

theorem fits_ended (s : ProgressStep) {status : StepStatus} (ends : status.isEnd = true)
    (now : Instant) : (s.ended status now).Fits := by
  have measured : (s.startedAt.map (·.millisUntil now)).isSome = s.startedAt.isSome :=
    Option.isSome_map
  cases status with
  | pending => cases ends
  | running => cases ends
  | _ => exact measured

theorem Fits.started {s : ProgressStep} (fits : s.Fits) (running : s.status = .running) :
    s.startedAt.isSome = true := by
  simp only [Fits, running] at fits
  exact fits.1

theorem Fits.of_duration {s : ProgressStep} (fits : s.Fits)
    (measured : s.durationMillis.isSome = true) :
    s.status.isEnd = true ∧ s.startedAt.isSome = true := by
  cases status : s.status with
  | pending => simp [Fits, status, Option.isSome_iff_ne_none.mp measured] at fits
  | running => simp [Fits, status, Option.isSome_iff_ne_none.mp measured] at fits
  | _ =>
    simp only [Fits, status] at fits
    exact ⟨rfl, fits.symm.trans measured⟩

end ProgressStep

namespace Progress

theorem updateFirst_cases {α : Type} (p : α → Bool) (f : α → α) (l : List α) :
    (∃ before a after, l = before ++ a :: after ∧ p a = true ∧ (∀ b ∈ before, p b = false) ∧
      updateFirst p f l = before ++ f a :: after) ∨
    (∀ b ∈ l, p b = false) ∧ updateFirst p f l = l := by
  induction l with
  | nil => exact .inr ⟨by simp, rfl⟩
  | cons a rest ih =>
    cases passes : p a with
    | true => exact .inl ⟨[], a, rest, rfl, passes, by simp, by simp [updateFirst, passes]⟩
    | false =>
      rcases ih with ⟨before, b, after, split, here, others, updated⟩ | ⟨others, same⟩
      · refine .inl ⟨a :: before, b, after, by rw [split]; rfl, here, ?_, ?_⟩
        · exact List.forall_mem_cons.mpr ⟨passes, others⟩
        · simp [updateFirst, passes, updated]
      · refine .inr ⟨List.forall_mem_cons.mpr ⟨passes, others⟩, ?_⟩
        simp [updateFirst, passes, same]

variable {now : Instant} {name : String} {l l' : List ProgressStep} {s : ProgressStep}

theorem beginStep_cases (name : String) (now : Instant) (l : List ProgressStep) :
    (∃ before s after, l = before ++ s :: after ∧ s.name = name ∧ s.status = .pending ∧
      beginStep name now l = before ++ s.begun now :: after) ∨
    (∀ u ∈ l, u.name = name → u.status ≠ .pending) ∧
      beginStep name now l = l ++ [runningStep name now] := by
  induction l with
  | nil => exact .inr ⟨by simp, rfl⟩
  | cons a rest ih =>
    by_cases here : a.name = name ∧ a.status = .pending
    · exact .inl ⟨[], a, rest, rfl, here.1, here.2, if_pos here⟩
    · have later : beginStep name now (a :: rest) = a :: beginStep name now rest := if_neg here
      rcases ih with ⟨before, s, after, rfl, own, pending, begun⟩ | ⟨others, added⟩
      · exact .inl ⟨a :: before, s, after, rfl, own, pending, by rw [later, begun]; rfl⟩
      · refine .inr ⟨List.forall_mem_cons.mpr ⟨fun own pending => here ⟨own, pending⟩, others⟩, ?_⟩
        rw [later, added]
        rfl

theorem endStep_cases {status : StepStatus} (ends : status.isEnd = true) (name : String)
    (now : Instant) (l : List ProgressStep) :
    (∃ before s after, l = before ++ s :: after ∧ s.name = name ∧ s.status.isEnd = false ∧
      (∀ u ∈ after, u.name = name → u.status.isEnd = true) ∧
      endStep name status now l = before ++ s.ended status now :: after) ∨
    (∀ u ∈ l, u.name = name → u.status.isEnd = true) ∧ endStep name status now l = l := by
  let candidate (s : ProgressStep) : Bool := s.name = name && s.status.canAdvanceTo status
  have passes (s : ProgressStep) :
      candidate s = true ↔ s.name = name ∧ s.status.isEnd = false := by
    simp [candidate, s.status.canAdvanceTo_end ends]
  have fails {s : ProgressStep} (other : candidate s = false) (own : s.name = name) :
      s.status.isEnd = true := by
    rw [← Bool.not_eq_true, passes, not_and, Bool.not_eq_false] at other
    exact other own
  rcases updateFirst_cases candidate (·.ended status now) l.reverse with
    ⟨after, s, before, split, here, others, updated⟩ | ⟨others, same⟩
  · obtain ⟨own, goesOn⟩ := (passes s).mp here
    refine .inl ⟨before.reverse, s, after.reverse, ?_, own, goesOn, fun u there => ?_, ?_⟩
    · rw [← List.reverse_reverse l, split]
      simp
    · exact fails (others u (List.mem_reverse.mp there))
    · show (updateFirst candidate (·.ended status now) l.reverse).reverse = _
      rw [updated]
      simp
  · refine .inr ⟨fun u there => fails (others u (List.mem_reverse.mpr there)), ?_⟩
    show (updateFirst candidate (·.ended status now) l.reverse).reverse = l
    rw [same, List.reverse_reverse]

/-- What a report makes of the steps. -/
inductive Moves (now : Instant) (l : List ProgressStep) :
    ProgressReport → List ProgressStep → Prop
  | planned (names : List String) : Moves now l (.plan names) (l ++ names.map plannedStep)
  | begun (before after : List ProgressStep) (s : ProgressStep) (split : l = before ++ s :: after)
    (pending : s.status = .pending) : Moves now l (.begin s.name) (before ++ s.begun now :: after)
  | added (name : String) (unplanned : ∀ u ∈ l, u.name = name → u.status ≠ .pending) :
    Moves now l (.begin name) (l ++ [runningStep name now])
  | ended (r : ProgressReport) (status : StepStatus) (before after : List ProgressStep)
    (s : ProgressStep) (ends : r.ends? = some (s.name, status)) (split : l = before ++ s :: after)
    (goesOn : s.status.isEnd = false)
    (last : ∀ u ∈ after, u.name = s.name → u.status.isEnd = true) :
    Moves now l r (before ++ s.ended status now :: after)
  | allEnded (r : ProgressReport) (name : String) (status : StepStatus)
    (ends : r.ends? = some (name, status)) (all : ∀ u ∈ l, u.name = name → u.status.isEnd = true) :
    Moves now l r l
  | percent (value : Nat) : Moves now l (.percent value) l
  | message (text : String) : Moves now l (.message text) l

theorem steps_apply_of_ends {r : ProgressReport} {status : StepStatus}
    (ends : r.ends? = some (name, status)) (p : Progress) (now : Instant) :
    (p.apply now r).steps = endStep name status now p.steps := by
  cases r with
  | complete name => cases ends; rfl
  | fail name => cases ends; rfl
  | _ => cases ends

theorem moves_of_ends {r : ProgressReport} {status : StepStatus}
    (ends : r.ends? = some (name, status)) (p : Progress) (now : Instant) :
    Moves now p.steps r (p.apply now r).steps := by
  rw [steps_apply_of_ends ends]
  rcases endStep_cases (ProgressReport.isEnd_of_ends ends) name now p.steps with
    ⟨before, s, after, split, rfl, goesOn, last, done⟩ | ⟨all, done⟩
  · rw [done]
    exact .ended r status before after s ends split goesOn last
  · rw [done]
    exact .allEnded r name status ends all

theorem apply_moves (p : Progress) (now : Instant) (r : ProgressReport) :
    Moves now p.steps r (p.apply now r).steps := by
  cases r with
  | plan names => exact .planned names
  | begin name =>
    show Moves now p.steps (.begin name) (beginStep name now p.steps)
    rcases beginStep_cases name now p.steps with
      ⟨before, s, after, split, rfl, pending, done⟩ | ⟨unplanned, done⟩
    · rw [done]
      exact .begun before after s split pending
    · rw [done]
      exact .added name unplanned
  | complete name => exact moves_of_ends (by rfl) p now
  | fail name => exact moves_of_ends (by rfl) p now
  | percent value => exact .percent value
  | message text => exact .message text

/-- Each step is still at its place in the later snapshot, and new ones come after all of them. -/
def Extends (later earlier : Progress) : Prop :=
  ∀ (i : Nat) (s : ProgressStep), earlier.steps[i]? = some s →
    ∃ s', later.steps[i]? = some s' ∧ s.Later s'

variable {p q : Progress}

theorem Extends.refl (p : Progress) : p.Extends p := fun _ s there => ⟨s, there, .refl s⟩

theorem Extends.trans {first second third : Progress} (h : third.Extends second)
    (g : second.Extends first) : third.Extends first := by
  intro i s there
  obtain ⟨s', there', later⟩ := g i s there
  obtain ⟨s'', there'', later'⟩ := h i s' there'
  exact ⟨s'', there'', later.trans later'⟩

theorem extends_of_append {rest : List ProgressStep} (steps : q.steps = p.steps ++ rest) :
    q.Extends p := by
  intro i s there
  obtain ⟨within, -⟩ := List.getElem?_eq_some_iff.mp there
  refine ⟨s, ?_, .refl s⟩
  rw [steps, List.getElem?_append_left within, there]

theorem extends_of_replace {before after : List ProgressStep} {s' : ProgressStep}
    (split : p.steps = before ++ s :: after) (steps : q.steps = before ++ s' :: after)
    (later : s.Later s') : q.Extends p := by
  intro i u there
  rw [split, getElem?_replace before after s' s] at there
  rw [steps]
  split at there
  · rename_i here
    cases there
    rw [here]
    exact ⟨s', by simp, later⟩
  · exact ⟨u, there, .refl u⟩

theorem extends_apply (p : Progress) (now : Instant) (r : ProgressReport) :
    (p.apply now r).Extends p := by
  have moves := p.apply_moves now r
  generalize steps : (p.apply now r).steps = l' at moves
  cases moves with
  | planned names => exact extends_of_append steps
  | begun before after s split pending =>
    exact extends_of_replace split steps (ProgressStep.later_begun pending now)
  | added name unplanned => exact extends_of_append steps
  | ended r status before after s ends split goesOn last =>
    have isEnd := ProgressReport.isEnd_of_ends ends
    exact extends_of_replace split steps (ProgressStep.later_ended goesOn isEnd now)
  | _ => exact extends_of_append (steps.trans (List.append_nil _).symm)

/-- A percentage, steps that fit their states, and a current step that is running. -/
structure Fits (p : Progress) : Prop where
  percent : p.percent ≤ 100
  steps : ∀ s ∈ p.steps, s.Fits
  current : ∀ name, p.currentStep = some name → ∃ s ∈ p.steps, s.name = name ∧ s.status = .running

theorem fits_default : Fits {} := ⟨Nat.zero_le _, by simp, by simp⟩

theorem percent_apply (bounded : p.percent ≤ 100) (now : Instant) (r : ProgressReport) :
    (p.apply now r).percent ≤ 100 := by
  cases r with
  | percent value => exact Nat.min_le_right _ _
  | _ => exact bounded

theorem Moves.fits {r : ProgressReport} (moves : Moves now l r l') (fits : ∀ s ∈ l, s.Fits) :
    ∀ s ∈ l', s.Fits := by
  have replaced {before after : List ProgressStep} {s s' : ProgressStep}
      (split : l = before ++ s :: after) (changed : s.Fits → s'.Fits) :
      ∀ u ∈ before ++ s' :: after, u.Fits := by
    rw [split, List.forall_mem_append, List.forall_mem_cons] at fits
    rw [List.forall_mem_append, List.forall_mem_cons]
    exact ⟨fits.1, changed fits.2.1, fits.2.2⟩
  cases moves with
  | planned names =>
    refine List.forall_mem_append.mpr ⟨fits, fun s there => ?_⟩
    obtain ⟨name, -, rfl⟩ := List.mem_map.mp there
    exact ProgressStep.fits_planned name
  | begun before after s split pending => exact replaced split fun fits => fits.begun pending now
  | added name unplanned =>
    refine List.forall_mem_append.mpr ⟨fits, fun s there => ?_⟩
    rw [List.mem_singleton.mp there]
    exact ProgressStep.fits_running name now
  | ended r status before after s ends split goesOn last =>
    exact replaced split fun _ => s.fits_ended (ProgressReport.isEnd_of_ends ends) now
  | _ => exact fits

theorem Moves.running {r : ProgressReport} (moves : Moves now l r l')
    (others : ∀ status, r.ends? ≠ some (name, status))
    (running : ∃ s ∈ l, s.name = name ∧ s.status = .running) :
    ∃ s ∈ l', s.name = name ∧ s.status = .running := by
  obtain ⟨u, there, own, status⟩ := running
  have replaced {before after : List ProgressStep} {s s' : ProgressStep}
      (split : l = before ++ s :: after) (other : u ≠ s) : u ∈ before ++ s' :: after := by
    rw [split, List.mem_append, List.mem_cons] at there
    rw [List.mem_append, List.mem_cons]
    exact there.imp_right fun h => .inr (h.resolve_left other)
  cases moves with
  | planned names => exact ⟨u, List.mem_append_left _ there, own, status⟩
  | begun before after s split pending =>
    refine ⟨u, replaced split ?_, own, status⟩
    rintro rfl
    rw [pending] at status
    cases status
  | added name' unplanned => exact ⟨u, List.mem_append_left _ there, own, status⟩
  | ended r status' before after s ends split goesOn last =>
    refine ⟨u, replaced split ?_, own, status⟩
    rintro rfl
    exact others status' (own ▸ ends)
  | _ => exact ⟨u, there, own, status⟩

theorem Moves.running_of_begin (moves : Moves now l (.begin name) l') :
    ∃ s ∈ l', s.name = name ∧ s.status = .running := by
  cases moves with
  | begun before after s split pending => exact ⟨s.begun now, by simp, rfl, rfl⟩
  | added name unplanned => exact ⟨runningStep name now, by simp, rfl, rfl⟩
  | ended r status before after s ends => cases ends
  | allEnded r name status ends => cases ends

theorem Fits.apply (h : p.Fits) (now : Instant) (r : ProgressReport) : (p.apply now r).Fits := by
  have moves := p.apply_moves now r
  refine ⟨percent_apply h.percent now r, moves.fits h.steps, fun name current => ?_⟩
  have ended (other : String) (left : (if p.currentStep = some other then none
      else p.currentStep) = some name) : other ≠ name ∧ p.currentStep = some name := by
    split at left
    · cases left
    · rename_i differ
      exact ⟨fun same => differ (same ▸ left), left⟩
  cases r with
  | begin other =>
    cases current
    exact moves.running_of_begin
  | complete other =>
    obtain ⟨differ, before⟩ := ended other current
    refine moves.running (fun status ends => ?_) (h.current name before)
    cases ends
    exact differ rfl
  | fail other =>
    obtain ⟨differ, before⟩ := ended other current
    refine moves.running (fun status ends => ?_) (h.current name before)
    cases ends
    exact differ rfl
  | _ => exact moves.running (fun status ends => by cases ends) (h.current name current)

end Progress

end DeviceWatch
