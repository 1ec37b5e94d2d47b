import DeviceWatch.RateLimit

/-!
# The rate limit is exact

The limiter forgets tokens that have come back, and what it still holds is exactly what was granted
within the last second.  From that follow the bound on every window of one second, when an attempt
is granted, how long it has to wait otherwise, and how many tokens are free.

Times are those of a clock that never goes back, in nanoseconds.
-/

namespace DeviceWatch

theorem Instant.nanos_ofNanos (n : Int) : (ofNanos n).nanos = n := by
  simp only [nanos, unixSecs, part, ofNanos, ofParts, ticksPerSec, nanosPerSec]
  omega

theorem Instant.nanos_add (t : Instant) (d : Span) : (t.add d).nanos = t.nanos + d.nanos :=
  nanos_ofNanos _

namespace RateLimiter

/-- Somebody asks for a token, for the first time or again, or asks how many are free. -/
inductive Call where
  | attempt (now : Instant)
  | available (now : Instant)

def Call.at' : Call → Instant
  | attempt now => now
  | available now => now

def step (l : RateLimiter) : Call → RateLimiter
  | .attempt now => (l.attempt now).2
  | .available now => l.refill now

def run (l : RateLimiter) (calls : List Call) : RateLimiter := calls.foldl step l

def granted? (l : RateLimiter) : Call → Option Instant
  | .attempt now =>
    match (l.attempt now).1 with
    | .granted => some now
    | .wait _ => none
  | .available _ => none

/-- When the tokens of a run were granted. -/
def grants (l : RateLimiter) : List Call → List Instant
  | [] => []
  | call :: rest => (l.granted? call).toList ++ grants (l.step call) rest

/-- No call comes before the one it follows. -/
def InOrder (calls : List Call) : Prop := calls.Pairwise fun c d => c.at'.nanos ≤ d.at'.nanos

instance (calls : List Call) : Decidable (InOrder calls) :=
  inferInstanceAs (Decidable (calls.Pairwise _))

/-- The number of grants in the second up to `now`, with `now` and without the other end. -/
def recent (granted : List Instant) (now : Instant) : Nat :=
  granted.countP fun g => now.nanos - window < g.nanos && g.nanos ≤ now.nanos

/-- The number of grants in the second from `start`, with `start` and without the other end. -/
def inWindow (granted : List Instant) (start : Int) : Nat :=
  granted.countP fun g => start ≤ g.nanos && g.nanos < start + window

theorem recent_eq_inWindow (granted : List Instant) (now : Instant) :
    recent granted now = inWindow granted (now.nanos - window + 1) := by
  refine List.countP_congr fun g _ => ?_
  simp only [Bool.and_eq_true, decide_eq_true_eq]
  omega

variable {l : RateLimiter} {granted : List Instant} {clock : Int} {now : Instant}

/-- Taking back stops at the first token that is not due, and those behind it are younger. -/
theorem exists_refill_split (l : RateLimiter)
    (sorted : l.spent.Pairwise fun g h => g.nanos ≤ h.nanos) (now : Instant) :
    ∃ due, l.spent = due ++ (l.refill now).spent ∧ (∀ g ∈ due, g.nanos ≤ now.nanos - window) ∧
      ∀ g ∈ (l.refill now).spent, now.nanos - window < g.nanos := by
  obtain ⟨perSecond, spent⟩ := l
  simp only [refill] at sorted ⊢
  induction spent with
  | nil => exact ⟨[], by simp⟩
  | cons oldest rest ih =>
    obtain ⟨above, younger⟩ := List.pairwise_cons.mp sorted
    by_cases due : window ≤ now.nanos - oldest.nanos
    · obtain ⟨taken, split, past, fresh⟩ := ih younger
      rw [List.dropWhile_cons_of_pos (by simpa using due)]
      refine ⟨oldest :: taken, by rw [List.cons_append, ← split], fun g there => ?_, fresh⟩
      rcases List.mem_cons.mp there with rfl | later
      · omega
      · exact past g later
    · rw [List.dropWhile_cons_of_neg (by simpa using due)]
      refine ⟨[], rfl, by simp, fun g there => ?_⟩
      rcases List.mem_cons.mp there with rfl | later
      · omega
      · have := above g later
        omega

theorem attempt_cases (limited : 0 < l.perSecond) (now : Instant) :
    (l.refill now).spent.length < l.perSecond ∧
        l.attempt now = (.granted, { l.refill now with spent := (l.refill now).spent ++ [now] }) ∨
      ∃ oldest rest, (l.refill now).spent = oldest :: rest ∧ l.perSecond ≤ rest.length + 1 ∧
        l.attempt now =
          (.wait ⟨(oldest.nanos + window - now.nanos).toNat⟩, l.refill now) := by
  have limit : (l.refill now).perSecond = l.perSecond := rfl
  unfold attempt
  rw [if_neg (by omega)]
  cases held : (l.refill now).spent with
  | nil => exact .inl ⟨limited, by simp [held]⟩
  | cons oldest rest =>
    by_cases full : l.perSecond ≤ rest.length + 1
    · refine .inr ⟨oldest, rest, rfl, full, ?_⟩
      have remaining : window - (now.nanos - oldest.nanos) = oldest.nanos + window - now.nanos := by
        omega
      simp [held, limit, full, remaining]
    · exact .inl ⟨by simpa using full, by simp [held, limit, full]⟩

/-- The limiter has not forgotten a grant that still counts at `clock`, no grant lies after `clock`,
and no window holds too many grants. -/
structure Accounts (l : RateLimiter) (granted : List Instant) (clock : Int) : Prop where
  limited : 0 < l.perSecond
  sorted : granted.Pairwise fun g h => g.nanos ≤ h.nanos
  past : ∀ g ∈ granted, g.nanos ≤ clock
  kept : ∃ returned, granted = returned ++ l.spent ∧ ∀ g ∈ returned, g.nanos ≤ clock - window
  sparse : ∀ start, inWindow granted start ≤ l.perSecond

theorem accounts_new {perSecond : Nat} (limited : 0 < perSecond) (clock : Int) :
    (new perSecond).Accounts [] clock where
  limited := limited
  sorted := .nil
  past := by simp
  kept := ⟨[], by simp [new]⟩
  sparse := by simp [inWindow]

/-- After taking back the limiter holds the grants of the last second and no other. -/
theorem Accounts.exists_split (h : l.Accounts granted clock) (later : clock ≤ now.nanos) :
    ∃ returned, granted = returned ++ (l.refill now).spent ∧
      (∀ g ∈ returned, g.nanos ≤ now.nanos - window) ∧
      ∀ g ∈ (l.refill now).spent, now.nanos - window < g.nanos := by
  obtain ⟨returned, split, past⟩ := h.kept
  have sorted : l.spent.Pairwise fun g h => g.nanos ≤ h.nanos :=
    (List.pairwise_append.mp (split ▸ h.sorted)).2.1
  obtain ⟨due, held, passed, fresh⟩ := l.exists_refill_split sorted now
  refine ⟨returned ++ due, by rw [List.append_assoc, ← held, split], fun g there => ?_, fresh⟩
  rcases List.mem_append.mp there with before | taken
  · have := past g before
    omega
  · exact passed g taken

theorem Accounts.refill (h : l.Accounts granted clock) (later : clock ≤ now.nanos) :
    (l.refill now).Accounts granted now.nanos := by
  obtain ⟨returned, split, passed, -⟩ := h.exists_split later
  exact ⟨h.limited, h.sorted, fun g there => Int.le_trans (h.past g there) later,
    ⟨returned, split, passed⟩, h.sparse⟩

theorem recent_append (first second : List Instant) (now : Instant) :
    recent (first ++ second) now = recent first now + recent second now := List.countP_append

theorem recent_eq_zero (passed : ∀ g ∈ granted, g.nanos ≤ now.nanos - window) :
    recent granted now = 0 := by
  refine List.countP_eq_zero.mpr fun g there => ?_
  have := passed g there
  simp only [Bool.and_eq_true, decide_eq_true_eq]
  omega

theorem Accounts.length_refill (h : l.Accounts granted clock) (later : clock ≤ now.nanos) :
    (l.refill now).spent.length = recent granted now := by
  obtain ⟨returned, split, passed, fresh⟩ := h.exists_split later
  have allKept : recent (l.refill now).spent now = (l.refill now).spent.length := by
    refine List.countP_eq_length.mpr fun g there => ?_
    have past : g.nanos ≤ now.nanos :=
      (h.refill later).past g (split ▸ List.mem_append_right returned there)
    simp [fresh g there, past]
  have whole : recent granted now = recent returned now + recent (l.refill now).spent now := by
    rw [← recent_append, ← split]
  rw [whole, recent_eq_zero passed, allKept, Nat.zero_add]

theorem Accounts.recent_le (h : l.Accounts granted clock) (now : Instant) :
    recent granted now ≤ l.perSecond := by
  rw [recent_eq_inWindow]
  exact h.sparse _

theorem Accounts.granted_iff (h : l.Accounts granted clock) (later : clock ≤ now.nanos) :
    (l.attempt now).1 = .granted ↔ recent granted now < l.perSecond := by
  rw [← h.length_refill later]
  rcases attempt_cases h.limited now with ⟨free, attempted⟩ | ⟨oldest, rest, held, full, attempted⟩
  · simp [attempted, free]
  · simp [attempted, held]
    omega

/-- A grant is not beside too many others: whatever shares a window with it is recent. -/
theorem Accounts.grant (h : l.Accounts granted clock) (later : clock ≤ now.nanos)
    (free : recent granted now < l.perSecond) :
    ({ l.refill now with spent := (l.refill now).spent ++ [now] } : RateLimiter).Accounts
      (granted ++ [now]) now.nanos := by
  obtain ⟨returned, split, due⟩ := (h.refill later).kept
  have before : ∀ g ∈ granted, g.nanos ≤ now.nanos := (h.refill later).past
  refine ⟨h.limited, ?_, ?_, ⟨returned, ?_, due⟩, fun start => ?_⟩
  · refine List.pairwise_append.mpr
      ⟨h.sorted, List.pairwise_singleton _ _, fun g there t last => ?_⟩
    rw [List.mem_singleton.mp last]
    exact before g there
  · intro g there
    rcases List.mem_append.mp there with old | last
    · exact before g old
    · obtain rfl := List.mem_singleton.mp last
      exact Int.le_refl _
  · rw [← List.append_assoc, ← split]
  · show inWindow (granted ++ [now]) start ≤ l.perSecond
    unfold inWindow
    rw [List.countP_append, List.countP_singleton]
    split
    · rename_i within
      simp only [Bool.and_eq_true, decide_eq_true_eq] at within
      have shared : inWindow granted start ≤ recent granted now := by
        refine List.countP_mono_left fun g there counted => ?_
        have := before g there
        simp only [Bool.and_eq_true, decide_eq_true_eq] at counted ⊢
        omega
      unfold inWindow at shared
      omega
    · exact h.sparse start

theorem Accounts.step (h : l.Accounts granted clock) (call : Call)
    (later : clock ≤ call.at'.nanos) :
    (l.step call).Accounts (granted ++ (l.granted? call).toList) call.at'.nanos := by
  cases call with
  | available now =>
    rw [show (l.granted? (.available now)).toList = [] from rfl, List.append_nil]
    exact h.refill later
  | attempt now =>
    have free := h.length_refill later
    rcases attempt_cases h.limited now with ⟨some', attempted⟩ | ⟨oldest, rest, -, -, attempted⟩
    · have granted := h.grant later (free ▸ some')
      simpa [RateLimiter.step, granted?, attempted, Call.at'] using granted
    · have refilled := h.refill later
      simpa [RateLimiter.step, granted?, attempted, Call.at'] using refilled

theorem Accounts.later (h : l.Accounts granted clock) {clock' : Int} (later : clock ≤ clock') :
    l.Accounts granted clock' := by
  obtain ⟨returned, split, due⟩ := h.kept
  refine ⟨h.limited, h.sorted, fun g there => Int.le_trans (h.past g there) later, ?_, h.sparse⟩
  refine ⟨returned, split, fun g there => ?_⟩
  have := due g there
  omega

theorem Accounts.run {calls : List Call} (h : l.Accounts granted clock) (ordered : InOrder calls)
    (after : ∀ c ∈ calls, clock ≤ c.at'.nanos) {clock' : Int} (later : clock ≤ clock')
    (before : ∀ c ∈ calls, c.at'.nanos ≤ clock') :
    (l.run calls).Accounts (granted ++ l.grants calls) clock' := by
  induction calls generalizing l granted clock with
  | nil => simpa [RateLimiter.run, grants] using h.later later
  | cons call rest ih =>
    obtain ⟨first, ordered⟩ := List.pairwise_cons.mp ordered
    have stepped := h.step call (after call List.mem_cons_self)
    have whole := ih stepped ordered first (before call List.mem_cons_self)
      fun c there => before c (List.mem_cons_of_mem _ there)
    rw [List.append_assoc] at whole
    exact whole

theorem perSecond_refill (l : RateLimiter) (now : Instant) :
    (l.refill now).perSecond = l.perSecond := rfl

theorem perSecond_step (l : RateLimiter) (call : Call) : (l.step call).perSecond = l.perSecond := by
  cases call with
  | available now => rfl
  | attempt now =>
    by_cases unlimited : l.perSecond = 0
    · simp [step, attempt, unlimited]
    · rcases attempt_cases (Nat.pos_of_ne_zero unlimited) now with
        ⟨-, attempted⟩ | ⟨oldest, rest, -, -, attempted⟩
      · simp [step, attempted, perSecond_refill]
      · simp [step, attempted, perSecond_refill]

theorem perSecond_run (l : RateLimiter) (calls : List Call) :
    (l.run calls).perSecond = l.perSecond := by
  induction calls generalizing l with
  | nil => rfl
  | cons call rest ih => exact (ih (l.step call)).trans (perSecond_step l call)

/-- Whoever has to wait waits for the oldest of the recent grants to come back. -/
theorem Accounts.wait (h : l.Accounts granted clock) (later : clock ≤ now.nanos) {time : Span}
    (waits : (l.attempt now).1 = .wait time) :
    0 < time.nanos ∧ time.nanos ≤ window ∧ recent granted (now.add time) < l.perSecond := by
  rcases attempt_cases h.limited now with ⟨-, attempted⟩ | ⟨oldest, rest, held, full, attempted⟩
  · rw [attempted] at waits
    cases waits
  · rw [attempted] at waits
    injection waits with waits
    obtain ⟨returned, split, passed, fresh⟩ := h.exists_split later
    rw [held] at split fresh
    have past := (h.refill later).past oldest (by simp [split])
    have young := fresh oldest List.mem_cons_self
    have nanos : (time.nanos : Int) = oldest.nanos + window - now.nanos := by
      rw [← waits]
      exact Int.toNat_of_nonneg (by omega)
    have retry : (now.add time).nanos - window = oldest.nanos := by
      rw [Instant.nanos_add]
      omega
    refine ⟨by omega, by omega, ?_⟩
    -- At the retry the oldest of the recent grants does not count any more.
    have returnedBack : recent (returned ++ [oldest]) (now.add time) = 0 := by
      refine recent_eq_zero fun g there => ?_
      rcases List.mem_append.mp there with before | last
      · have := passed g before
        omega
      · obtain rfl := List.mem_singleton.mp last
        exact Int.le_of_eq retry.symm
    have others : recent rest (now.add time) ≤ rest.length := List.countP_le_length
    have atMostRate := h.recent_le now
    rw [← h.length_refill later, held, List.length_cons] at atMostRate
    have whole : recent granted (now.add time) =
        recent (returned ++ [oldest]) (now.add time) + recent rest (now.add time) := by
      rw [← recent_append, List.append_assoc, List.singleton_append, ← split]
    omega

/-- A retry after the wait succeeds, whatever others have asked for in vain in the meantime. -/
theorem Accounts.retry (h : l.Accounts granted clock) (later : clock ≤ now.nanos) {time : Span}
    (waits : (l.attempt now).1 = .wait time) (others : List Call) (ordered : InOrder others)
    (after : ∀ c ∈ others, now.nanos ≤ c.at'.nanos)
    (before : ∀ c ∈ others, c.at'.nanos ≤ (now.add time).nanos)
    (inVain : (l.attempt now).2.grants others = []) :
    (((l.attempt now).2.run others).attempt (now.add time)).1 = .granted := by
  obtain ⟨-, -, free⟩ := h.wait later waits
  have stepped : (l.attempt now).2.Accounts granted now.nanos := by
    have stepped := h.step (.attempt now) later
    rw [granted?, waits, Option.toList_none, List.append_nil] at stepped
    exact stepped
  have meantime : now.nanos ≤ (now.add time).nanos := by
    rw [Instant.nanos_add]
    omega
  have passed := stepped.run ordered after meantime before
  rw [inVain, List.append_nil] at passed
  rw [passed.granted_iff (Int.le_refl _), perSecond_run]
  exact (perSecond_step l (.attempt now)).symm ▸ free

theorem Accounts.available (h : l.Accounts granted clock) (later : clock ≤ now.nanos) :
    ∃ free, l.available now = some free ∧ free + recent granted now = l.perSecond := by
  have limited := h.limited
  have atMostRate := h.recent_le now
  refine ⟨l.perSecond - recent granted now, ?_, by omega⟩
  rw [RateLimiter.available, if_neg (by omega), h.length_refill later]

theorem Accounts.acquire (h : l.Accounts granted clock) (later : clock ≤ now.nanos) :
    (l.acquire now).2.Accounts (granted ++ [(l.acquire now).1]) (l.acquire now).1.nanos := by
  have stepped := h.step (.attempt now) later
  unfold RateLimiter.acquire
  rcases attempted : l.attempt now with ⟨_ | time, l'⟩
  · simpa [granted?, RateLimiter.step, attempted, Call.at'] using stepped
  · have waits : (l.attempt now).1 = .wait time := by rw [attempted]
    have retried : (l'.attempt (now.add time)).1 = .granted := by
      have retried := h.retry later waits [] .nil (by simp) (by simp) rfl
      rwa [attempted] at retried
    have meantime : now.nanos ≤ (now.add time).nanos := by
      rw [Instant.nanos_add]
      omega
    have waiting : l'.Accounts granted now.nanos := by
      simpa [granted?, RateLimiter.step, attempted, Call.at'] using stepped
    have again := waiting.step (.attempt (now.add time)) meantime
    simpa [granted?, RateLimiter.step, retried, Call.at'] using again

theorem accounts_run {perSecond : Nat} (limited : 0 < perSecond) {calls : List Call}
    (ordered : InOrder calls) {last : Int} (before : ∀ c ∈ calls, c.at'.nanos ≤ last) :
    ((new perSecond).run calls).Accounts ((new perSecond).grants calls) last := by
  cases calls with
  | nil => exact accounts_new limited last
  | cons call rest =>
    -- Nothing was granted before the first call.
    have start := accounts_new limited call.at'.nanos
    refine start.run ordered (fun c there => ?_) (before call List.mem_cons_self) before
    rcases List.mem_cons.mp there with rfl | later
    · exact Int.le_refl _
    · exact (List.pairwise_cons.mp ordered).1 c later

theorem exists_last (calls : List Call) : ∃ last : Int, ∀ c ∈ calls, c.at'.nanos ≤ last := by
  induction calls with
  | nil => exact ⟨0, by simp⟩
  | cons call rest ih =>
    obtain ⟨last, before⟩ := ih
    refine ⟨max call.at'.nanos last, fun c there => ?_⟩
    rcases List.mem_cons.mp there with rfl | later
    · exact Int.le_max_left _ _
    · exact Int.le_trans (before c later) (Int.le_max_right _ _)

theorem attempt_unlimited (l : RateLimiter) (unlimited : l.perSecond = 0) (now : Instant) :
    (l.attempt now).1 = .granted := by
  simp [attempt, unlimited]

/-- After any calls, in the order of their times: no window of one second holds more grants than the
rate; an attempt is granted just when fewer than the rate were granted in the second that ends with
it; otherwise the wait is positive, at most one second, and long enough; and what is free is the
rate less the grants of that second.  Without a limit every attempt is granted. -/
theorem grants_exact (perSecond : Nat) (calls : List Call) (ordered : InOrder calls) :
    let l := (new perSecond).run calls
    let granted := (new perSecond).grants calls
    (perSecond = 0 → ∀ now, (l.attempt now).1 = .granted) ∧
      (0 < perSecond →
        (∀ start, inWindow granted start ≤ perSecond) ∧
        ∀ now, (∀ c ∈ calls, c.at'.nanos ≤ now.nanos) →
          ((l.attempt now).1 = .granted ↔ recent granted now < perSecond) ∧
          (∃ free, l.available now = some free ∧ free + recent granted now = perSecond) ∧
          ∀ time, (l.attempt now).1 = .wait time →
            0 < time.nanos ∧ time.nanos ≤ window ∧
            ∀ others, InOrder others → (∀ c ∈ others, now.nanos ≤ c.at'.nanos) →
              (∀ c ∈ others, c.at'.nanos ≤ (now.add time).nanos) →
              (l.attempt now).2.grants others = [] →
              (((l.attempt now).2.run others).attempt (now.add time)).1 = .granted) := by
  intro l granted
  have rate : l.perSecond = perSecond := perSecond_run (new perSecond) calls
  refine ⟨fun unlimited => attempt_unlimited l (rate.trans unlimited), fun limited => ?_⟩
  refine ⟨fun start => ?_, fun now before => ?_⟩
  · obtain ⟨last, before⟩ := exists_last calls
    exact rate ▸ (accounts_run limited ordered before).sparse start
  · have accounts : l.Accounts granted now.nanos := accounts_run limited ordered before
    have present := Int.le_refl now.nanos
    rw [← rate]
    refine ⟨accounts.granted_iff present, accounts.available present, fun time waits => ?_⟩
    obtain ⟨positive, atMostWindow, -⟩ := accounts.wait present waits
    refine ⟨positive, atMostWindow, fun others ordered after before inVain => ?_⟩
    exact accounts.retry present waits others ordered after before inVain

/-- Two tokens a second, of which the third caller finds none. -/
def rush : List Call :=
  [.attempt (.ofNanos 0), .attempt (.ofNanos 400000000), .attempt (.ofNanos 700000000)]

theorem grants_exact_rush :
    let l := (new 2).run rush
    InOrder rush ∧ (new 2).grants rush = [.ofNanos 0, .ofNanos 400000000] ∧
      (l.attempt (.ofNanos 700000000)).1 = .wait ⟨300000000⟩ ∧
      (∀ start, inWindow ((new 2).grants rush) start ≤ 2) ∧
      (l.attempt ((Instant.ofNanos 700000000).add ⟨300000000⟩)).1 = .granted := by
  have ordered : InOrder rush := by decide +kernel
  have waits : (((new 2).run rush).attempt (.ofNanos 700000000)).1 = .wait ⟨300000000⟩ := by
    decide +kernel
  obtain ⟨-, limited⟩ := grants_exact 2 rush ordered
  obtain ⟨windows, atTime⟩ := limited (by decide)
  obtain ⟨-, -, waiting⟩ := atTime (.ofNanos 700000000) (by decide +kernel)
  obtain ⟨-, -, retry⟩ := waiting _ waits
  have granted := retry [] .nil (by simp) (by simp) rfl
  refine ⟨ordered, by decide +kernel, waits, windows, ?_⟩
  exact granted

end RateLimiter

end DeviceWatch
