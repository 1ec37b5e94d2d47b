import DeviceWatch.Connector.Basic
import Mathlib.Data.Finset.Card

/-!
# The time between two polls

A difference of instants takes no notice of the leap seconds that lie between them, and at most of
the one that the earlier instant lies in.  So it is never more than the time that has passed, and a
connector that is due has let its interval pass.
-/

namespace DeviceWatch

namespace Instant

/-- Nanoseconds that pass from `t` to `u`, where each of the seconds in `leaps` is followed by a
leap second. -/
def elapsed (leaps : Finset Int) (t u : Instant) : Int :=
  u.nanos - t.nanos + nanosPerSec * (leaps.filter fun n => t.unixSecs ≤ n ∧ n < u.unixSecs).card

variable {leaps : Finset Int} {t u v : Instant}

theorem unixSecs_mono (order : t ≤ u) : t.unixSecs ≤ u.unixSecs :=
  Int.ediv_le_ediv (by decide) order

theorem ticks_eq (t : Instant) : t.ticks = t.unixSecs * ticksPerSec + t.part :=
  (Int.ediv_mul_add_emod t.ticks ticksPerSec).symm

theorem part_nonneg (t : Instant) : 0 ≤ t.part := Int.emod_nonneg _ (by decide)

theorem part_lt (t : Instant) : t.part < ticksPerSec := Int.emod_lt_of_pos _ (by decide)

theorem isLeap_iff : t.isLeap = true ↔ nanosPerSec ≤ t.part := decide_eq_true_iff

theorem part_le (order : t ≤ u) (same : t.unixSecs = u.unixSecs) : t.part ≤ u.part := by
  have ticks : t.ticks ≤ u.ticks := order
  rw [ticks_eq t, ticks_eq u, same] at ticks
  omega

/-- A leap second that begins before `u` is counted if `t` is not after it. -/
theorem card_pos (known : t.isLeap = true → t.unixSecs ∈ leaps) (leap : t.isLeap = true)
    (before : t.unixSecs < u.unixSecs) :
    1 ≤ (leaps.filter fun n => t.unixSecs ≤ n ∧ n < u.unixSecs).card :=
  Finset.card_pos.mpr ⟨t.unixSecs, Finset.mem_filter.mpr ⟨known leap, Int.le_refl _, before⟩⟩

theorem elapsed_add (leaps : Finset Int) (first : t ≤ u) (second : u ≤ v) :
    elapsed leaps t u + elapsed leaps u v = elapsed leaps t v := by
  have order := unixSecs_mono first
  have order' := unixSecs_mono second
  have counts : (leaps.filter fun n => t.unixSecs ≤ n ∧ n < v.unixSecs).card =
      (leaps.filter fun n => t.unixSecs ≤ n ∧ n < u.unixSecs).card +
        (leaps.filter fun n => u.unixSecs ≤ n ∧ n < v.unixSecs).card := by
    rw [← Finset.card_filter_add_card_filter_not (fun n => n < u.unixSecs), Finset.filter_filter,
      Finset.filter_filter]
    congr 2 <;> refine Finset.filter_congr fun n _ => ?_ <;> omega
  unfold elapsed
  rw [counts, Int.natCast_add, Int.mul_add]
  omega

theorem elapsed_nonneg (order : t ≤ u) (known : t.isLeap = true → t.unixSecs ∈ leaps) :
    0 ≤ elapsed leaps t u := by
  have short := t.part_lt
  have start := u.part_nonneg
  unfold elapsed nanos
  rcases Int.lt_or_eq_of_le (unixSecs_mono order) with before | same
  · by_cases leap : t.isLeap = true
    · have counted := card_pos known leap before
      unfold nanosPerSec
      unfold ticksPerSec at short
      omega
    · have regular := mt isLeap_iff.mpr leap
      unfold nanosPerSec at regular ⊢
      omega
  · have parts := part_le order same
    unfold nanosPerSec
    omega

theorem nanosUntil_le_elapsed (order : t ≤ u) (known : t.isLeap = true → t.unixSecs ∈ leaps) :
    t.nanosUntil u ≤ elapsed leaps t u := by
  have secs := unixSecs_mono order
  simp only [nanosUntil, elapsed, nanos, nanosPerSec]
  split
  · rename_i passed
    have differ : t.unixSecs ≠ u.unixSecs := by
      intro same
      have sameTime : t.timeOfDay = u.timeOfDay := congrArg (· % secsPerDay) same
      omega
    have counted := card_pos known passed.2 (Int.lt_iff_le_and_ne.mpr ⟨secs, differ⟩)
    omega
  · split <;> omega

/-- A difference of whole seconds is reached when that many nanoseconds are. -/
theorem le_secsUntil_iff {n : Int} (positive : 0 < n) :
    n ≤ t.secsUntil u ↔ n * nanosPerSec ≤ t.nanosUntil u := by
  unfold secsUntil
  rcases Int.lt_or_le (t.nanosUntil u) 0 with negative | forward
  · have rounded : 0 ≤ (-t.nanosUntil u).tdiv nanosPerSec := Int.tdiv_nonneg (by omega) (by decide)
    rw [Int.neg_tdiv] at rounded
    unfold nanosPerSec at *
    omega
  · rw [Int.tdiv_eq_ediv_of_nonneg forward]
    exact Int.le_ediv_iff_mul_le (by decide)

theorem secsUntil_nonpos (order : u < t) : t.secsUntil u ≤ 0 := by
  have ticks : u.ticks < t.ticks := order
  have secs := unixSecs_mono (Std.le_of_lt order)
  have short := u.part_lt
  have start := t.part_nonneg
  have below : t.nanosUntil u < nanosPerSec := by
    simp only [nanosUntil, nanosPerSec]
    unfold ticksPerSec at short
    split
    · rename_i passed
      have leap := isLeap_iff.mp passed.2
      have differ : t.unixSecs ≠ u.unixSecs := by
        intro same
        have sameTime : t.timeOfDay = u.timeOfDay := congrArg (· % secsPerDay) same
        omega
      unfold nanosPerSec at leap
      omega
    · rcases Int.lt_or_eq_of_le secs with before | same
      · split <;> omega
      · have parts := part_le (Std.le_of_lt order) same
        split <;> omega
  have second := (le_secsUntil_iff (t := t) (u := u) Int.zero_lt_one).mp
  omega

theorem nanosUntil_of_regular (before : t.isLeap = false) (after : u.isLeap = false) :
    t.nanosUntil u = elapsed ∅ t u := by
  simp only [nanosUntil, elapsed, nanos, before, after, Bool.false_eq_true, and_false, if_false,
    Finset.filter_empty, Finset.card_empty]
  unfold nanosPerSec
  omega

/-- Outside leap seconds that is the difference of the instants. -/
theorem le_secsUntil_of_elapsed {n : Nat} (before : t.isLeap = false)
    (after : u.isLeap = false) (passed : n * nanosPerSec ≤ elapsed ∅ t u) : n ≤ t.secsUntil u := by
  rw [← nanosUntil_of_regular before after] at passed
  by_cases none' : n = 0
  · rw [none', Int.natCast_zero, Int.zero_mul] at passed
    rw [none']
    exact Int.tdiv_nonneg passed (by decide)
  · exact (le_secsUntil_iff (by omega)).mpr passed

end Instant

namespace Connector

variable {c : Connector} {leaps : Finset Int} {t p u : Instant}

/-- A connector that is due has let its interval pass since its last poll, and so since any instant
before that. -/
theorem interval_le_elapsed (due : c.isDue u = true) (polled : c.lastPollAt = some p)
    (bounded : c.pollIntervalSecs ≤ Json.signed64Max) (early : t ≤ p) (order : t ≤ u)
    (knownStart : t.isLeap = true → t.unixSecs ∈ leaps)
    (known : p.isLeap = true → p.unixSecs ∈ leaps) :
    c.pollIntervalSecs * Instant.nanosPerSec ≤ Instant.elapsed leaps t u := by
  have waited : (c.pollIntervalSecs : Int) ≤ p.secsUntil u := by
    simp only [isDue, polled, Bool.and_eq_true, decide_eq_true_iff, Nat.min_eq_left bounded] at due
    exact due.2
  by_cases none' : c.pollIntervalSecs = 0
  · rw [none', Int.natCast_zero, Int.zero_mul]
    exact Instant.elapsed_nonneg order knownStart
  · have later : p ≤ u := by
      refine Std.not_lt.mp fun before => ?_
      have nothing := Instant.secsUntil_nonpos before
      omega
    calc (c.pollIntervalSecs : Int) * Instant.nanosPerSec
      _ ≤ p.nanosUntil u := (Instant.le_secsUntil_iff (by omega)).mp waited
      _ ≤ Instant.elapsed leaps p u := Instant.nanosUntil_le_elapsed later known
      _ ≤ Instant.elapsed leaps t p + Instant.elapsed leaps p u :=
        Int.le_add_of_nonneg_left (Instant.elapsed_nonneg early knownStart)
      _ = Instant.elapsed leaps t u := Instant.elapsed_add leaps early later

/-- A connector that was polled last when another one was, and need not wait longer, is due whenever
the other one is. -/
theorem isDue_of_sooner {old : Connector} (due : old.isDue u = true) (enabled : c.enabled = true)
    (polled : c.lastPollAt = old.lastPollAt) (sooner : c.pollIntervalSecs ≤ old.pollIntervalSecs) :
    c.isDue u = true := by
  simp only [isDue, enabled, polled, Bool.true_and, Bool.and_eq_true] at due ⊢
  obtain ⟨-, waited⟩ := due
  cases last : old.lastPollAt with
  | none => rfl
  | some p =>
    simp only [last, decide_eq_true_iff] at waited ⊢
    omega

end Connector

end DeviceWatch
