import DeviceWatch.Job.Tracker

/-!
# Pruning drops the excess

Of the records that have ended, pruning drops the first ones and keeps as many as it is told to.  It
is one pass over the records in the order of submission, with as many drops left as there are records
too many, and a record under way is passed over.  Two passes with what is left of the drops are one,
so that pruning twice is pruning once to the smaller number.
-/

namespace DeviceWatch

/-- Drops the first `n` members of a kind, in one pass. -/
def dropFirst {α : Type} (p : α → Bool) (n : Nat) : List α → List α
  | [] => []
  | a :: rest =>
    if 0 < n ∧ p a = true then dropFirst p (n - 1) rest else a :: dropFirst p n rest

section

variable {α : Type} {p : α → Bool} {n : Nat} {a : α} {l : List α}

theorem dropFirst_cons_of_neg (other : p a = false) :
    dropFirst p n (a :: l) = a :: dropFirst p n l := by
  simp [dropFirst, other]

theorem dropFirst_succ_cons (here : p a = true) :
    dropFirst p (n + 1) (a :: l) = dropFirst p n l := by
  simp [dropFirst, here]

@[simp] theorem dropFirst_zero (l : List α) : dropFirst p 0 l = l := by
  induction l with
  | nil => rfl
  | cons a rest ih => simp [dropFirst, ih]

theorem dropFirst_sublist (p : α → Bool) (n : Nat) (l : List α) :
    (dropFirst p n l).Sublist l := by
  induction l generalizing n with
  | nil => exact .slnil
  | cons a rest ih =>
    rw [dropFirst]
    split
    · exact (ih (n - 1)).cons a
    · exact (ih n).cons_cons a

theorem filter_dropFirst (p : α → Bool) (n : Nat) (l : List α) :
    (dropFirst p n l).filter p = (l.filter p).drop n := by
  induction l generalizing n with
  | nil => simp [dropFirst]
  | cons a rest ih =>
    cases here : p a with
    | false => rw [dropFirst_cons_of_neg here, List.filter_cons, List.filter_cons, here, ih]; rfl
    | true =>
      cases n with
      | zero => simp
      | succ n => rw [dropFirst_succ_cons here, ih, List.filter_cons_of_pos here, List.drop_succ_cons]

theorem filter_not_dropFirst (p : α → Bool) (n : Nat) (l : List α) :
    (dropFirst p n l).filter (fun a => !p a) = l.filter fun a => !p a := by
  induction l generalizing n with
  | nil => rfl
  | cons a rest ih =>
    cases here : p a with
    | false => simp [dropFirst_cons_of_neg here, here, ih]
    | true =>
      cases n with
      | zero => simp
      | succ n => simp [dropFirst_succ_cons here, here, ih]

theorem dropFirst_dropFirst (p : α → Bool) (m n : Nat) (l : List α) :
    dropFirst p m (dropFirst p n l) = dropFirst p (n + m) l := by
  induction l generalizing n with
  | nil => rfl
  | cons a rest ih =>
    cases here : p a with
    | false =>
      rw [dropFirst_cons_of_neg here, dropFirst_cons_of_neg here, dropFirst_cons_of_neg here, ih]
    | true =>
      cases n with
      | zero => simp
      | succ n =>
        rw [dropFirst_succ_cons here, ih, Nat.succ_add, dropFirst_succ_cons here]

/-- Whatever has a key of its own may be dropped by its key. -/
theorem filter_keys_eq_dropFirst {κ : Type} [DecidableEq κ] {key : α → κ}
    (distinct : (l.map key).Nodup) (p : α → Bool) (n : Nat) :
    (l.filter fun a => !(((l.filter p).take n).map key).contains (key a)) = dropFirst p n l := by
  induction l generalizing n with
  | nil => rfl
  | cons a rest ih =>
    obtain ⟨first, distinct⟩ := List.nodup_cons.mp distinct
    cases here : p a with
    | false =>
      have stays : key a ∉ ((rest.filter p).take n).map key := by
        intro gone
        obtain ⟨b, taken, same⟩ := List.mem_map.mp gone
        have there := (List.mem_filter.mp (List.mem_of_mem_take taken)).1
        exact first (List.mem_map.mpr ⟨b, there, same⟩)
      have others : (a :: rest).filter p = rest.filter p := List.filter_cons_of_neg (by simp [here])
      rw [dropFirst_cons_of_neg here, others, List.filter_cons_of_pos, ih distinct]
      rwa [Bool.not_eq_true', ← Bool.not_eq_true, List.contains_iff_mem]
    | true =>
      cases n with
      | zero => simp
      | succ n =>
        have others : ∀ b ∈ rest, key b ≠ key a := fun b there same =>
          first (List.mem_map.mpr ⟨b, there, same⟩)
        rw [dropFirst_succ_cons here, List.filter_cons_of_pos here, List.take_succ_cons,
          List.map_cons, List.filter_cons_of_neg (by simp), ← ih distinct]
        refine List.filter_congr fun b there => ?_
        simp [others b there]

end

namespace Tracker

def endedRecords (t : Tracker) : List (Uuid × Job) :=
  t.jobs.entries.filter fun e => e.2.state.isTerminal

def openRecords (t : Tracker) : List (Uuid × Job) :=
  t.jobs.entries.filter fun e => !e.2.state.isTerminal

theorem length_endedRecords (t : Tracker) : t.endedRecords.length = t.terminalCount := by
  simp [endedRecords, terminalCount, OrderedMap.values, List.filter_map, Function.comp_def]

theorem entries_prune (t : Tracker) (keep : Nat) : (t.prune keep).2.jobs.entries =
    dropFirst (fun e => e.2.state.isTerminal) (t.terminalCount - keep) t.jobs.entries :=
  filter_keys_eq_dropFirst t.jobs.distinct _ _

theorem endedRecords_prune (t : Tracker) (keep : Nat) :
    (t.prune keep).2.endedRecords = t.endedRecords.drop (t.terminalCount - keep) := by
  rw [endedRecords, entries_prune, filter_dropFirst]
  rfl

theorem openRecords_prune (t : Tracker) (keep : Nat) :
    (t.prune keep).2.openRecords = t.openRecords := by
  rw [openRecords, entries_prune, filter_not_dropFirst]
  rfl

theorem terminalCount_prune (t : Tracker) (keep : Nat) :
    (t.prune keep).2.terminalCount = min t.terminalCount keep := by
  rw [← length_endedRecords, endedRecords_prune, List.length_drop, length_endedRecords]
  omega

/-- What is dropped is of the kind that may be dropped, so the number of records falls by it. -/
theorem size_prune (t : Tracker) (keep : Nat) :
    (t.prune keep).2.jobs.size + (t.prune keep).1 = t.jobs.size := by
  have parts (u : Tracker) : u.jobs.size = u.terminalCount + u.openRecords.length := by
    rw [← length_endedRecords, endedRecords, openRecords, OrderedMap.size,
      ← List.countP_eq_length_filter, ← List.countP_eq_length_filter,
      List.length_eq_countP_add_countP fun e : Uuid × Job => e.2.state.isTerminal]
    simp only [Bool.not_eq_true, Bool.decide_eq_false]
  rw [parts, parts t, terminalCount_prune, openRecords_prune]
  show min t.terminalCount keep + _ + (t.terminalCount - keep) = _
  omega

theorem excess_prune (t : Tracker) (a b : Nat) :
    (t.prune a).1 + ((t.prune a).2.prune b).1 = (t.prune (min a b)).1 := by
  show t.terminalCount - a + ((t.prune a).2.terminalCount - b) = t.terminalCount - min a b
  rw [terminalCount_prune]
  omega

/-- The second pruning goes on where the first one has stopped. -/
theorem oldestTerminal_prune (t : Tracker) (a b : Nat) :
    t.oldestTerminal (t.prune a).1 ++ (t.prune a).2.oldestTerminal ((t.prune a).2.prune b).1 =
      t.oldestTerminal (t.prune (min a b)).1 := by
  have named (u : Tracker) (excess : Nat) :
      u.oldestTerminal excess = (u.endedRecords.take excess).map Prod.fst := rfl
  have rest : (t.prune a).2.endedRecords = t.endedRecords.drop (t.prune a).1 :=
    t.endedRecords_prune a
  rw [← excess_prune, named, named, named, rest, List.take_add, List.map_append]

def cutOff (gone : List Uuid) (id : Uuid) (feed : Feed) : Feed :=
  if gone.contains id then { feed with live := false } else feed

theorem cutOff_cutOff (first later : List Uuid) (id : Uuid) (feed : Feed) :
    cutOff later id (cutOff first id feed) = cutOff (first ++ later) id feed := by
  unfold cutOff
  by_cases before : id ∈ first <;> by_cases after : id ∈ later <;> simp [before, after]

theorem prune_prune (t : Tracker) (a b : Nat) :
    ((t.prune a).2.prune b).2 = (t.prune (min a b)).2 := by
  have jobs : ((t.prune a).2.prune b).2.jobs = (t.prune (min a b)).2.jobs := by
    apply OrderedMap.eq_of_entries_eq
    rw [entries_prune, entries_prune, entries_prune, dropFirst_dropFirst]
    exact congrArg (dropFirst _ · _) (excess_prune t a b)
  have feeds : ((t.prune a).2.prune b).2.feeds = (t.prune (min a b)).2.feeds := by
    have ends (u : Tracker) (keep : Nat) : (u.prune keep).2.feeds =
        u.feeds.mapEntries (cutOff (u.oldestTerminal (u.prune keep).1)) := rfl
    rw [ends, ends, ends, OrderedMap.mapEntries_mapEntries, ← oldestTerminal_prune]
    simp only [cutOff_cutOff]
  exact (Tracker.mk.injEq _ _ _ _ _ _).mpr ⟨rfl, jobs, feeds⟩

/-- Pruning tells by how many the records that have ended exceed what is to be kept, and drops that
many of them, the first ones in the order of submission; records of jobs under way stay, and all
that stay are as they were and in the same order.  Pruning twice is pruning once to the smaller
number, also in the counts. -/
theorem prune_exact (t : Tracker) (keep : Nat) :
    (t.prune keep).1 = t.terminalCount - keep ∧
      (t.prune keep).2.endedRecords = t.endedRecords.drop (t.prune keep).1 ∧
      (t.prune keep).2.openRecords = t.openRecords ∧
      (t.prune keep).2.jobs.entries.Sublist t.jobs.entries ∧
      (t.prune keep).2.jobs.size + (t.prune keep).1 = t.jobs.size ∧
      ∀ other, ((t.prune keep).2.prune other).2 = (t.prune (min keep other)).2 ∧
        (t.prune keep).1 + ((t.prune keep).2.prune other).1 = (t.prune (min keep other)).1 := by
  refine ⟨rfl, t.endedRecords_prune keep, t.openRecords_prune keep, ?_, t.size_prune keep,
    fun other => ⟨t.prune_prune keep other, t.excess_prune keep other⟩⟩
  rw [entries_prune]
  exact dropFirst_sublist _ _ _

end Tracker

end DeviceWatch
