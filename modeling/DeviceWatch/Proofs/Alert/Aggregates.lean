import Mathlib.Algebra.Ring.Nat
import DeviceWatch.Alert.Query

/-!
# Aggregates

An aggregate is filled alert by alert in four tallies at once.  Each number in it counts the alerts
of a list, and one more alert raises just the numbers that it belongs to.  So the tallies agree with
one another and with the totals of queries, whatever the filters let through.
-/

namespace DeviceWatch

/-- Writing a value moves a sum over the values by the difference to what stood there before, where
nothing counts as `d`. -/
theorem OrderedMap.sum_values_insert {κ α : Type} [DecidableEq κ] (m : OrderedMap κ α) (k : κ)
    (v : α) {f : α → Nat} {d : α} (zero : f d = 0) :
    ((m.insert k v).values.map f).sum + f ((m.find? k).getD d) = (m.values.map f).sum + f v := by
  cases found : m.find? k with
  | none =>
    simp only [values, entries_insert_of_absent found, List.map_append, List.map_cons, List.map_nil,
      List.sum_append, List.sum_cons, List.sum_nil, Option.getD_none, zero]
    omega
  | some old =>
    obtain ⟨before, after, split, replaced⟩ := exists_entries_split found
    simp only [values, split, replaced v, List.map_append, List.map_cons, List.sum_append,
      List.sum_cons, Option.getD_some]
    omega

namespace Tally

variable {κ : Type} [DecidableEq κ]

/-- What is counted under a key; nothing stands for zero. -/
def count (t : Tally κ) (k : κ) : Nat := (t.find? k).getD 0

def sum (t : Tally κ) : Nat := t.values.sum

@[simp] theorem count_empty (k : κ) : count .empty k = 0 := rfl

omit [DecidableEq κ] in
@[simp] theorem sum_empty : sum (.empty : Tally κ) = 0 := rfl

theorem count_insert (t : Tally κ) (k k' : κ) (n : Nat) :
    count (t.insert k n) k' = if k' = k then n else t.count k' := by
  rw [count, OrderedMap.find?_insert]
  split <;> rfl

theorem sum_insert (t : Tally κ) (k : κ) (n : Nat) :
    sum (t.insert k n) + t.count k = t.sum + n := by
  have moved := OrderedMap.sum_values_insert t k n (f := id) (d := 0) rfl
  rwa [List.map_id, List.map_id] at moved

@[simp] theorem count_add (t : Tally κ) (k k' : κ) :
    (t.add k).count k' = t.count k' + if k' = k then 1 else 0 := by
  rw [add, count_insert]
  split
  · rename_i same
    rw [same, count]
  · rfl

@[simp] theorem sum_add (t : Tally κ) (k : κ) : (t.add k).sum = t.sum + 1 := by
  have moved := t.sum_insert k (t.count k + 1)
  rw [add, ← count]
  omega

theorem keys_add {t : Tally κ} {k : κ} (present : k ∈ t.keys) : (t.add k).keys = t.keys := by
  rw [add, OrderedMap.keys_insert, if_pos present]

def zeros (ks : List κ) (t : Tally κ) : Tally κ := ks.foldl (fun t k => t.insert k 0) t

theorem count_zeros (ks : List κ) {t : Tally κ} {k : κ} (none : t.count k = 0) :
    (zeros ks t).count k = 0 := by
  induction ks generalizing t with
  | nil => exact none
  | cons k' rest ih =>
    apply ih
    rw [count_insert, none, ite_self]

theorem sum_zeros (ks : List κ) {t : Tally κ} (none : t.sum = 0) : (zeros ks t).sum = 0 := by
  induction ks generalizing t with
  | nil => exact none
  | cons k rest ih =>
    apply ih
    have moved := t.sum_insert k 0
    exact Nat.eq_zero_of_add_eq_zero_right (moved.trans none)

theorem mem_keys_zeros (ks : List κ) {t : Tally κ} {k : κ} :
    k ∈ (zeros ks t).keys ↔ k ∈ t.keys ∨ k ∈ ks := by
  induction ks generalizing t with
  | nil => simp [zeros]
  | cons k' rest ih =>
    have inserted : k ∈ OrderedMap.keys (t.insert k' 0) ↔ k ∈ t.keys ∨ k = k' := by
      rw [OrderedMap.keys_insert]
      split
      · rename_i present
        constructor
        · exact .inl
        · rintro (there | rfl)
          · exact there
          · exact present
      · rw [List.mem_append, List.mem_singleton]
    rw [List.mem_cons, ← or_assoc, ← inserted]
    exact ih

end Tally

namespace AlertAggregate

/-- The counts of one severity by status. -/
def row (g : AlertAggregate) (v : Severity) : Tally AlertStatus :=
  (g.bySeverityStatus.find? v).getD .empty

def cell (g : AlertAggregate) (v : Severity) (st : AlertStatus) : Nat := (g.row v).count st

def column (g : AlertAggregate) (st : AlertStatus) : Nat :=
  (g.bySeverityStatus.values.map (·.count st)).sum

def gridSum (g : AlertAggregate) : Nat := (g.bySeverityStatus.values.map Tally.sum).sum

/-- Every number of the aggregate is the number of alerts of the list that belong to it. -/
structure Counts (g : AlertAggregate) (alerts : List Alert) : Prop where
  total : g.total = alerts.length
  status : ∀ st, g.byStatus.count st = alerts.countP (·.status = st)
  statusSum : g.byStatus.sum = alerts.length
  severity : ∀ v, g.bySeverity.count v = alerts.countP (·.severity = v)
  severitySum : g.bySeverity.sum = alerts.length
  cell : ∀ v st, g.cell v st = alerts.countP fun a => a.severity = v ∧ a.status = st
  row : ∀ v, (g.row v).sum = alerts.countP (·.severity = v)
  column : ∀ st, g.column st = alerts.countP (·.status = st)
  gridSum : g.gridSum = alerts.length

variable {g : AlertAggregate} {alerts : List Alert}

theorem row_tally (g : AlertAggregate) (a : Alert) (v : Severity) :
    (AlertStore.tally g a).row v = if v = a.severity then (g.row v).add a.status else g.row v := by
  rw [row, AlertStore.tally, OrderedMap.find?_insert]
  split
  · rename_i same
    rw [same]
    rfl
  · rfl

theorem column_tally (g : AlertAggregate) (a : Alert) (st : AlertStatus) :
    (AlertStore.tally g a).column st = g.column st + if st = a.status then 1 else 0 := by
  have moved : (AlertStore.tally g a).column st + (g.row a.severity).count st =
      g.column st + ((g.row a.severity).add a.status).count st :=
    OrderedMap.sum_values_insert g.bySeverityStatus a.severity _ (Tally.count_empty st)
  rw [Tally.count_add] at moved
  omega

theorem gridSum_tally (g : AlertAggregate) (a : Alert) :
    (AlertStore.tally g a).gridSum = g.gridSum + 1 := by
  have moved : (AlertStore.tally g a).gridSum + (g.row a.severity).sum =
      g.gridSum + ((g.row a.severity).add a.status).sum :=
    OrderedMap.sum_values_insert g.bySeverityStatus a.severity _ Tally.sum_empty
  rw [Tally.sum_add] at moved
  omega

/-- One more alert is counted in every number that it belongs to, and in no other one. -/
theorem Counts.tally (h : g.Counts alerts) (a : Alert) :
    (AlertStore.tally g a).Counts (alerts ++ [a]) := by
  constructor
  case total => simp [AlertStore.tally, h.total]
  case status =>
    intro st
    simp [AlertStore.tally, h.status, List.countP_append, List.countP_singleton, eq_comm]
  case statusSum => simp [AlertStore.tally, h.statusSum]
  case severity =>
    intro v
    simp [AlertStore.tally, h.severity, List.countP_append, List.countP_singleton, eq_comm]
  case severitySum => simp [AlertStore.tally, h.severitySum]
  case cell =>
    intro v st
    have before := h.cell v st
    rw [AlertAggregate.cell] at before ⊢
    rw [row_tally, List.countP_append, List.countP_singleton, ← before]
    by_cases same : v = a.severity
    · by_cases same' : st = a.status <;> simp [same, same', eq_comm]
    · simp [same, Ne.symm same]
  case row =>
    intro v
    rw [row_tally, List.countP_append, List.countP_singleton, ← h.row v]
    by_cases same : v = a.severity
    · simp [same]
    · simp [same, Ne.symm same]
  case column =>
    intro st
    simp [column_tally, h.column, List.countP_append, List.countP_singleton, eq_comm]
  case gridSum => simp [gridSum_tally, h.gridSum]

theorem Counts.foldl {first : List Alert} (h : g.Counts first) (alerts : List Alert) :
    (alerts.foldl AlertStore.tally g).Counts (first ++ alerts) := by
  induction alerts generalizing g first with
  | nil => simpa using h
  | cons a rest ih =>
    have rest' := ih (h.tally a)
    rwa [List.append_assoc] at rest'

theorem keys_foldl (statuses : ∀ a ∈ alerts, a.status ∈ g.byStatus.keys)
    (severities : ∀ a ∈ alerts, a.severity ∈ g.bySeverity.keys) :
    (alerts.foldl AlertStore.tally g).byStatus.keys = g.byStatus.keys ∧
    (alerts.foldl AlertStore.tally g).bySeverity.keys = g.bySeverity.keys := by
  induction alerts generalizing g with
  | nil => exact ⟨rfl, rfl⟩
  | cons a rest ih =>
    have status : (AlertStore.tally g a).byStatus.keys = g.byStatus.keys :=
      Tally.keys_add (statuses a List.mem_cons_self)
    have severity : (AlertStore.tally g a).bySeverity.keys = g.bySeverity.keys :=
      Tally.keys_add (severities a List.mem_cons_self)
    rw [List.foldl_cons, ← status, ← severity]
    apply ih
    · intro b there
      rw [status]
      exact statuses b (List.mem_cons_of_mem a there)
    · intro b there
      rw [severity]
      exact severities b (List.mem_cons_of_mem a there)

end AlertAggregate

theorem Severity.mem_all (v : Severity) : v ∈ all := by
  cases v <;> decide

namespace AlertQuery

theorem accepts_eq (q : AlertQuery) (a : Alert) : q.accepts a =
    (q.effectiveStatuses.contains a.status &&
      (q.severities.isEmpty || q.severities.contains a.severity) &&
      accepts { q with statuses := [a.status], severities := [] } a) := by
  have own : (effectiveStatuses { q with statuses := [a.status], severities := [] }).contains
      a.status = true := by
    simp [effectiveStatuses]
  simp only [accepts, own, List.isEmpty_nil, Bool.true_or, Bool.true_and, Bool.and_assoc]

/-- To ask for one status and one severity that a query lets through is to ask the query, and for
them. -/
theorem accepts_restricted {q : AlertQuery} {st : AlertStatus} {v : Severity}
    (shown : st ∈ q.effectiveStatuses) (wanted : q.severities = [] ∨ v ∈ q.severities)
    (a : Alert) : accepts { q with statuses := [st], severities := [v] } a =
      (q.accepts a && (a.severity = v ∧ a.status = st)) := by
  rw [accepts_eq, accepts_eq q]
  by_cases same : a.severity = v ∧ a.status = st
  · obtain ⟨rfl, rfl⟩ := same
    have through : (q.severities.isEmpty || q.severities.contains a.severity) = true := by
      simpa using wanted
    have status : q.effectiveStatuses.contains a.status = true := List.contains_iff_mem.mpr shown
    rw [through, status]
    simp [effectiveStatuses]
  · rw [decide_eq_false same, Bool.and_false]
    by_cases status : a.status = st
    · have severe : a.severity ≠ v := fun same' => same ⟨same', status⟩
      simp [severe]
    · simp [effectiveStatuses, status]

end AlertQuery

namespace AlertStore

variable (s : AlertStore) (q : AlertQuery)

theorem total_query : (s.query q).total = (s.matching q).length :=
  List.length_mergeSort _

/-- Every status and severity that could show has a row of zeros before the first alert. -/
theorem counts_aggregate : (s.aggregate q).Counts (s.matching q) := by
  have start : AlertAggregate.Counts
      ⟨0, Tally.zeros q.effectiveStatuses .empty, Tally.zeros Severity.all .empty, .empty⟩ [] := by
    constructor
    case status => exact fun st => Tally.count_zeros _ (Tally.count_empty st)
    case statusSum => exact Tally.sum_zeros _ Tally.sum_empty
    case severity => exact fun v => Tally.count_zeros _ (Tally.count_empty v)
    case severitySum => exact Tally.sum_zeros _ Tally.sum_empty
    all_goals intros; rfl
  exact start.foldl (s.matching q)

theorem keys_aggregate : (∀ st, st ∈ (s.aggregate q).byStatus.keys ↔ st ∈ q.effectiveStatuses) ∧
    (s.aggregate q).bySeverity.keys = Severity.all := by
  let start : AlertAggregate :=
    ⟨0, Tally.zeros q.effectiveStatuses .empty, Tally.zeros Severity.all .empty, .empty⟩
  have statusRow (st : AlertStatus) : st ∈ start.byStatus.keys ↔ st ∈ q.effectiveStatuses := by
    apply (Tally.mem_keys_zeros q.effectiveStatuses).trans
    simp [OrderedMap.keys]
  have zeroRows : (Tally.zeros Severity.all .empty).keys = Severity.all := by decide +kernel
  have severityRow : start.bySeverity.keys = Severity.all := zeroRows
  have statuses : ∀ a ∈ s.matching q, a.status ∈ start.byStatus.keys := by
    intro a found
    have accepted := (List.mem_filter.mp found).2
    rw [AlertQuery.accepts_eq, Bool.and_eq_true, Bool.and_eq_true] at accepted
    exact (statusRow a.status).mpr (List.contains_iff_mem.mp accepted.1.1)
  have severities : ∀ a ∈ s.matching q, a.severity ∈ start.bySeverity.keys := by
    intro a _
    rw [severityRow]
    exact Severity.mem_all a.severity
  obtain ⟨byStatus, bySeverity⟩ := AlertAggregate.keys_foldl statuses severities
  refine ⟨fun st => ?_, bySeverity.trans severityRow⟩
  rw [← statusRow st, ← byStatus]
  rfl

theorem total_query_restricted {q : AlertQuery} {st : AlertStatus} {v : Severity}
    (shown : st ∈ q.effectiveStatuses) (wanted : q.severities = [] ∨ v ∈ q.severities) :
    (s.query { q with statuses := [st], severities := [v] }).total =
      (s.matching q).countP fun a => a.severity = v ∧ a.status = st := by
  rw [total_query, matching, ← List.countP_eq_length_filter, matching, List.countP_filter]
  refine List.countP_congr fun a _ => ?_
  rw [AlertQuery.accepts_restricted shown wanted, Bool.and_comm]

/-- The aggregate of a query agrees with the list that the query shows: with its total, within
itself row by row and column by column, and cell by cell with what the query shows of one status
and one severity. -/
theorem aggregates_agree (s : AlertStore) (q : AlertQuery) :
    let g := s.aggregate q
    g.total = (s.query q).total ∧
    (g.byStatus.sum = g.total ∧ g.bySeverity.sum = g.total ∧ g.gridSum = g.total) ∧
    (∀ st, st ∈ g.byStatus.keys ↔ st ∈ q.effectiveStatuses) ∧ g.bySeverity.keys = Severity.all ∧
    (∀ st, g.byStatus.count st = g.column st) ∧
    (∀ v, g.bySeverity.count v = (g.row v).sum) ∧
    ∀ st v, st ∈ q.effectiveStatuses → q.severities = [] ∨ v ∈ q.severities →
      g.cell v st = (s.query { q with statuses := [st], severities := [v] }).total := by
  intro g
  have counts : g.Counts (s.matching q) := counts_aggregate s q
  obtain ⟨statuses, severities⟩ := keys_aggregate s q
  refine ⟨?_, ⟨?_, ?_, ?_⟩, statuses, severities, fun st => ?_, fun v => ?_,
    fun st v shown wanted => ?_⟩
  · rw [counts.total, total_query]
  · rw [counts.statusSum, counts.total]
  · rw [counts.severitySum, counts.total]
  · rw [counts.gridSum, counts.total]
  · rw [counts.status, counts.column]
  · rw [counts.severity, counts.row]
  · rw [counts.cell, total_query_restricted s shown wanted]

def threeAlerts : AlertStore :=
  let alert (n : Nat) (severity : Severity) (status : AlertStatus) : Uuid × Alert :=
    (⟨n⟩, { (default : Alert) with id := ⟨n⟩, severity := severity, status := status })
  ⟨⟨[alert 1 .major .active, alert 2 .minor .suppressed, alert 3 .major .resolved], by decide⟩,
    .empty⟩

/-- A status that is asked for twice is counted once. -/
theorem aggregates_agree_threeAlerts :
    let q : AlertQuery := { statuses := [.resolved, .active, .resolved], severities := [.major] }
    let g := threeAlerts.aggregate q
    g.total = 2 ∧ g.byStatus.sum = 2 ∧ g.column .resolved = 1 ∧ (g.row .major).sum = 2 ∧
      g.cell .major .resolved = 1 ∧
      (threeAlerts.query { q with statuses := [.resolved], severities := [.major] }).total = 1 := by
  intro q g
  obtain ⟨-, ⟨byStatus, -, -⟩, -, -, column, row, cell⟩ := aggregates_agree threeAlerts q
  have total : g.total = 2 := by decide
  have resolved : g.cell .major .resolved = 1 := by decide
  refine ⟨total, byStatus.trans total, ?_, ?_, resolved, ?_⟩
  · exact (column .resolved).symm.trans (by decide)
  · exact (row .major).symm.trans (by decide)
  · exact (cell .resolved .major (by decide) (.inr (by decide))).symm.trans resolved

end AlertStore

end DeviceWatch
