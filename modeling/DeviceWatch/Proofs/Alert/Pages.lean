import DeviceWatch.Alert.Query

/-!
# The pages of a query

What a query accepts is put in order once: the most recently updated first, and alerts of one time in
the order of their creation.  There is one such list, and each page is a piece of it.  The pages
follow one another without a gap, so that all of them together are the list.
-/

namespace DeviceWatch

/-- The alerts of a list, the most recently updated first, and those of one time in their order in the
list. -/
structure NewestFirst (alerts sorted : List Alert) : Prop where
  perm : sorted.Perm alerts
  ordered : sorted.Pairwise fun a b => b.updatedAt ≤ a.updatedAt
  stable : ∀ t, sorted.filter (·.updatedAt = t) = alerts.filter (·.updatedAt = t)

namespace AlertStore

theorem newestFirst_spec (alerts : List Alert) : NewestFirst alerts (newestFirst alerts) := by
  have trans (a b c : Alert) (ab : decide (b.updatedAt ≤ a.updatedAt) = true)
      (bc : decide (c.updatedAt ≤ b.updatedAt) = true) :
      decide (c.updatedAt ≤ a.updatedAt) = true :=
    decide_eq_true (Std.le_trans (of_decide_eq_true bc) (of_decide_eq_true ab))
  have total (a b : Alert) :
      (decide (b.updatedAt ≤ a.updatedAt) || decide (a.updatedAt ≤ b.updatedAt)) = true := by
    simpa using Std.le_total (a := b.updatedAt) (b := a.updatedAt)
  have perm : (newestFirst alerts).Perm alerts := List.mergeSort_perm alerts _
  refine ⟨perm, ?_, fun t => ?_⟩
  · exact (List.pairwise_mergeSort trans total alerts).imp of_decide_eq_true
  · -- Alerts of one time are in order as they are, and so they stay.
    let ties := alerts.filter (·.updatedAt = t)
    have level : ties.Pairwise fun a b => decide (b.updatedAt ≤ a.updatedAt) = true := by
      refine List.pairwise_of_forall_mem_list fun a hasA b hasB => ?_
      have atA : a.updatedAt = t := of_decide_eq_true (List.mem_filter.mp hasA).2
      have atB : b.updatedAt = t := of_decide_eq_true (List.mem_filter.mp hasB).2
      rw [atA, atB]
      exact decide_eq_true (Std.le_refl t)
    have kept : ties.Sublist (newestFirst alerts) :=
      List.sublist_mergeSort trans total level List.filter_sublist
    have own : ties.filter (·.updatedAt = t) = ties := by
      rw [List.filter_filter]
      simp [ties]
    have within : ties.Sublist ((newestFirst alerts).filter (·.updatedAt = t)) := by
      rw [← own]
      exact kept.filter _
    exact (within.eq_of_length (perm.filter _).length_eq.symm).symm

end AlertStore

namespace NewestFirst

variable {alerts xs ys : List Alert}

theorem le_head {a b : Alert} {rest : List Alert} (h : NewestFirst alerts (a :: rest))
    (there : b ∈ alerts) : b.updatedAt ≤ a.updatedAt := by
  rcases List.mem_cons.mp (h.perm.mem_iff.mpr there) with rfl | later
  · exact Std.le_refl _
  · exact (List.pairwise_cons.mp h.ordered).1 b later

theorem unique (first : NewestFirst alerts xs) (second : NewestFirst alerts ys) : xs = ys := by
  induction xs generalizing alerts ys with
  | nil => exact (second.perm.trans first.perm.symm).symm.nil_eq
  | cons a rest ih =>
    cases ys with
    | nil => exact (first.perm.trans second.perm.symm).eq_nil
    | cons b others =>
      have hasA : a ∈ alerts := first.perm.mem_iff.mp List.mem_cons_self
      have hasB : b ∈ alerts := second.perm.mem_iff.mp List.mem_cons_self
      have time : a.updatedAt = b.updatedAt :=
        Std.le_antisymm (second.le_head hasA) (first.le_head hasB)
      -- Both are the first alert of their time.
      have same : a = b := by
        have ties := (first.stable a.updatedAt).trans (second.stable a.updatedAt).symm
        rw [List.filter_cons_of_pos (by simp), List.filter_cons_of_pos (by simp [time])] at ties
        exact (List.cons.inj ties).1
      subst same
      refine congrArg (a :: ·) (ih ⟨.refl _, ?_, fun _ => rfl⟩ ⟨?_, ?_, fun t => ?_⟩)
      · exact (List.pairwise_cons.mp first.ordered).2
      · exact (second.perm.trans first.perm.symm).cons_inv
      · exact (List.pairwise_cons.mp second.ordered).2
      · have ties := (second.stable t).trans (first.stable t).symm
        simp only [List.filter_cons] at ties
        split at ties
        · exact (List.cons.inj ties).2
        · exact ties

end NewestFirst

theorem flatMap_pieces {α : Type} (l : List α) (size n : Nat) :
    ((List.range n).flatMap fun i => (l.drop (i * size)).take size) = l.take (n * size) := by
  induction n with
  | zero => simp
  | succ n ih =>
    rw [List.range_succ, List.flatMap_append, ih, List.flatMap_singleton, Nat.succ_mul,
      List.take_add]

namespace AlertStore

/-- How many pages of a size are not empty. -/
def pageCount (total size : Nat) : Nat := (total + size - 1) / size

theorem lt_pageCount_iff {total size n : Nat} (some' : 0 < size) :
    n < pageCount total size ↔ n * size < total := by
  rw [pageCount, Nat.lt_iff_add_one_le, Nat.le_div_iff_mul_le some', Nat.succ_mul]
  omega

variable (s : AlertStore) (q : AlertQuery)

theorem effectivePageSize_pos : 0 < q.effectivePageSize := by
  unfold AlertQuery.effectivePageSize AlertQuery.defaultPageSize AlertQuery.maxPageSize
  split <;> omega

/-- A page is a piece of the list of what the query accepts. -/
theorem items_query (n : Nat) : (s.query { q with page := n }).items =
    ((newestFirst (s.matching q)).drop ((max n 1 - 1) * q.effectivePageSize)).take
      q.effectivePageSize := rfl

theorem length_items_query (n : Nat) : (s.query { q with page := n }).items.length =
    min q.effectivePageSize ((s.matching q).length - (max n 1 - 1) * q.effectivePageSize) := by
  rw [items_query, List.length_take, List.length_drop,
    (newestFirst_spec (s.matching q)).perm.length_eq]

theorem flatMap_pages (n : Nat) :
    ((List.range n).flatMap fun i => (s.query { q with page := i + 1 }).items) =
      (newestFirst (s.matching q)).take (n * q.effectivePageSize) := by
  have piece (i : Nat) : (s.query { q with page := i + 1 }).items =
      ((newestFirst (s.matching q)).drop (i * q.effectivePageSize)).take q.effectivePageSize := by
    rw [items_query, Nat.max_eq_left (Nat.le_add_left 1 i), Nat.add_sub_cancel]
  simp only [piece, flatMap_pieces]

/-- For a filter of alerts and a size of pages, where 0 stands for 50 and more than 500 for 500: the
pages together, up to the last one that is not empty or any later one, are the matching alerts newest
first, and nothing else is.  All pages before that last one are full, and those after it are empty.
Every page tells how many alerts match; page 0 is page 1.  And where the place at which a page begins
is cut off at a number not below that of the matching alerts, all pages stay as they are. -/
theorem pages_partition (s : AlertStore) (q : AlertQuery) :
    let found := s.matching q
    let size := if q.pageSize = 0 then 50 else min q.pageSize 500
    let page (n : Nat) := s.query { q with page := n }
    let last := pageCount found.length size
    (∀ n, last ≤ n → ∀ l, NewestFirst found l ↔
      l = (List.range n).flatMap fun i => (page (i + 1)).items) ∧
    (∀ n, 1 ≤ n → n < last → (page n).items.length = size) ∧
    (0 < last → (page last).items ≠ []) ∧
    (∀ n, last < n → (page n).items = []) ∧
    page 0 = page 1 ∧
    (∀ n, (page n).total = found.length ∧ (page n).page = max n 1 ∧ (page n).pageSize = size) ∧
    ∀ bound n, found.length ≤ bound → (page n).items =
      ((newestFirst found).drop (min ((max n 1 - 1) * size) bound)).take size := by
  intro found size page last
  have positive : 0 < size := effectivePageSize_pos q
  have spec : NewestFirst found (newestFirst found) := newestFirst_spec found
  have total : (newestFirst found).length = found.length := spec.perm.length_eq
  have short {k : Nat} (enough : found.length ≤ k) : (newestFirst found).length ≤ k :=
    total ▸ enough
  have items (n : Nat) : (page n).items.length = min size (found.length - (max n 1 - 1) * size) :=
    length_items_query s q n
  have within (n : Nat) : n < last ↔ n * size < found.length := lt_pageCount_iff positive
  refine ⟨fun n reaches l => ?_, fun n first before => ?_, fun some' empty => ?_,
    fun n after => ?_, rfl, fun n => ⟨total, rfl, rfl⟩, fun bound n enough => ?_⟩
  · have covered : found.length ≤ n * size := Nat.le_of_not_lt fun more =>
      absurd ((within n).mpr more) (Nat.not_lt.mpr reaches)
    have whole : ((List.range n).flatMap fun i => (page (i + 1)).items) = newestFirst found := by
      rw [flatMap_pages]
      exact List.take_of_length_le (short covered)
    rw [whole]
    exact ⟨fun sorted => sorted.unique spec, fun same => same ▸ spec⟩
  · have filled := (within n).mp before
    have start : (n - 1) * size + size = n * size := by
      rw [← Nat.succ_mul, Nat.succ_eq_add_one, Nat.sub_add_cancel first]
    rw [items, Nat.max_eq_left first]
    omega
  · have started := (within (last - 1)).mp (Nat.sub_one_lt_of_lt some')
    have none' := items last
    rw [empty, Nat.max_eq_left some', List.length_nil] at none'
    omega
  · have past : found.length ≤ (n - 1) * size := Nat.le_of_not_lt fun more => by
      have early := (within (n - 1)).mpr more
      omega
    apply List.length_eq_zero_iff.mp
    rw [items, Nat.max_eq_left (Nat.one_le_of_lt after)]
    omega
  · have piece : (page n).items =
        ((newestFirst found).drop ((max n 1 - 1) * size)).take size := items_query s q n
    rw [piece]
    by_cases small : (max n 1 - 1) * size ≤ bound
    · rw [Nat.min_eq_left small]
    · have far : bound ≤ (max n 1 - 1) * size := Nat.le_of_not_le small
      rw [Nat.min_eq_right far, List.drop_of_length_le (short enough),
        List.drop_of_length_le (short (Nat.le_trans enough far))]

/-- Five alerts, the last two of which were updated at one time, before all others but the third. -/
def fiveAlerts : AlertStore :=
  let alert (n : Nat) (updatedAt : Instant) : Uuid × Alert :=
    (⟨n⟩, { (default : Alert) with id := ⟨n⟩, updatedAt := updatedAt })
  let entries := [alert 1 ⟨30⟩, alert 2 ⟨40⟩, alert 3 ⟨10⟩, alert 4 ⟨20⟩, alert 5 ⟨20⟩]
  ⟨⟨entries, by decide⟩, .empty⟩

/-- Two pages of two alerts and one of one; a page that is as far away as can be is empty. -/
theorem pages_partition_fiveAlerts :
    let q : AlertQuery := { pageSize := 2 }
    let found := fiveAlerts.matching q
    let page (n : Nat) := fiveAlerts.query { q with page := n }
    let far := 18446744073709551615
    pageCount found.length 2 = 3 ∧
    NewestFirst found ((List.range 3).flatMap fun i => (page (i + 1)).items) ∧
    (page 1).items.length = 2 ∧ (page 2).items.length = 2 ∧ (page 3).items ≠ [] ∧
    (page far).items = [] ∧
    (page far).items = ((newestFirst found).drop (min ((max far 1 - 1) * 2) far)).take 2 := by
  intro q found page far
  have three : pageCount found.length 2 = 3 := by decide
  obtain ⟨together, full, filled, empty, -, -, cut⟩ := pages_partition fiveAlerts q
  refine ⟨three, ?_, ?_, ?_, ?_, ?_, ?_⟩
  · exact (together 3 (by decide) _).mpr rfl
  · exact full 1 (by decide) (by decide)
  · exact full 2 (by decide) (by decide)
  · have some' : (page (pageCount found.length 2)).items ≠ [] := filled (by decide)
    rwa [three] at some'
  · exact empty far (by decide)
  · exact cut far far (by decide)

end AlertStore

end DeviceWatch
