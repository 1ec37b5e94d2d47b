/-!
Finite maps that remember the order in which their keys first arrived.

Writing to a key that is already present keeps its place; a new key goes to the end.  The keys
are distinct by construction, so `toList` is the whole content of a map.
-/

namespace DeviceWatch

/-- A map as its entries in order of arrival. -/
structure OrderedMap (κ α : Type) where
  entries : List (κ × α)
  distinct : (entries.map Prod.fst).Nodup

namespace OrderedMap

variable {κ α : Type}

theorem eq_of_entries_eq {m n : OrderedMap κ α} (h : m.entries = n.entries) : m = n := by
  cases m; cases n; cases h; rfl

def empty : OrderedMap κ α := ⟨[], by simp⟩

instance : Inhabited (OrderedMap κ α) := ⟨empty⟩

instance : EmptyCollection (OrderedMap κ α) := ⟨empty⟩

def keys (m : OrderedMap κ α) : List κ := m.entries.map Prod.fst

def values (m : OrderedMap κ α) : List α := m.entries.map Prod.snd

def size (m : OrderedMap κ α) : Nat := m.entries.length

def mapEntries (m : OrderedMap κ α) (f : κ → α → α) : OrderedMap κ α :=
  ⟨m.entries.map fun e => (e.1, f e.1 e.2), by simpa [Function.comp_def] using m.distinct⟩

def filter (m : OrderedMap κ α) (p : κ → α → Bool) : OrderedMap κ α :=
  ⟨m.entries.filter fun e => p e.1 e.2, m.distinct.sublist (List.filter_sublist.map _)⟩

theorem mapEntries_mapEntries (m : OrderedMap κ α) (f g : κ → α → α) :
    (m.mapEntries f).mapEntries g = m.mapEntries fun k v => g k (f k v) :=
  eq_of_entries_eq (by simp [mapEntries])

theorem values_mapEntries (m : OrderedMap κ α) (f : α → α) :
    (m.mapEntries fun _ v => f v).values = m.values.map f := by
  simp [values, mapEntries]

variable [DecidableEq κ]

def find? (m : OrderedMap κ α) (k : κ) : Option α := m.entries.lookup k

def contains (m : OrderedMap κ α) (k : κ) : Bool := m.keys.contains k

def modify (m : OrderedMap κ α) (k : κ) (f : α → α) : OrderedMap κ α :=
  m.mapEntries fun k' v => if k' = k then f v else v

/-- Writes `v` under `k`: in place when `k` is present, else at the end. -/
def insert (m : OrderedMap κ α) (k : κ) (v : α) : OrderedMap κ α :=
  if h : k ∈ m.keys then m.modify k fun _ => v
  else ⟨m.entries ++ [(k, v)], by
    rw [List.map_append, List.nodup_append]
    refine ⟨m.distinct, by simp, fun a ha b hb => ?_⟩
    simp only [List.map_cons, List.map_nil, List.mem_singleton] at hb
    exact fun e => h (hb ▸ e ▸ ha)⟩

def erase (m : OrderedMap κ α) (k : κ) : OrderedMap κ α := m.filter fun k' _ => k' ≠ k

omit [DecidableEq κ] in
@[simp] theorem entries_empty : (empty : OrderedMap κ α).entries = [] := rfl

@[simp] theorem find?_empty (k : κ) : (empty : OrderedMap κ α).find? k = none := rfl

theorem contains_eq_true_iff (m : OrderedMap κ α) (k : κ) : m.contains k = true ↔ k ∈ m.keys := by
  simp [contains]

@[simp] theorem keys_modify (m : OrderedMap κ α) (k : κ) (f : α → α) :
    (m.modify k f).keys = m.keys := by
  simp [modify, mapEntries, keys, Function.comp_def]

theorem keys_insert (m : OrderedMap κ α) (k : κ) (v : α) :
    (m.insert k v).keys = if k ∈ m.keys then m.keys else m.keys ++ [k] := by
  unfold insert
  split
  · simp
  · simp [keys]

theorem keys_erase (m : OrderedMap κ α) (k : κ) :
    (m.erase k).keys = m.keys.filter fun k' => k' ≠ k := by
  simp [erase, filter, keys, List.filter_map, Function.comp_def]

theorem lookup_eq_some_iff {l : List (κ × α)} (distinct : (l.map Prod.fst).Nodup) {k : κ} {v : α} :
    l.lookup k = some v ↔ (k, v) ∈ l := by
  induction l with
  | nil => simp
  | cons e l ih =>
    obtain ⟨k', v'⟩ := e
    rw [List.map_cons, List.nodup_cons] at distinct
    by_cases same : k = k'
    · subst same
      have absent : (k, v) ∉ l := fun h => distinct.1 (List.mem_map.mpr ⟨_, h, rfl⟩)
      simp [absent, eq_comm]
    · have differ : (k == k') = false := by simpa using same
      simp [List.lookup_cons, differ, same, ih distinct.2]

theorem find?_eq_some_iff {m : OrderedMap κ α} {k : κ} {v : α} :
    m.find? k = some v ↔ (k, v) ∈ m.entries := lookup_eq_some_iff m.distinct

theorem mem_keys_iff {m : OrderedMap κ α} {k : κ} : k ∈ m.keys ↔ ∃ v, m.find? k = some v := by
  simp [keys, find?_eq_some_iff]

theorem find?_eq_none_iff {m : OrderedMap κ α} {k : κ} : m.find? k = none ↔ k ∉ m.keys := by
  rw [mem_keys_iff, Option.eq_none_iff_forall_ne_some, not_exists]

theorem mem_values_iff {m : OrderedMap κ α} {v : α} : v ∈ m.values ↔ ∃ k, m.find? k = some v := by
  simp [values, find?_eq_some_iff]

/-- Where each value has its own key in it, the values that a filter keeps have different ones. -/
theorem nodup_filter_values {m : OrderedMap κ α} {key : α → κ}
    (own : ∀ k v, m.find? k = some v → key v = k) (keep : α → Bool) :
    ((m.values.filter keep).map key).Nodup := by
  have keys : m.values.map key = m.keys := by
    simp only [values, OrderedMap.keys, List.map_map]
    refine List.map_congr_left fun e there => ?_
    exact own e.1 e.2 (find?_eq_some_iff.mpr there)
  have kept : ((m.values.filter keep).map key).Sublist m.keys := by
    rw [← keys]
    exact List.filter_sublist.map _
  exact m.distinct.sublist kept

theorem find?_mapEntries (m : OrderedMap κ α) (f : κ → α → α) (k : κ) :
    (m.mapEntries f).find? k = (m.find? k).map (f k) := by
  ext v
  simp only [find?_eq_some_iff, mapEntries, List.mem_map, Option.map_eq_some_iff]
  constructor
  · rintro ⟨⟨k', w⟩, h, e⟩
    cases e
    exact ⟨w, h, rfl⟩
  · rintro ⟨w, h, rfl⟩
    exact ⟨(k, w), h, rfl⟩

theorem mapEntries_congr {m : OrderedMap κ α} {f g : κ → α → α}
    (same : ∀ k v, m.find? k = some v → f k v = g k v) : m.mapEntries f = m.mapEntries g := by
  refine eq_of_entries_eq (List.map_congr_left fun e there => ?_)
  rw [same e.1 e.2 (find?_eq_some_iff.mpr there)]

theorem find?_modify (m : OrderedMap κ α) (k k' : κ) (f : α → α) :
    (m.modify k f).find? k' = if k' = k then (m.find? k').map f else m.find? k' := by
  rw [modify, find?_mapEntries]
  split <;> simp

theorem find?_modify_self {m : OrderedMap κ α} {k : κ} {v : α} (found : m.find? k = some v)
    (f : α → α) : (m.modify k f).find? k = some (f v) := by
  rw [find?_modify, if_pos rfl, found, Option.map_some]

theorem modify_of_absent {m : OrderedMap κ α} {k : κ} (absent : m.find? k = none) (f : α → α) :
    m.modify k f = m := by
  refine eq_of_entries_eq ((List.map_congr_left fun e there => ?_).trans (List.map_id _))
  have other : e.1 ≠ k := fun same =>
    find?_eq_none_iff.mp absent (same ▸ List.mem_map_of_mem there)
  simp [other]

theorem find?_filter (m : OrderedMap κ α) (p : κ → α → Bool) (k : κ) :
    (m.filter p).find? k = (m.find? k).filter (p k) := by
  ext v
  simp [find?_eq_some_iff, filter, Option.filter_eq_some_iff]

theorem find?_erase (m : OrderedMap κ α) (k k' : κ) :
    (m.erase k).find? k' = if k' = k then none else m.find? k' := by
  rw [erase, find?_filter]
  split <;> rename_i same <;> cases m.find? k' <;> simp [same]

theorem find?_erase_self (m : OrderedMap κ α) (k : κ) : (m.erase k).find? k = none := by
  rw [find?_erase, if_pos rfl]

theorem find?_erase_of_ne (m : OrderedMap κ α) {k k' : κ} (differ : k' ≠ k) :
    (m.erase k).find? k' = m.find? k' := by
  rw [find?_erase, if_neg differ]

theorem entries_insert_of_absent {m : OrderedMap κ α} {k : κ} (absent : m.find? k = none) (v : α) :
    (m.insert k v).entries = m.entries ++ [(k, v)] := by
  rw [insert, dif_neg (find?_eq_none_iff.mp absent)]

theorem find?_insert (m : OrderedMap κ α) (k k' : κ) (v : α) :
    (m.insert k v).find? k' = if k' = k then some v else m.find? k' := by
  by_cases present : k ∈ m.keys
  · rw [insert, dif_pos present, find?_modify]
    split
    · rename_i same
      obtain ⟨w, found⟩ := mem_keys_iff.mp present
      simp [same, found]
    · rfl
  · have absent := find?_eq_none_iff.mpr present
    ext w
    rw [find?_eq_some_iff, entries_insert_of_absent absent]
    split
    · rename_i same
      have gone : (k', w) ∉ m.entries := by
        rw [← find?_eq_some_iff, same, absent]
        simp
      simp [same ▸ gone, same, eq_comm]
    · rename_i differ
      simp [differ, find?_eq_some_iff]

theorem find?_insert_self (m : OrderedMap κ α) (k : κ) (v : α) :
    (m.insert k v).find? k = some v := by
  rw [find?_insert, if_pos rfl]

theorem find?_insert_of_ne (m : OrderedMap κ α) {k k' : κ} (differ : k' ≠ k) (v : α) :
    (m.insert k v).find? k' = m.find? k' := by
  rw [find?_insert, if_neg differ]

theorem modify_insert {m : OrderedMap κ α} {k : κ} {old v : α} (found : m.find? k = some old)
    {f : α → α} (back : f v = old) : (m.insert k v).modify k f = m := by
  rw [insert, dif_pos (mem_keys_iff.mpr ⟨old, found⟩)]
  refine eq_of_entries_eq ?_
  simp only [modify, mapEntries, List.map_map]
  refine (List.map_congr_left fun e there => ?_).trans (List.map_id _)
  by_cases same : e.1 = k
  · have stored : m.find? e.1 = some e.2 := find?_eq_some_iff.mpr there
    rw [same, found] at stored
    obtain rfl := Option.some.inj stored
    simp [same, back, Prod.ext_iff]
  · simp [same]

theorem erase_insert_of_absent {m : OrderedMap κ α} {k : κ} (absent : m.find? k = none) (v : α) :
    (m.insert k v).erase k = m := by
  have others : ∀ e ∈ m.entries, e.1 ≠ k := fun e there same =>
    find?_eq_none_iff.mp absent (same ▸ List.mem_map_of_mem there)
  refine eq_of_entries_eq ?_
  simp only [erase, filter, entries_insert_of_absent absent, List.filter_append]
  rw [List.filter_eq_self.mpr fun e there => decide_eq_true (others e there)]
  simp

/-- Writing under a key that is present changes one entry in its place. -/
theorem exists_entries_split {m : OrderedMap κ α} {k : κ} {v : α} (found : m.find? k = some v) :
    ∃ before after, m.entries = before ++ (k, v) :: after ∧
      ∀ w, (m.insert k w).entries = before ++ (k, w) :: after := by
  obtain ⟨before, after, split⟩ := List.append_of_mem (find?_eq_some_iff.mp found)
  refine ⟨before, after, split, fun w => ?_⟩
  have distinct := m.distinct
  rw [split, List.map_append, List.map_cons, List.nodup_append, List.nodup_cons] at distinct
  obtain ⟨_, ⟨notAfter, _⟩, apart⟩ := distinct
  have otherBefore : ∀ e ∈ before, e.1 ≠ k := fun e he =>
    apart _ (List.mem_map_of_mem he) _ List.mem_cons_self
  have otherAfter : ∀ e ∈ after, e.1 ≠ k := fun e he same =>
    notAfter (List.mem_map.mpr ⟨e, he, same⟩)
  have keep (l : List (κ × α)) (other : ∀ e ∈ l, e.1 ≠ k) :
      l.map (fun e => (e.1, if e.1 = k then w else e.2)) = l := by
    refine (List.map_congr_left fun e he => ?_).trans l.map_id
    simp [other e he]
  rw [insert, dif_pos (mem_keys_iff.mpr ⟨v, found⟩)]
  simp only [modify, mapEntries, split, List.map_append, List.map_cons, if_true]
  rw [keep before otherBefore, keep after otherAfter]

/-- A map is known by its keys, in their order, and by what is found under them. -/
theorem eq_of_find?_eq {m n : OrderedMap κ α} (keys : m.keys = n.keys)
    (found : ∀ k, m.find? k = n.find? k) : m = n := by
  refine eq_of_entries_eq (List.ext_getElem? fun i => ?_)
  have key : (m.entries[i]?).map Prod.fst = (n.entries[i]?).map Prod.fst := by
    simpa [OrderedMap.keys] using congrArg (·[i]?) keys
  cases left : m.entries[i]? with
  | none =>
    rw [left, Option.map_none] at key
    exact (Option.map_eq_none_iff.mp key.symm).symm
  | some e =>
    rw [left, Option.map_some] at key
    obtain ⟨e', right, same⟩ := Option.map_eq_some_iff.mp key.symm
    have here : m.find? e.1 = some e.2 := find?_eq_some_iff.mpr (List.mem_of_getElem? left)
    have there : n.find? e'.1 = some e'.2 := find?_eq_some_iff.mpr (List.mem_of_getElem? right)
    rw [found, ← same, there] at here
    rw [right, Prod.ext same (Option.some.inj here)]

theorem contains_eq_isSome (m : OrderedMap κ α) (k : κ) : m.contains k = (m.find? k).isSome := by
  rw [Bool.eq_iff_iff, contains_eq_true_iff, mem_keys_iff, Option.isSome_iff_exists]

@[simp] theorem contains_empty (k : κ) : (empty : OrderedMap κ α).contains k = false := rfl

theorem contains_insert (m : OrderedMap κ α) (k k' : κ) (v : α) :
    (m.insert k v).contains k' = (k' = k || m.contains k') := by
  rw [contains_eq_isSome, contains_eq_isSome, find?_insert]
  by_cases same : k' = k <;> simp [same]

theorem contains_erase (m : OrderedMap κ α) (k k' : κ) :
    (m.erase k).contains k' = (k' ≠ k && m.contains k') := by
  rw [contains_eq_isSome, contains_eq_isSome, find?_erase]
  by_cases same : k' = k <;> simp [same]

theorem modify_insert_comm (m : OrderedMap κ α) (j k : κ) (f : α → α) (v : α) :
    (m.insert k v).modify j f = (m.modify j f).insert k (if k = j then f v else v) := by
  refine eq_of_find?_eq (by simp [keys_insert]) fun i => ?_
  rw [find?_modify, find?_insert, find?_insert, find?_modify]
  by_cases own : i = k
  · subst own
    simp only [if_true]
    split <;> rfl
  · simp only [own, if_false]

theorem modify_erase_comm (m : OrderedMap κ α) (j k : κ) (f : α → α) :
    (m.erase k).modify j f = (m.modify j f).erase k := by
  refine eq_of_find?_eq (by simp [keys_erase]) fun i => ?_
  rw [find?_modify, find?_erase, find?_erase, find?_modify]
  by_cases own : i = k <;> simp [own]

theorem modify_modify_comm (m : OrderedMap κ α) {j k : κ} (differ : k ≠ j) (f g : α → α) :
    (m.modify k g).modify j f = (m.modify j f).modify k g := by
  refine eq_of_find?_eq (by simp) fun i => ?_
  simp only [find?_modify]
  by_cases own : i = k
  · simp [own, differ]
  · simp [own]

theorem erase_insert_comm (m : OrderedMap κ α) {j k : κ} (differ : k ≠ j) (v : α) :
    (m.insert k v).erase j = (m.erase j).insert k v := by
  refine eq_of_find?_eq ?_ fun i => ?_
  · rw [keys_erase, keys_insert, keys_insert, keys_erase]
    by_cases present : k ∈ m.keys <;> simp [present, differ]
  · rw [find?_erase, find?_insert, find?_insert, find?_erase]
    by_cases own : i = k <;> simp [own, differ]

theorem erase_comm (m : OrderedMap κ α) (j k : κ) : (m.erase k).erase j = (m.erase j).erase k := by
  refine eq_of_find?_eq ?_ fun i => ?_
  · simp only [keys_erase, List.filter_filter, Bool.and_comm]
  · simp only [find?_erase]
    split <;> simp

theorem countP_values_insert {m : OrderedMap κ α} {k : κ} {v : α} (found : m.find? k = some v)
    (p : α → Bool) (w : α) :
    (m.insert k w).values.countP p + (if p v then 1 else 0) =
      m.values.countP p + (if p w then 1 else 0) := by
  obtain ⟨before, after, split, replaced⟩ := exists_entries_split found
  simp only [values, split, replaced w, List.map_append, List.map_cons, List.countP_append,
    List.countP_cons]
  omega

theorem countP_values_insert_of_absent {m : OrderedMap κ α} {k : κ} (absent : m.find? k = none)
    (p : α → Bool) (w : α) :
    (m.insert k w).values.countP p = m.values.countP p + (if p w then 1 else 0) := by
  simp only [values, entries_insert_of_absent absent, List.map_append, List.map_cons, List.map_nil,
    List.countP_append, List.countP_singleton]

theorem countP_values_filter {m : OrderedMap κ α} {keep : κ → α → Bool} {p : α → Bool}
    (kept : ∀ k v, m.find? k = some v → p v = true → keep k v = true) :
    (m.filter keep).values.countP p = m.values.countP p := by
  simp only [values, filter, List.countP_map, List.countP_filter]
  refine List.countP_congr fun e there => ?_
  have found : m.find? e.1 = some e.2 := find?_eq_some_iff.mpr there
  simp only [Function.comp_apply, Bool.and_eq_true]
  exact ⟨fun h => h.1, fun passes => ⟨passes, kept e.1 e.2 found passes⟩⟩

end OrderedMap

end DeviceWatch
