/-!
Finite maps from texts, listed in the order of their keys.
-/

namespace DeviceWatch

/-- A map as its entries in strictly increasing key order. -/
structure SortedTable (α : Type) where
  entries : List (String × α)
  sorted : entries.Pairwise fun a b => a.1 < b.1

namespace SortedTable

variable {α : Type}

theorem eq_of_entries_eq {s t : SortedTable α} (h : s.entries = t.entries) : s = t := by
  cases s; cases t; cases h; rfl

instance [DecidableEq α] : DecidableEq (SortedTable α) := fun s t =>
  if h : s.entries = t.entries then isTrue (eq_of_entries_eq h)
  else isFalse fun e => h (by rw [e])

def empty : SortedTable α := ⟨[], .nil⟩

instance : Inhabited (SortedTable α) := ⟨empty⟩

def insertEntry (key : String) (value : α) : List (String × α) → List (String × α)
  | [] => [(key, value)]
  | (k, v) :: rest =>
    if key < k then (key, value) :: (k, v) :: rest
    else if key = k then (key, value) :: rest
    else (k, v) :: insertEntry key value rest

theorem mem_insertEntry {key : String} {value : α} {entries : List (String × α)}
    {e : String × α} (h : e ∈ insertEntry key value entries) : e.1 = key ∨ e ∈ entries := by
  induction entries with
  | nil =>
    simp only [insertEntry, List.mem_singleton] at h
    exact .inl (by rw [h])
  | cons head rest ih =>
    obtain ⟨k, v⟩ := head
    simp only [insertEntry] at h
    split at h
    · rcases List.mem_cons.1 h with h | h
      · exact .inl (by rw [h])
      · exact .inr h
    · split at h
      · rcases List.mem_cons.1 h with h | h
        · exact .inl (by rw [h])
        · exact .inr (List.mem_cons_of_mem _ h)
      · rcases List.mem_cons.1 h with h | h
        · exact .inr (h ▸ List.mem_cons_self)
        · exact (ih h).imp_right (List.mem_cons_of_mem _)

theorem pairwise_insertEntry (key : String) (value : α) {entries : List (String × α)}
    (h : entries.Pairwise fun a b => a.1 < b.1) :
    (insertEntry key value entries).Pairwise fun a b => a.1 < b.1 := by
  induction entries with
  | nil => simp [insertEntry]
  | cons head rest ih =>
    obtain ⟨k, v⟩ := head
    have ⟨above, tail⟩ := List.pairwise_cons.1 h
    simp only [insertEntry]
    split
    · rename_i below
      refine List.pairwise_cons.2 ⟨fun e he => ?_, h⟩
      rcases List.mem_cons.1 he with rfl | he
      · exact below
      · exact String.lt_trans below (above e he)
    · rename_i notBelow
      split
      · rename_i same
        exact List.pairwise_cons.2 ⟨fun e he => same ▸ above e he, tail⟩
      · rename_i different
        refine List.pairwise_cons.2 ⟨fun e he => ?_, ih tail⟩
        rcases mem_insertEntry he with same | he
        · rw [same]
          rcases Decidable.em (k < key) with below | notAbove
          · exact below
          · exact absurd (String.le_antisymm (String.not_lt.1 notAbove) (String.not_lt.1 notBelow))
              different
        · exact above e he

def insert (t : SortedTable α) (key : String) (value : α) : SortedTable α :=
  ⟨insertEntry key value t.entries, pairwise_insertEntry key value t.sorted⟩

/-- The last of equal keys wins. -/
def ofList (entries : List (String × α)) : SortedTable α :=
  entries.foldl (fun t (k, v) => t.insert k v) empty

def find? (t : SortedTable α) (key : String) : Option α := t.entries.lookup key

end SortedTable

end DeviceWatch
