import DeviceWatch.Json.Record
import DeviceWatch.OrderedMap
import DeviceWatch.SortedTable

/-!
# Records that are read as they were written

The fields of an object are read as a value if each field that the reader declares passes its check
and the value is built from what the fields hold (`Holds`).  Readers are put together from readers of
one field, and so are the facts about what they read.
-/

namespace DeviceWatch

theorem lookup_cons_ite {α : Type} (k : String) (e : String × α) (l : List (String × α)) :
    (e :: l).lookup k = if k = e.1 then some e.2 else l.lookup k := by
  by_cases same : k = e.1
  · rw [List.lookup_cons, beq_iff_eq.mpr same, if_pos same]
  · have differ : (k == e.1) = false := by simpa using same
    rw [List.lookup_cons, differ, if_neg same]

namespace SortedTable

variable {α : Type}

theorem lookup_insertEntry (key : String) (value : α) (entries : List (String × α)) (k : String) :
    (insertEntry key value entries).lookup k = if k = key then some value else entries.lookup k := by
  induction entries with
  | nil => exact lookup_cons_ite k (key, value) []
  | cons head rest ih =>
    rw [insertEntry]
    split
    · exact lookup_cons_ite k (key, value) _
    · split
      · rename_i same
        rw [lookup_cons_ite, lookup_cons_ite, ← same]
        split <;> rfl
      · rename_i other
        rw [lookup_cons_ite, lookup_cons_ite, ih]
        by_cases own : k = key
        · rw [if_neg (own ▸ other), if_pos own, if_pos own]
        · rw [if_neg own, if_neg own]

theorem insertEntry_of_lt {key : String} {value : α} {entries : List (String × α)}
    (last : ∀ e ∈ entries, e.1 < key) : insertEntry key value entries = entries ++ [(key, value)] := by
  induction entries with
  | nil => rfl
  | cons head rest ih =>
    have before : head.1 < key := last head List.mem_cons_self
    have notAfter : ¬ key < head.1 := fun after => String.lt_irrefl _ (String.lt_trans before after)
    have other : key ≠ head.1 := fun same => String.lt_irrefl _ (same ▸ before)
    rw [insertEntry, if_neg notAfter, if_neg other, ih fun e there => last e (.tail _ there)]
    rfl

theorem ofList_entries (t : SortedTable α) : ofList t.entries = t := by
  have extend (l : List (String × α)) : ∀ start : SortedTable α,
      (start.entries ++ l).Pairwise (fun a b => a.1 < b.1) →
        (l.foldl (fun t e => t.insert e.1 e.2) start).entries = start.entries ++ l := by
    induction l with
    | nil => exact fun start _ => (List.append_nil _).symm
    | cons e rest ih =>
      intro start sorted
      have last : ∀ d ∈ start.entries, d.1 < e.1 := fun d there =>
        (List.pairwise_append.mp sorted).2.2 d there e List.mem_cons_self
      have written : (start.insert e.1 e.2).entries = start.entries ++ [e] := insertEntry_of_lt last
      have reordered : start.entries ++ e :: rest = (start.insert e.1 e.2).entries ++ rest := by
        rw [written, List.append_assoc]
        rfl
      rw [reordered] at sorted ⊢
      exact ih _ sorted
  exact eq_of_entries_eq (extend t.entries empty t.sorted)

end SortedTable

namespace Json

theorem lookup_eraseField (key : String) (fields : List (String × Json)) (k : String) :
    (eraseField key fields).lookup k = if k = key then none else fields.lookup k := by
  induction fields with
  | nil => simp [eraseField]
  | cons head rest ih =>
    unfold eraseField at ih ⊢
    rw [List.filter_cons]
    split
    · rename_i kept
      have other : head.1 ≠ key := by simpa using kept
      rw [lookup_cons_ite, lookup_cons_ite, ih]
      by_cases own : k = key
      · rw [if_pos own, if_pos own, if_neg (own ▸ Ne.symm other)]
      · rw [if_neg own, if_neg own]
    · rename_i gone
      have erased : head.1 = key := by simpa using gone
      rw [ih, lookup_cons_ite, erased]
      split <;> rfl

theorem eraseField_of_ne {key : String} {fields : List (String × Json)}
    (new : ∀ e ∈ fields, e.1 ≠ key) : eraseField key fields = fields :=
  List.filter_eq_self.mpr fun e there => decide_eq_true (new e there)

theorem distinct_of_sorted {fields : List (String × Json)}
    (sorted : fields.Pairwise fun a b => a.1 < b.1) : (fields.map Prod.fst).Nodup := by
  refine List.pairwise_map.mpr (sorted.imp fun {a b} before same => ?_)
  rw [same] at before
  exact String.lt_irrefl _ before

/-- Erasing what was written under a new key restores the fields. -/
theorem eraseField_insertEntry {key : String} {fields : List (String × Json)}
    (new : ∀ e ∈ fields, e.1 ≠ key) (value : Json) :
    eraseField key (SortedTable.insertEntry key value fields) = fields := by
  induction fields with
  | nil => simp [SortedTable.insertEntry, eraseField]
  | cons head rest ih =>
    have other : head.1 ≠ key := new head List.mem_cons_self
    rw [SortedTable.insertEntry]
    split
    · rw [eraseField, List.filter_cons_of_neg (by simp)]
      exact eraseField_of_ne new
    · rw [if_neg (Ne.symm other), eraseField, List.filter_cons_of_pos (by simpa using other)]
      exact congrArg (head :: ·) (ih fun e there => new e (.tail _ there))

/-- Writing a field again that was erased restores the object, if its fields are in key order. -/
theorem insertEntry_eraseField {key : String} {value : Json} {fields : List (String × Json)}
    (sorted : fields.Pairwise fun a b => a.1 < b.1) (found : fields.lookup key = some value) :
    SortedTable.insertEntry key value (eraseField key fields) = fields := by
  induction fields with
  | nil => cases found
  | cons head rest ih =>
    obtain ⟨after, sorted⟩ := List.pairwise_cons.mp sorted
    rw [lookup_cons_ite] at found
    unfold eraseField at ih ⊢
    split at found
    · rename_i here
      subst here
      cases found
      have others : ∀ e ∈ rest, e.1 ≠ head.1 := fun e there same =>
        String.lt_irrefl _ (same ▸ after e there)
      rw [List.filter_cons_of_neg (by simp), List.filter_eq_self.mpr fun e there =>
        decide_eq_true (others e there)]
      cases rest with
      | nil => rfl
      | cons next last => rw [SortedTable.insertEntry, if_pos (after next List.mem_cons_self)]
    · rename_i elsewhere
      have before : head.1 < key :=
        after (key, value) ((OrderedMap.lookup_eq_some_iff (distinct_of_sorted sorted)).mp found)
      have notAfter : ¬ key < head.1 := fun later =>
        String.lt_irrefl _ (String.lt_trans before later)
      rw [List.filter_cons_of_pos (by simpa using Ne.symm elsewhere), SortedTable.insertEntry,
        if_neg notAfter, if_neg elsewhere, ih sorted found]

theorem ne_of_mem_eraseField {key : String} {fields : List (String × Json)} {e : String × Json}
    (there : e ∈ eraseField key fields) : e.1 ≠ key := of_decide_eq_true (List.mem_filter.mp there).2

theorem readNat_ofNat {n max : Nat} (within : n ≤ max) : readNat max (.ofNat n) = .ok n := by
  have bounded : (0 : Int) ≤ n ∧ (n : Int) ≤ max := by omega
  simp only [Json.ofNat, readNat, if_pos bounded, Int.toNat_natCast]

theorem readWord16_ofNat (w : UInt16) : readWord16 (.ofNat w.toNat) = .ok w := by
  have within : w.toNat ≤ word16Max := Nat.le_of_lt_succ w.toNat_lt
  simp [readWord16, readNat_ofNat within, Except.map]

theorem readWord32_ofNat (w : UInt32) : readWord32 (.ofNat w.toNat) = .ok w := by
  have within : w.toNat ≤ word32Max := Nat.le_of_lt_succ w.toNat_lt
  simp [readWord32, readNat_ofNat within, Except.map]

theorem readWord64_ofNat (w : UInt64) : readWord64 (.ofNat w.toNat) = .ok w := by
  have within : w.toNat ≤ word64Max := Nat.le_of_lt_succ w.toNat_lt
  simp [readWord64, readNat_ofNat within, Except.map]

section Collections

variable {α : Type} {read : Json → Read α} (write : α → Json)

theorem readOption_ofOption (readsBack : ∀ a, read (write a) = .ok a)
    (notNull : ∀ a, write a ≠ .null) (a : Option α) :
    readOption read (.ofOption write a) = .ok a := by
  cases a with
  | none => rfl
  | some a =>
    rw [Json.ofOption, readOption.eq_2 read (write a) (notNull a), readsBack]
    rfl

theorem readList_map (readsBack : ∀ a, read (write a) = .ok a) (items : List α) :
    readList read (.arr (items.map write)) = .ok items := by
  show (items.map write).mapM read = .ok items
  induction items with
  | nil => rfl
  | cons a rest ih => rw [List.map_cons, List.mapM_cons, readsBack, ih]; rfl

theorem readTable_map (readsBack : ∀ a, read (write a) = .ok a) (entries : List (String × α)) :
    readTable read (.obj (entries.map fun e => (e.1, write e.2))) = .ok entries := by
  show (entries.map fun e => (e.1, write e.2)).mapM (fun e => (read e.2).map (e.1, ·)) = .ok entries
  induction entries with
  | nil => rfl
  | cons e rest ih => rw [List.map_cons, List.mapM_cons, readsBack, ih]; rfl

end Collections

namespace RecordReader

variable {α β : Type} {fields : List (String × Json)}

structure Holds (r : RecordReader α) (fields : List (String × Json)) (a : α) : Prop where
  checks : ∀ e ∈ fields, ∀ field ∈ r.fields, field.name = e.1 → field.check e.2 = .ok ()
  builds : r.build (fun name => fields.lookup name) = .ok a

theorem checkFields_eq_ok {declared : List Field}
    (checks : ∀ e ∈ fields, ∀ field ∈ declared, field.name = e.1 → field.check e.2 = .ok ()) :
    checkFields declared fields = .ok () := by
  induction fields with
  | nil => rfl
  | cons e rest ih =>
    have later := ih fun d there => checks d (.tail _ there)
    rw [checkFields]
    split
    · rename_i field found
      have named : field.name = e.1 := by simpa using List.find?_some found
      rw [checks e List.mem_cons_self field (List.mem_of_find?_eq_some found) named]
      exact later
    · exact later

theorem Holds.readObject {r : RecordReader α} {a : α} (holds : r.Holds fields a) :
    r.readObject fields = .ok a := by
  rw [RecordReader.readObject, checkFields_eq_ok holds.checks]
  exact holds.builds

theorem Holds.seq {f : RecordReader (α → β)} {x : RecordReader α} {g : α → β} {a : α}
    (first : f.Holds fields g) (second : x.Holds fields a) : (f <*> x).Holds fields (g a) where
  checks e there field declared := by
    rcases List.mem_append.mp declared with before | after
    · exact first.checks e there field before
    · exact second.checks e there field after
  builds := by
    show (do
      let f ← f.build fun name => fields.lookup name
      let a ← x.build fun name => fields.lookup name
      return f a) = .ok (g a)
    rw [first.builds, second.builds]
    rfl

theorem Holds.map {x : RecordReader α} {a : α} (g : α → β) (holds : x.Holds fields a) :
    (g <$> x).Holds fields (g a) := by
  have constant : (Pure.pure g : RecordReader (α → β)).Holds fields g := ⟨by simp [Pure.pure, pure], rfl⟩
  exact constant.seq holds

section Single

variable {name : String} {read : Json → Read α} {a : α} {j : Json}

theorem check_of_lookup (distinct : (fields.map Prod.fst).Nodup) (there : (name, j) ∈ fields)
    (reads : read j = .ok a) {mayEnd : Bool} :
    ∀ e ∈ fields, ∀ field ∈ [(⟨name, checkOf read, mayEnd⟩ : Field)],
      field.name = e.1 → field.check e.2 = .ok () := by
  intro e present field declared named
  rw [List.mem_singleton] at declared
  subst declared
  have found := (OrderedMap.lookup_eq_some_iff distinct).mpr there
  have same := (OrderedMap.lookup_eq_some_iff distinct).mpr present
  rw [← named, found] at same
  cases same
  simp [checkOf, reads, Except.map]

theorem holds_required (distinct : (fields.map Prod.fst).Nodup) (there : (name, j) ∈ fields)
    (reads : read j = .ok a) : (required name read).Holds fields a where
  checks := check_of_lookup distinct there reads
  builds := by
    have found := (OrderedMap.lookup_eq_some_iff distinct).mpr there
    simp only [required, found, reads]

theorem holds_defaulted (distinct : (fields.map Prod.fst).Nodup) (there : (name, j) ∈ fields)
    (reads : read j = .ok a) (default : α) : (defaulted name read default).Holds fields a where
  checks := check_of_lookup distinct there reads
  builds := by
    have found := (OrderedMap.lookup_eq_some_iff distinct).mpr there
    simp only [defaulted, found, reads]

theorem holds_optional (distinct : (fields.map Prod.fst).Nodup) (there : (name, j) ∈ fields)
    {a : Option α} (reads : readOption read j = .ok a) : (optional name read).Holds fields a where
  checks := check_of_lookup distinct there reads
  builds := by
    have found := (OrderedMap.lookup_eq_some_iff distinct).mpr there
    simp only [optional, found, reads]

end Single

end RecordReader

end Json

end DeviceWatch
