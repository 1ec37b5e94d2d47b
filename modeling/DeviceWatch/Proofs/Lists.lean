import Mathlib.Data.List.Perm.Basic

/-!
# Changing one place of a list

Whoever is at work on something is a place of a list here, and an event changes one place or takes
it out.  Counts are stated without subtraction.
-/

namespace DeviceWatch

variable {α : Type} {l : List α} {i : Nat} {a : α}

theorem exists_split_of_getElem? (here : l[i]? = some a) :
    ∃ before after, l = before ++ a :: after ∧ l.eraseIdx i = before ++ after ∧
      ∀ b, l.set i b = before ++ b :: after := by
  obtain ⟨within, rfl⟩ := List.getElem?_eq_some_iff.mp here
  refine ⟨l.take i, l.drop (i + 1), ?_, List.eraseIdx_eq_take_drop_succ l i, fun b => ?_⟩
  · rw [← List.drop_eq_getElem_cons within, List.take_append_drop]
  · exact List.set_eq_take_append_cons_drop.trans (if_pos within)

theorem countP_set_add (here : l[i]? = some a) (p : α → Bool) (b : α) :
    (l.set i b).countP p + (if p a then 1 else 0) = l.countP p + (if p b then 1 else 0) := by
  obtain ⟨before, after, split, -, replaced⟩ := exists_split_of_getElem? here
  rw [replaced b, split]
  simp only [List.countP_append, List.countP_cons]
  omega

theorem set_self_of_getElem? (here : l[i]? = some a) : l.set i a = l := by
  obtain ⟨within, rfl⟩ := List.getElem?_eq_some_iff.mp here
  exact List.set_getElem_self within

theorem getElem?_set_of_getElem? (here : l[i]? = some a) (b : α) : (l.set i b)[i]? = some b := by
  obtain ⟨within, -⟩ := List.getElem?_eq_some_iff.mp here
  exact List.getElem?_set_self within

theorem eraseIdx_concat (l : List α) (a : α) : (l ++ [a]).eraseIdx l.length = l := by
  rw [List.eraseIdx_append_of_length_le (Nat.le_refl _)]
  simp

theorem perm_cons_eraseIdx (here : l[i]? = some a) (first : List α) :
    (first ++ l).Perm (a :: (first ++ l.eraseIdx i)) := by
  obtain ⟨within, rfl⟩ := List.getElem?_eq_some_iff.mp here
  have taken : l.Perm (l[i] :: l.eraseIdx i) := (List.getElem_cons_eraseIdx_perm within).symm
  exact (taken.append_left first).trans List.perm_middle

theorem countP_eraseIdx_add (here : l[i]? = some a) (p : α → Bool) :
    (l.eraseIdx i).countP p + (if p a then 1 else 0) = l.countP p := by
  have counted := (perm_cons_eraseIdx here []).countP_eq p
  rw [List.nil_append, List.nil_append, List.countP_cons] at counted
  exact counted.symm

theorem length_eraseIdx_add_one (here : l[i]? = some a) :
    (l.eraseIdx i).length + 1 = l.length := by
  obtain ⟨within, -⟩ := List.getElem?_eq_some_iff.mp here
  exact List.length_eraseIdx_add_one within

theorem mem_eraseIdx_or_eq (here : l[i]? = some a) {b : α} (there : b ∈ l) :
    b ∈ l.eraseIdx i ∨ b = a :=
  (List.mem_cons.mp ((perm_cons_eraseIdx here []).mem_iff.mp there)).symm

theorem mem_eraseIdx_of_ne (here : l[i]? = some a) {b : α} (there : b ∈ l) (other : b ≠ a) :
    b ∈ l.eraseIdx i :=
  (mem_eraseIdx_or_eq here there).resolve_right other

theorem mem_set_of_ne (here : l[i]? = some a) {b : α} (there : b ∈ l) (other : b ≠ a) (c : α) :
    b ∈ l.set i c := by
  have left := mem_eraseIdx_of_ne here there other
  obtain ⟨before, after, -, erased, replaced⟩ := exists_split_of_getElem? here
  rw [erased, List.mem_append] at left
  rw [replaced c, List.mem_append, List.mem_cons]
  exact left.imp_right .inr

/-- Lists that differ in one member differ at its place only. -/
theorem getElem?_replace (before after : List α) (a b : α) (i : Nat) :
    (before ++ b :: after)[i]? =
      if i = before.length then some b else (before ++ a :: after)[i]? := by
  rw [List.getElem?_append, List.getElem?_append, List.getElem?_cons, List.getElem?_cons]
  by_cases early : i < before.length
  · rw [if_pos early, if_pos early, if_neg (Nat.ne_of_lt early)]
  · rw [if_neg early, if_neg early]
    by_cases here : i = before.length
    · rw [if_pos here, if_pos (by omega)]
    · rw [if_neg here, if_neg (by omega), if_neg (by omega)]

/-- Who has a key of their own is the only one that a filter by key takes out. -/
theorem filter_ne_eq_eraseIdx {β : Type} [DecidableEq β] {key : α → β}
    (distinct : (l.map key).Nodup) (here : l[i]? = some a) :
    l.filter (fun b => key b ≠ key a) = l.eraseIdx i := by
  obtain ⟨before, after, split, erased, -⟩ := exists_split_of_getElem? here
  rw [split, List.map_append, List.map_cons, List.nodup_append, List.nodup_cons] at distinct
  obtain ⟨-, ⟨notAfter, -⟩, apart⟩ := distinct
  have keepBefore : before.filter (fun b => key b ≠ key a) = before := by
    apply List.filter_eq_self.mpr
    intro b there
    exact decide_eq_true (apart _ (List.mem_map_of_mem there) _ List.mem_cons_self)
  have keepAfter : after.filter (fun b => key b ≠ key a) = after := by
    apply List.filter_eq_self.mpr
    intro b there
    exact decide_eq_true fun same => notAfter (same ▸ List.mem_map_of_mem there)
  rw [erased, split, List.filter_append, List.filter_cons, keepBefore, keepAfter]
  simp

theorem filter_key_eq {β : Type} [DecidableEq β] {key : α → β} (distinct : (l.map key).Nodup)
    (there : a ∈ l) : (l.filter fun b => key b = key a) = [a] := by
  induction l with
  | nil => cases there
  | cons b rest ih =>
    obtain ⟨first, distinct⟩ := List.nodup_cons.mp distinct
    rcases List.mem_cons.mp there with rfl | later
    · rw [List.filter_cons_of_pos (by simp), List.cons_inj_right, List.filter_eq_nil_iff]
      intro other found same
      exact first (List.mem_map.mpr ⟨other, found, of_decide_eq_true same⟩)
    · have differ : key b ≠ key a := fun same => first (List.mem_map.mpr ⟨a, later, same.symm⟩)
      rw [List.filter_cons_of_neg (by simpa using differ)]
      exact ih distinct later

/-- Disjoint parts of a list that have a member of a kind each are no more than these members. -/
theorem length_le_countP_flatten {parts : List (List α)} {p : α → Bool}
    (within : parts.flatten.Sublist l) (each : ∀ part ∈ parts, part.any p = true) :
    parts.length ≤ l.countP p := by
  refine Nat.le_trans ?_ within.countP_le
  clear within
  induction parts with
  | nil => exact Nat.zero_le _
  | cons part rest ih =>
    have first : 0 < part.countP p :=
      List.countP_pos_iff.mpr (List.any_eq_true.mp (each part List.mem_cons_self))
    have later := ih fun other there => each other (List.mem_cons_of_mem _ there)
    rw [List.flatten_cons, List.countP_append, List.length_cons]
    omega

end DeviceWatch
