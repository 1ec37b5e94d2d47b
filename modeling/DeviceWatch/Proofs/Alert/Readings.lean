import DeviceWatch.Proofs.Alert.Identity

/-!
# How the lines of attributes are read

Nothing marks the sign between the key and the value of an attribute.  A line in which the sign stands
once is read in one way only, but a key or a value may have the sign in it, and then different
attributes may share a line.
-/

namespace DeviceWatch.Finding

variable {f g : Finding} {p q : String × String}

/-- The line is that of an attribute in normal form. -/
def Reads (line : String) (p : String × String) : Prop := normalPair p = p ∧ pairLine p = line

/-- Each line of the finding is that of one attribute only. -/
def Unambiguous (f : Finding) : Prop :=
  ∀ line ∈ f.attributeLines, ∀ p q, Reads line p → Reads line q → p = q

/-- No key has the sign in it that stands between keys and values. -/
def PlainKeys (f : Finding) : Prop := ∀ p ∈ f.attributePairs, '=' ∉ p.1.toList

def PlainValues (f : Finding) : Prop := ∀ p ∈ f.attributePairs, '=' ∉ p.2.toList

theorem toList_pairLine (p : String × String) :
    (pairLine p).toList = p.1.toList ++ '=' :: p.2.toList := by
  simp [pairLine]

theorem pairLine_inj (plain : '=' ∉ p.1.toList) (plain' : '=' ∉ q.1.toList)
    (same : pairLine p = pairLine q) : p = q := by
  have upToSign {r : String × String} (plain : '=' ∉ r.1.toList) :
      (pairLine r).toList.takeWhile (· ≠ '=') = r.1.toList := by
    have before : ∀ c ∈ r.1.toList, decide (c ≠ '=') = true := fun c there =>
      decide_eq_true fun sign => plain (sign ▸ there)
    rw [toList_pairLine, List.takeWhile_append_of_pos before]
    simp
  have keys : p.1.toList = q.1.toList := by
    rw [← upToSign plain, same, upToSign plain']
  have lines : p.1.toList ++ '=' :: p.2.toList = q.1.toList ++ '=' :: q.2.toList := by
    rw [← toList_pairLine, same, toList_pairLine]
  rw [keys] at lines
  have values : p.2.toList = q.2.toList :=
    List.tail_eq_of_cons_eq (List.append_cancel_left lines)
  exact Prod.ext (String.toList_inj.mp keys) (String.toList_inj.mp values)

theorem plain_of_pairLine_eq (key : '=' ∉ p.1.toList) (value : '=' ∉ p.2.toList)
    (same : pairLine q = pairLine p) : '=' ∉ q.1.toList := by
  have signs (r : String × String) :
      (pairLine r).toList.count '=' = r.1.toList.count '=' + (r.2.toList.count '=' + 1) := by
    rw [toList_pairLine, List.count_append, List.count_cons_self]
  have once := signs p
  rw [List.count_eq_zero_of_not_mem key, List.count_eq_zero_of_not_mem value, ← same, signs q] at once
  apply List.count_eq_zero.mp
  omega

/-- Attributes whose lines are the same, and read in one way only, are the same. -/
theorem eq_of_map_pairLine_eq {l m : List (String × String)}
    (same : m.map pairLine = l.map pairLine)
    (single : ∀ q ∈ m, ∀ p ∈ l, pairLine q = pairLine p → q = p) : m = l := by
  induction l generalizing m with
  | nil => simpa using same
  | cons p rest ih =>
    cases m with
    | nil => simp at same
    | cons q others =>
      rw [List.map_cons, List.map_cons, List.cons.injEq] at same
      have first := single q List.mem_cons_self p List.mem_cons_self same.1
      have later := ih same.2 fun x hasX y hasY => single x (.tail q hasX) y (.tail p hasY)
      rw [first, later]

theorem attributeLines_of_identityText (same : g.identityText = f.identityText) :
    g.attributePairs.map pairLine = f.attributePairs.map pairLine := by
  rw [← attributeLines_eq, ← attributeLines_eq]
  exact ((identityText_eq_iff g f).mp same).2.2.2

/-- An attribute may be replaced by any other one that has its line. -/
theorem exists_misread {before after : List (String × String)}
    (listed : f.attributePairs = before ++ p :: after) (reads : Reads (pairLine p) q) :
    ∃ g : Finding, g.identityText = f.identityText ∧ g.attributePairs = before ++ q :: after := by
  have pairs : (f.listing (before ++ q :: after)).attributePairs = before ++ q :: after := by
    apply attributePairs_listing
    intro r there
    have kept (other : r ∈ before ∨ r ∈ after) : normalPair r = r := by
      apply normalPair_of_mem (f := f)
      rw [listed]
      rcases other with early | late
      · exact List.mem_append_left _ early
      · exact List.mem_append_right _ (.tail p late)
    rcases List.mem_append.mp there with early | late
    · exact kept (.inl early)
    · rcases List.mem_cons.mp late with rfl | late
      · exact reads.1
      · exact kept (.inr late)
  refine ⟨f.listing (before ++ q :: after), ?_, pairs⟩
  apply (identityText_eq_iff _ _).mpr
  refine ⟨rfl, rfl, rfl, ?_⟩
  rw [attributeLines_eq, attributeLines_eq, pairs, listed]
  simp [reads.2]

/-- The text that is hashed tells the attributes of a finding from those of any other finding if and
only if each of its lines can be read in one way only.  So it does if neither keys nor values have the
sign in them that stands between them; and it tells two findings apart if no key of either has it. -/
theorem attributes_told_apart_iff (f : Finding) :
    ((∀ g : Finding, g.identityText = f.identityText → g.attributePairs.Perm f.attributePairs) ↔
      f.Unambiguous) ∧
    ∀ g : Finding, g.identityText = f.identityText → f.PlainKeys → f.PlainValues ∨ g.PlainKeys →
      g.attributePairs = f.attributePairs := by
  refine ⟨⟨fun apart line there => ?_, fun single g same => ?_⟩, fun g same plain others => ?_⟩
  · rw [attributeLines_eq] at there
    obtain ⟨r, listed, rfl⟩ := List.mem_map.mp there
    obtain ⟨before, after, split⟩ := List.append_of_mem listed
    -- What the line of an attribute could also mean might stand in its place.
    have own (p : String × String) (reads : Reads (pairLine r) p) : p = r := by
      obtain ⟨g, same, pairs⟩ := exists_misread split reads
      have perm := apart g same
      rw [pairs, split, List.perm_append_left_iff] at perm
      have swapped : ([p] ++ after).Perm ([r] ++ after) := perm
      rw [List.perm_append_right_iff] at swapped
      exact List.singleton_perm_singleton.mp swapped
    intro p q reads reads'
    rw [own p reads, own q reads']
  · have pairs : g.attributePairs = f.attributePairs := by
      apply eq_of_map_pairLine_eq (attributeLines_of_identityText same)
      intro q hasQ p hasP sameLine
      have line : pairLine p ∈ f.attributeLines := by
        rw [attributeLines_eq]
        exact List.mem_map_of_mem hasP
      exact single _ line q p ⟨normalPair_of_mem hasQ, sameLine⟩ ⟨normalPair_of_mem hasP, rfl⟩
    rw [pairs]
  · apply eq_of_map_pairLine_eq (attributeLines_of_identityText same)
    intro q hasQ p hasP sameLine
    apply pairLine_inj ?_ (plain p hasP) sameLine
    rcases others with values | keys
    · exact plain_of_pairLine_eq (plain p hasP) (values p hasP) sameLine
    · exact keys q hasQ

/-- Two links that share a line: the sign belongs to the key of the one and to the value of the
other. -/
theorem not_attributes_told_apart :
    let f := linkDown [("a=b", "c")]
    let g := linkDown [("a", "b=c")]
    g.identityText = f.identityText ∧ g.fingerprint = f.fingerprint ∧
      ¬g.attributePairs.Perm f.attributePairs := by
  decide +kernel

end DeviceWatch.Finding
