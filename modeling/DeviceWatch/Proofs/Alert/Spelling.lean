import DeviceWatch.Proofs.Alert.Identity

/-!
# How attributes are spelled

The lines of the attributes say what keys and values are in normal form, but they come in the order of
the keys as they were written.  So it depends on the spelling of the keys in which order the same
attributes are hashed.
-/

namespace DeviceWatch.Finding

variable {f g : Finding}

/-- Two findings agree but for the spelling of what identifies them. -/
structure Respelled (f g : Finding) : Prop where
  sourceSystem : normalize f.sourceSystem = normalize g.sourceSystem
  device : f.deviceIdentity = g.deviceIdentity
  alertType : normalize f.alertType = normalize g.alertType
  attributes : f.attributePairs.Perm g.attributePairs

instance (f g : Finding) : Decidable (f.Respelled g) :=
  decidable_of_iff (normalize f.sourceSystem = normalize g.sourceSystem ∧
      f.deviceIdentity = g.deviceIdentity ∧ normalize f.alertType = normalize g.alertType ∧
      f.attributePairs.Perm g.attributePairs)
    ⟨fun ⟨a, b, c, d⟩ => ⟨a, b, c, d⟩, fun ⟨a, b, c, d⟩ => ⟨a, b, c, d⟩⟩

/-- The keys come in the same order when they are in normal form as they do as they were written, and
none of them come together. -/
def KeysInOrder (f : Finding) : Prop := f.attributePairs.Pairwise fun a b => a.1 < b.1

theorem keysInOrder_of_normal (normal : ∀ e ∈ f.attributes.entries, normalize e.1 = e.1) :
    f.KeysInOrder := by
  apply List.pairwise_map.mpr
  refine f.attributes.sorted.imp_of_mem fun {a b} first second before => ?_
  show normalize a.1 < normalize b.1
  rwa [normal a first, normal b second]

theorem Respelled.identityText_iff (h : f.Respelled g) :
    g.identityText = f.identityText ↔ g.attributeLines = f.attributeLines := by
  rw [identityText_eq_iff]
  constructor
  · exact fun same => same.2.2.2
  · exact fun same => ⟨h.sourceSystem.symm, h.device.symm, h.alertType.symm, same⟩

theorem Respelled.identityText_of_inOrder (h : f.Respelled g) (inOrder : f.KeysInOrder)
    (inOrder' : g.KeysInOrder) : g.identityText = f.identityText := by
  have apart (a b : String × String) (before : a.1 < b.1) (after : b.1 < a.1) : a = b :=
    absurd (String.lt_trans before after) (String.lt_irrefl _)
  have same : f.attributePairs = g.attributePairs :=
    List.Perm.eq_of_pairwise (fun a b _ _ => apart a b) inOrder inOrder' h.attributes
  apply h.identityText_iff.mpr
  rw [attributeLines_eq, attributeLines_eq, same]

theorem exists_respelled (f : Finding) {p : String × String} (there : p ∈ f.attributePairs) :
    ∃ g, f.Respelled g ∧ g.attributeLines.head? = some (pairLine p) := by
  let l := p :: f.attributePairs.erase p
  have same : f.attributePairs.Perm l := List.perm_cons_erase there
  have pairs : (f.listing l).attributePairs = l := by
    apply attributePairs_listing
    intro q listed
    exact normalPair_of_mem (same.mem_iff.mpr listed)
  refine ⟨f.listing l, ⟨rfl, rfl, rfl, ?_⟩, ?_⟩
  · rw [pairs]
    exact same
  · rw [attributeLines_eq, pairs]
    rfl

/-- However its attributes are spelled, a finding keeps its identity if and only if all its attributes
have the same line.  In general it does so just for the spellings that list the lines in the same
order; and it does whenever the keys of both findings are in order in normal form, as keys are that
are written in normal form. -/
theorem respelling_keeps_identity_iff (f : Finding) :
    ((∀ g, f.Respelled g → g.identityText = f.identityText) ↔
      ∀ x ∈ f.attributeLines, ∀ y ∈ f.attributeLines, x = y) ∧
    (∀ g, f.Respelled g →
      (g.identityText = f.identityText ↔ g.attributeLines = f.attributeLines) ∧
      (f.KeysInOrder → g.KeysInOrder →
        g.identityText = f.identityText ∧ g.fingerprint = f.fingerprint)) ∧
    ((∀ e ∈ f.attributes.entries, normalize e.1 = e.1) → f.KeysInOrder) := by
  refine ⟨⟨fun keeps x hasX y hasY => ?_, fun alike g respelled => ?_⟩, fun g respelled =>
    ⟨respelled.identityText_iff, fun inOrder inOrder' => ?_⟩, keysInOrder_of_normal⟩
  · -- Whichever attribute is brought to the front, the lines stay as they are.
    have first {line : String} (there : line ∈ f.attributeLines) :
        f.attributeLines.head? = some line := by
      rw [attributeLines_eq] at there
      obtain ⟨p, listed, rfl⟩ := List.mem_map.mp there
      obtain ⟨g, respelled, leads⟩ := f.exists_respelled listed
      rwa [respelled.identityText_iff.mp (keeps g respelled)] at leads
    exact Option.some.inj ((first hasX).symm.trans (first hasY))
  · have lines : f.attributeLines.Perm g.attributeLines := by
      rw [attributeLines_eq, attributeLines_eq]
      exact respelled.attributes.map pairLine
    have all : f.attributeLines.Pairwise (· = ·) := List.pairwise_of_forall_mem_list alike
    have all' : g.attributeLines.Pairwise (· = ·) := by
      apply List.pairwise_of_forall_mem_list
      intro x hasX y hasY
      exact alike x (lines.mem_iff.mpr hasX) y (lines.mem_iff.mpr hasY)
    apply respelled.identityText_iff.mpr
    exact (lines.eq_of_pairwise (fun _ _ _ _ same _ => same) all all').symm
  · have same := respelled.identityText_of_inOrder inOrder inOrder'
    exact ⟨same, congrArg Sha256.ofText same⟩

/-- A capital letter in a key changes the order of the lines, and with it what is hashed. -/
theorem not_respelling_keeps_identity :
    let f := linkDown [("a", "2"), ("B", "1")]
    let g := linkDown [("a", "2"), ("b", "1")]
    f.Respelled g ∧ f.identityText ≠ g.identityText ∧ f.fingerprint ≠ g.fingerprint := by
  decide +kernel

end DeviceWatch.Finding
