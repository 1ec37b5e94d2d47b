import DeviceWatch.Alert.Fingerprint
import DeviceWatch.Proofs.Text.Lower

/-!
# The identity of a finding

A normalised text consists of words in lower case with single blanks between them.  Normalising it
again changes nothing, and it fits on a line; so the text that identifies a finding can be taken apart
into its lines again.  Blanks in front of a key are lost, and that is how the same attributes can be
listed in any order.
-/

namespace DeviceWatch

open Text

theorem mem_intercalate {sep c : Char} {ws : List (List Char)} (there : c ∈ [sep].intercalate ws) :
    c = sep ∨ ∃ w ∈ ws, c ∈ w := by
  induction ws with
  | nil => simp at there
  | cons w rest ih =>
    cases rest with
    | nil => exact .inr ⟨w, List.mem_cons_self, by simpa using there⟩
    | cons v rest =>
      rw [List.intercalate_cons_cons, List.mem_append, List.mem_append, List.mem_singleton] at there
      rcases there with (own | between) | later
      · exact .inr ⟨w, List.mem_cons_self, own⟩
      · exact .inl between
      · rcases ih later with between | ⟨x, listed, own⟩
        · exact .inl between
        · exact .inr ⟨x, .tail w listed, own⟩

theorem toList_normalize_eq (s : String) :
    (normalize s).toList = lowerChars [] ([' '].intercalate (words s)) := by
  simp [normalize, lowercase, Function.comp_def]

theorem normalize_spaced (s : String) :
    ∃ ws, LowerWords ws ∧ (normalize s).toList = [' '].intercalate ws := by
  obtain ⟨ws, -, lower, read⟩ := exists_lowerChars_intercalate (clean_pieces isBlank s.toList) []
  exact ⟨ws, lower, (toList_normalize_eq s).trans read⟩

theorem normalize_of_spaced {s : String} {ws : List (List Char)} (lower : LowerWords ws)
    (spaced : s.toList = [' '].intercalate ws) : normalize s = s := by
  have found : words s = ws := by
    rw [words, spaced]
    exact pieces_intercalate lower.1 (by decide)
  have settled : ∀ c ∈ [' '].intercalate ws, IsLower c := by
    intro c there
    rcases mem_intercalate there with rfl | ⟨w, listed, own⟩
    · decide +kernel
    · exact lower.2 w listed c own
  apply String.toList_inj.mp
  rw [toList_normalize_eq, found, lowerChars_of_isLower settled, spaced]

@[simp] theorem normalize_normalize (s : String) : normalize (normalize s) = normalize s := by
  obtain ⟨ws, lower, spaced⟩ := normalize_spaced s
  exact normalize_of_spaced lower spaced

theorem newline_not_mem_normalize (s : String) : '\n' ∉ (normalize s).toList := by
  obtain ⟨ws, lower, spaced⟩ := normalize_spaced s
  rw [spaced]
  intro there
  rcases mem_intercalate there with blank | ⟨w, listed, own⟩
  · cases blank
  · have visible := (lower.1 w listed).2 '\n' own
    cases visible

theorem normalize_blanks_append {blanks : String} (blank : isBlankText blanks = true) (s : String) :
    normalize (blanks ++ s) = normalize s := by
  have same : words (blanks ++ s) = words s := by
    rw [words, String.toList_append]
    exact pieces_append_of_separators (List.all_eq_true.mp blank) s.toList
  rw [normalize, same, normalize]

theorem splitOnChar_intercalate {lines : List String} (some' : lines ≠ [])
    (free : ∀ line ∈ lines, '\n' ∉ line.toList) :
    splitOnChar '\n' ("\n".intercalate lines) = lines := by
  have chars : splitChars '\n' ("\n".intercalate lines).toList = lines.map String.toList := by
    rw [String.toList_intercalate, splitChars_eq_splitOn]
    apply List.splitOn_intercalate
    · intro l there
      obtain ⟨line, listed, rfl⟩ := List.mem_map.mp there
      exact free line listed
    · simpa using some'
  rw [splitOnChar, chars, List.map_map]
  simp [Function.comp_def]

namespace Finding

variable {f g : Finding}

theorem newline_not_mem_deviceIdentity (f : Finding) : '\n' ∉ f.deviceIdentity.toList := by
  unfold deviceIdentity
  cases f.device with
  | none => simp
  | some name => exact newline_not_mem_normalize name

theorem newline_not_mem_attributeLines (f : Finding) :
    ∀ line ∈ f.attributeLines, '\n' ∉ line.toList := by
  intro line there
  obtain ⟨⟨key, value⟩, -, rfl⟩ := List.mem_map.mp there
  simp [newline_not_mem_normalize]

/-- The lines of the text that is hashed are what the source system, the device and the type of alert
are, and then those of the attributes. -/
theorem splitOnChar_identityText (f : Finding) :
    splitOnChar '\n' f.identityText = normalize f.sourceSystem :: f.deviceIdentity ::
      normalize f.alertType :: f.attributeLines := by
  apply splitOnChar_intercalate (List.cons_ne_nil _ _)
  intro line there
  simp only [List.mem_cons] at there
  rcases there with rfl | rfl | rfl | listed
  · exact newline_not_mem_normalize f.sourceSystem
  · exact f.newline_not_mem_deviceIdentity
  · exact newline_not_mem_normalize f.alertType
  · exact f.newline_not_mem_attributeLines line listed

/-- The text that is hashed says what the source system, the device and the type of alert are, and
what the lines of the attributes are, one after the other. -/
theorem identityText_eq_iff (f g : Finding) : f.identityText = g.identityText ↔
    normalize f.sourceSystem = normalize g.sourceSystem ∧ f.deviceIdentity = g.deviceIdentity ∧
      normalize f.alertType = normalize g.alertType ∧ f.attributeLines = g.attributeLines := by
  constructor
  · intro same
    have lines := congrArg (splitOnChar '\n') same
    rw [splitOnChar_identityText, splitOnChar_identityText] at lines
    simpa using lines
  · rintro ⟨source, device, alertType, lines⟩
    rw [identityText, identityText, source, device, alertType, lines]

/-- Whatever is in the fields of a finding, they are told apart in the text that is hashed: its lines
are the source system, the device, the type of alert and then one line for each attribute.  So two
findings with one text agree in each of them, and in the number of their attributes. -/
theorem fields_kept_apart (f g : Finding) :
    splitOnChar '\n' f.identityText = normalize f.sourceSystem :: f.deviceIdentity ::
        normalize f.alertType :: f.attributeLines ∧
      (f.identityText = g.identityText ↔
        normalize f.sourceSystem = normalize g.sourceSystem ∧ f.deviceIdentity = g.deviceIdentity ∧
          normalize f.alertType = normalize g.alertType ∧
          f.attributes.entries.length = g.attributes.entries.length ∧
          f.attributeLines = g.attributeLines) := by
  have listed (h : Finding) : h.attributeLines.length = h.attributes.entries.length := by
    rw [attributeLines, List.length_map]
  refine ⟨splitOnChar_identityText f, (identityText_eq_iff f g).trans ?_⟩
  constructor
  · rintro ⟨source, device, alertType, lines⟩
    refine ⟨source, device, alertType, ?_, lines⟩
    rw [← listed f, ← listed g, lines]
  · rintro ⟨source, device, alertType, -, lines⟩
    exact ⟨source, device, alertType, lines⟩

end Finding

def normalPair (p : String × String) : String × String := (normalize p.1, normalize p.2)

/-- The line of an attribute that is in normal form. -/
def pairLine (p : String × String) : String := p.1 ++ "=" ++ p.2

@[simp] theorem normalPair_normalPair (p : String × String) :
    normalPair (normalPair p) = normalPair p := by
  simp [normalPair]

def indented (blanks : String) (p : String × String) : String × String := (blanks ++ p.1, p.2)

theorem normalPair_indented {blanks : String} (blank : isBlankText blanks = true)
    (p : String × String) : normalPair (indented blanks p) = normalPair p := by
  have same := normalize_blanks_append blank p.1
  simp only [normalPair, indented, same]

/-- Attributes with blanks before their keys, so that they are listed in the order in which they are
given. -/
def padded : List (String × String) → List (String × String)
  | [] => []
  | p :: rest => indented " " p :: (padded rest).map (indented "\u3000")

theorem padded_sorted (l : List (String × String)) :
    (padded l).Pairwise fun a b => a.1 < b.1 := by
  induction l with
  | nil => exact .nil
  | cons p rest ih =>
    refine List.pairwise_cons.mpr ⟨?_, ?_⟩
    · intro e there
      obtain ⟨later, -, rfl⟩ := List.mem_map.mp there
      apply String.lt_iff.mpr
      simp only [indented, String.toList_append]
      exact List.cons_lt_cons_iff.mpr (.inl (by decide))
    · apply List.pairwise_map.mpr
      refine ih.imp fun {a b} before => ?_
      apply String.lt_iff.mpr
      simp only [indented, String.toList_append]
      exact List.cons_lt_cons_iff.mpr (.inr ⟨rfl, String.lt_iff.mp before⟩)

theorem map_normalPair_padded (l : List (String × String)) :
    (padded l).map normalPair = l.map normalPair := by
  induction l with
  | nil => rfl
  | cons p rest ih =>
    have narrow : normalPair (indented " " p) = normalPair p := normalPair_indented (by decide) p
    have wide : normalPair ∘ indented "\u3000" = normalPair :=
      funext fun e => normalPair_indented (by decide) e
    rw [padded, List.map_cons, List.map_cons, List.map_map, narrow, wide, ih]

namespace Finding

variable {f : Finding}

/-- The attributes in normal form, in the order in which they are listed. -/
def attributePairs (f : Finding) : List (String × String) := f.attributes.entries.map normalPair

theorem attributeLines_eq (f : Finding) : f.attributeLines = f.attributePairs.map pairLine := by
  rw [attributePairs, List.map_map]
  rfl

theorem normalPair_of_mem {p : String × String} (there : p ∈ f.attributePairs) :
    normalPair p = p := by
  obtain ⟨e, -, rfl⟩ := List.mem_map.mp there
  exact normalPair_normalPair e

def listing (f : Finding) (l : List (String × String)) : Finding :=
  { f with attributes := ⟨padded l, padded_sorted l⟩ }

theorem attributePairs_listing (f : Finding) {l : List (String × String)}
    (normal : ∀ p ∈ l, normalPair p = p) : (f.listing l).attributePairs = l := by
  calc
    (padded l).map normalPair = l.map normalPair := map_normalPair_padded l
    _ = l := (List.map_congr_left normal).trans l.map_id

def linkDown (attributes : List (String × String)) : Finding where
  sourceSystem := "snmp"
  deviceIp := some "10.1.1.1"
  deviceName := none
  alertType := "link_down"
  severity := .major
  category := none
  message := "link is down"
  attributes := .ofList attributes
  observedAt := default
  raw := .null

end Finding

end DeviceWatch
