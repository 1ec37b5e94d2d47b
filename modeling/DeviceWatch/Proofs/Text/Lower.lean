import DeviceWatch.Proofs.Text.Words
import DeviceWatch.Text.Case

/-!
# Lower case

Lower-casing leaves no character that it would change again, and it makes no blanks, so that the words
of a text stay where they are.
-/

namespace DeviceWatch.Text

def capitals : CaseRun := ⟨0x41, 0x5A, 1, 32⟩

def dottedCapital : CaseRun := ⟨0x130, 0x130, 1, 0⟩

def changingRuns : List CaseRun := capitals :: dottedCapital :: lowerRuns

def blankRuns : List CaseRun :=
  [⟨9, 13, 1, 0⟩, ⟨0x20, 0x20, 1, 0⟩, ⟨0x85, 0x85, 1, 0⟩, ⟨0xA0, 0xA0, 1, 0⟩, ⟨0x1680, 0x1680, 1, 0⟩,
    ⟨0x2000, 0x200A, 1, 0⟩, ⟨0x2028, 0x2029, 1, 0⟩, ⟨0x202F, 0x202F, 1, 0⟩, ⟨0x205F, 0x205F, 1, 0⟩,
    ⟨0x3000, 0x3000, 1, 0⟩]

namespace CaseRun

variable {r other : CaseRun} {n : Nat}

/-- The run lies before or after the characters that the other run moves to, or between them. -/
def avoids (other r : CaseRun) : Bool :=
  let first := (r.first + r.offset).toNat
  let last := (r.last + r.offset).toNat
  Nat.blt last other.first || (Nat.blt other.last first ||
    (Nat.beq other.step 2 && ((Nat.beq r.step 2 || Nat.beq first last) &&
      !Nat.beq (first % 2) (other.first % 2))))

theorem covers_iff : r.covers n = true ↔
    r.first ≤ n ∧ n ≤ r.last ∧ (n - r.first) % r.step = 0 := by
  simp [covers, and_assoc]

theorem covers_of_avoids (apart : other.avoids r = true) (stays : 0 ≤ r.first + r.offset)
    (covered : r.covers n = true) : other.covers (n + r.offset).toNat = false := by
  obtain ⟨above, below, inStep⟩ := covers_iff.mp covered
  apply eq_false_of_ne_true
  intro hit
  obtain ⟨above', below', inStep'⟩ := covers_iff.mp hit
  simp only [avoids, Bool.or_eq_true, Bool.and_eq_true, Bool.not_eq_true', Nat.blt_eq,
    Nat.beq_eq] at apart
  rcases apart with before | after | ⟨alternates, single, parity⟩
  · omega
  · omega
  · have parity := Nat.ne_of_beq_eq_false parity
    rw [alternates] at inStep'
    rcases single with alternates' | single
    · rw [alternates'] at inStep
      omega
    · omega

end CaseRun

/-- What letters become is not blank and does not change again.  The runs are compared as wholes, since
there are too many characters to be looked up one by one. -/
theorem moved_settle :
    ((capitals :: lowerRuns).all fun r => decide (0 ≤ r.first + r.offset) &&
      (blankRuns ++ changingRuns).all fun other => other.avoids r) = true := by
  decide +kernel

variable {c d : Char}

theorem isBlank_iff : isBlank c = true ↔ ∃ r ∈ blankRuns, r.covers c.toNat = true := by
  simp [isBlank, blankRuns, CaseRun.covers_iff, Nat.mod_one]
  omega

/-- The lower-case form of the character is the character itself, wherever it stands. -/
def IsLower (c : Char) : Prop := lowerChar c = [c] ∧ c ≠ capitalSigma

instance (c : Char) : Decidable (IsLower c) := inferInstanceAs (Decidable (_ ∧ _))

/-- A character is in lower case, or it is one of the letters that move, or the capital with a
dot. -/
theorem lowerChar_cases (c : Char) :
    IsLower c ∨
    (∃ r ∈ capitals :: lowerRuns, r.covers c.toNat = true ∧
      lowerChar c = [Char.ofNat (c.toNat + r.offset).toNat]) ∨
    c.toNat = 0x130 ∧ lowerChar c = ['i', Char.ofNat 0x307] := by
  by_cases ascii : c.toNat < 128
  · by_cases capital : 'A' ≤ c ∧ c ≤ 'Z'
    · refine .inr (.inl ⟨capitals, List.mem_cons_self, ?_, ?_⟩)
      · exact CaseRun.covers_iff.mpr ⟨capital.1, capital.2, Nat.mod_one _⟩
      · rw [lowerChar, if_pos ascii, asciiLowerChar, if_pos capital]
        rfl
    · refine .inl ⟨?_, ?_⟩
      · rw [lowerChar, if_pos ascii, asciiLowerChar, if_neg capital]
      · rintro rfl
        exact absurd ascii (by decide)
  · by_cases dotted : c.toNat = 0x130
    · refine .inr (.inr ⟨dotted, ?_⟩)
      rw [lowerChar, if_neg ascii, if_pos dotted]
    · cases found : lowerRuns.find? (·.covers c.toNat) with
      | some r =>
        refine .inr (.inl ⟨r, .tail _ (List.mem_of_find?_eq_some found), ?_, ?_⟩)
        · simpa using List.find?_some found
        · rw [lowerChar, if_neg ascii, if_neg dotted, mapCase, found]
      | none =>
        refine .inl ⟨?_, ?_⟩
        · rw [lowerChar, if_neg ascii, if_neg dotted, mapCase, found]
        · rintro rfl
          cases found

theorem isLower_of_uncovered (stays : ∀ r ∈ changingRuns, r.covers c.toNat = false) :
    IsLower c := by
  rcases lowerChar_cases c with lower | ⟨r, known, covered, -⟩ | ⟨dotted, -⟩
  · exact lower
  · have changes : r ∈ changingRuns := by
      rcases List.mem_cons.mp known with rfl | listed
      · exact List.mem_cons_self
      · exact .tail _ (.tail _ listed)
    rw [stays r changes] at covered
    cases covered
  · have kept := stays dottedCapital (.tail _ List.mem_cons_self)
    rw [dotted] at kept
    cases kept

theorem toNat_ofNat_or (n : Nat) : (Char.ofNat n).toNat = n ∨ (Char.ofNat n).toNat = 0 := by
  by_cases valid : n.isValidChar
  · rw [Char.ofNat, dif_pos valid]
    exact .inl rfl
  · rw [Char.ofNat, dif_neg valid]
    exact .inr rfl

theorem isLower_moved {r : CaseRun} {n : Nat} (known : r ∈ capitals :: lowerRuns)
    (covered : r.covers n = true) :
    IsLower (Char.ofNat (n + r.offset).toNat) ∧ isBlank (Char.ofNat (n + r.offset).toNat) = false := by
  have settled := List.all_eq_true.mp moved_settle r known
  rw [Bool.and_eq_true, decide_eq_true_eq, List.all_eq_true] at settled
  have misses : ∀ other ∈ blankRuns ++ changingRuns,
      other.covers (Char.ofNat (n + r.offset).toNat).toNat = false := by
    intro other there
    -- A number that is no character is replaced by the character 0, which lies in no run.
    rcases toNat_ofNat_or (n + r.offset).toNat with valid | replaced
    · rw [valid]
      exact CaseRun.covers_of_avoids (settled.2 other there) settled.1 covered
    · have positive : (blankRuns ++ changingRuns).all (!·.covers 0) = true := by decide +kernel
      rw [replaced]
      simpa using List.all_eq_true.mp positive other there
  constructor
  · exact isLower_of_uncovered fun other there => misses other (List.mem_append_right _ there)
  · apply eq_false_of_ne_true
    intro blank
    obtain ⟨other, there, hit⟩ := isBlank_iff.mp blank
    rw [misses other (List.mem_append_left _ there)] at hit
    cases hit

/-- Lower-casing leaves nothing to change, and makes no blanks. -/
theorem isLower_of_mem_lowerChar (there : d ∈ lowerChar c) :
    IsLower d ∧ (isBlank c = false → isBlank d = false) := by
  rcases lowerChar_cases c with lower | ⟨r, known, covered, moved⟩ | ⟨-, moved⟩
  · rw [lower.1, List.mem_singleton] at there
    rw [there]
    exact ⟨lower, id⟩
  · rw [moved, List.mem_singleton] at there
    obtain ⟨lower, visible⟩ := isLower_moved known covered
    rw [there]
    exact ⟨lower, fun _ => visible⟩
  · rw [moved, List.mem_cons, List.mem_singleton] at there
    rcases there with rfl | rfl
    · exact ⟨by decide +kernel, fun _ => by decide +kernel⟩
    · exact ⟨by decide +kernel, fun _ => by decide +kernel⟩

theorem lowerChar_ne_nil (c : Char) : lowerChar c ≠ [] := by
  rcases lowerChar_cases c with lower | ⟨r, -, -, moved⟩ | ⟨-, moved⟩
  · simp [lower.1]
  · simp [moved]
  · simp [moved]

theorem isLower_lowerSigma (before after : List Char) :
    IsLower (lowerSigma before after) ∧ isBlank (lowerSigma before after) = false := by
  unfold lowerSigma
  split
  · exact ⟨by decide +kernel, by decide +kernel⟩
  · exact ⟨by decide +kernel, by decide +kernel⟩

variable {cs w : List Char} {ws : List (List Char)}

theorem lowerChars_of_isLower (lower : ∀ c ∈ cs, IsLower c) (before : List Char) :
    lowerChars before cs = cs := by
  induction cs generalizing before with
  | nil => rfl
  | cons c rest ih =>
    obtain ⟨same, notSigma⟩ := lower c List.mem_cons_self
    rw [lowerChars, if_neg notSigma, same, ih fun d there => lower d (.tail c there)]
    rfl

/-- Words whose characters are in lower case. -/
def LowerWords (ws : List (List Char)) : Prop :=
  Clean isBlank ws ∧ ∀ w ∈ ws, ∀ c ∈ w, IsLower c

/-- A word becomes a word, whatever stands around it. -/
theorem exists_lowerChars_append (visible : ∀ c ∈ w, isBlank c = false) (before rest : List Char) :
    ∃ v, lowerChars before (w ++ rest) = v ++ lowerChars (w.reverse ++ before) rest ∧
      (w ≠ [] → v ≠ []) ∧ (∀ d ∈ v, isBlank d = false) ∧ ∀ d ∈ v, IsLower d := by
  -- A capital sigma looks at the text on both sides, so the whole context goes along.
  induction w generalizing before with
  | nil => exact ⟨[], rfl, id, by simp, by simp⟩
  | cons c w ih =>
    obtain ⟨v, read, -, visible', lower⟩ := ih (fun d there => visible d (.tail c there)) (c :: before)
    let first := if c = capitalSigma then [lowerSigma before (w ++ rest)] else lowerChar c
    have firstOk : first ≠ [] ∧ ∀ d ∈ first, isBlank d = false ∧ IsLower d := by
      simp only [first]
      split
      · obtain ⟨lower, shown⟩ := isLower_lowerSigma before (w ++ rest)
        simp [lower, shown]
      · refine ⟨lowerChar_ne_nil c, fun d there => ?_⟩
        obtain ⟨lower, shown⟩ := isLower_of_mem_lowerChar there
        exact ⟨shown (visible c List.mem_cons_self), lower⟩
    refine ⟨first ++ v, ?_, by simp [firstOk.1], ?_, ?_⟩
    · calc
        lowerChars before (c :: (w ++ rest))
          = first ++ lowerChars (c :: before) (w ++ rest) := rfl
        _ = first ++ v ++ lowerChars ((c :: w).reverse ++ before) rest := by
          rw [read, List.append_assoc]
          simp
    · intro d there
      rcases List.mem_append.mp there with new | old
      · exact (firstOk.2 d new).1
      · exact visible' d old
    · intro d there
      rcases List.mem_append.mp there with new | old
      · exact (firstOk.2 d new).2
      · exact lower d old

theorem exists_lowerChars_intercalate (clean : Clean isBlank ws) (before : List Char) :
    ∃ vs, vs.length = ws.length ∧ LowerWords vs ∧
      lowerChars before ([' '].intercalate ws) = [' '].intercalate vs := by
  induction ws generalizing before with
  | nil => exact ⟨[], rfl, ⟨by simp [Clean], by simp⟩, rfl⟩
  | cons w rest ih =>
    obtain ⟨some', visible⟩ := clean w List.mem_cons_self
    have others : Clean isBlank rest := fun v there => clean v (.tail w there)
    cases rest with
    | nil =>
      obtain ⟨v, read, ne, visible', lower⟩ := exists_lowerChars_append visible before []
      refine ⟨[v], rfl, ⟨?_, ?_⟩, ?_⟩
      · simpa [Clean] using ⟨ne some', visible'⟩
      · simpa using lower
      · simpa [lowerChars] using read
    | cons next rest =>
      let tail := ' ' :: [' '].intercalate (next :: rest)
      obtain ⟨v, read, ne, visible', lower⟩ := exists_lowerChars_append visible before tail
      obtain ⟨vs, sameLength, lowerWords, read'⟩ := ih others (' ' :: (w.reverse ++ before))
      obtain ⟨u, us, rfl⟩ := List.exists_cons_of_length_eq_add_one sameLength
      refine ⟨v :: u :: us, congrArg (· + 1) sameLength, ⟨?_, ?_⟩, ?_⟩
      · intro x there
        rcases List.mem_cons.mp there with rfl | later
        · exact ⟨ne some', visible'⟩
        · exact lowerWords.1 x later
      · intro x there
        rcases List.mem_cons.mp there with rfl | later
        · exact lower
        · exact lowerWords.2 x later
      · calc
          lowerChars before ([' '].intercalate (w :: next :: rest))
            = lowerChars before (w ++ tail) := by
              rw [List.intercalate_cons_cons, List.append_assoc]
              rfl
          _ = v ++ ' ' :: lowerChars (' ' :: (w.reverse ++ before))
                ([' '].intercalate (next :: rest)) := read
          _ = [' '].intercalate (v :: u :: us) := by
            rw [read', List.intercalate_cons_cons, List.append_assoc]
            rfl

end DeviceWatch.Text
