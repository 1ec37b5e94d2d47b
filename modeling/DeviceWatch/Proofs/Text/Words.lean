import DeviceWatch.Text.Blank

/-!
# The pieces of a text

The pieces between separators are not empty and hold no separator.  Pieces that are joined by a
separator are found again, and separators in front of a text do not matter.
-/

namespace DeviceWatch.Text

/-- None of them is empty or holds a separator. -/
def Clean (sep : Char → Bool) (ws : List (List Char)) : Prop :=
  ∀ w ∈ ws, w ≠ [] ∧ ∀ c ∈ w, sep c = false

variable {sep : Char → Bool} {ws : List (List Char)} {w cs : List Char} {c : Char}

/-- The pieces that were read, of which the first one may have gone on to the left. -/
def close (read : List (List Char) × List Char) : List (List Char) :=
  if read.2.isEmpty then read.1 else read.2 :: read.1

/-- The pieces of a text that is read from its end, and the piece that may go on to the left. -/
def scan (sep : Char → Bool) : List Char → List (List Char) × List Char
  | [] => ([], [])
  | c :: rest =>
    if sep c then (close (scan sep rest), []) else ((scan sep rest).1, c :: (scan sep rest).2)

theorem pieces_eq_close (sep : Char → Bool) (cs : List Char) :
    pieces sep cs = close (scan sep cs) := by
  have read : cs.foldr (fun c r => if sep c then (close r, []) else (r.1, c :: r.2)) ([], []) =
      scan sep cs := by
    induction cs with
    | nil => rfl
    | cons c rest ih =>
      rw [List.foldr_cons, ih]
      rfl
  rw [← read]
  rfl

theorem scan_of_separator (separates : sep c = true) (rest : List Char) :
    scan sep (c :: rest) = (pieces sep rest, []) := by
  rw [pieces_eq_close]
  simp only [scan, separates, if_true]

/-- Characters that separate nothing go to the piece on their right. -/
theorem scan_append (clean : ∀ c ∈ w, sep c = false) (cs : List Char) :
    scan sep (w ++ cs) = ((scan sep cs).1, w ++ (scan sep cs).2) := by
  induction w with
  | nil => rfl
  | cons c rest ih =>
    have first : sep c = false := clean c List.mem_cons_self
    have others : ∀ d ∈ rest, sep d = false := fun d there => clean d (.tail c there)
    rw [List.cons_append, scan, ih others]
    simp only [first, Bool.false_eq_true, if_false]
    rfl

theorem pieces_of_separator (separates : sep c = true) (rest : List Char) :
    pieces sep (c :: rest) = pieces sep rest := by
  rw [pieces_eq_close, scan_of_separator separates]
  rfl

theorem pieces_append_of_separators (separate : ∀ c ∈ w, sep c = true) (cs : List Char) :
    pieces sep (w ++ cs) = pieces sep cs := by
  induction w with
  | nil => rfl
  | cons c rest ih =>
    rw [List.cons_append, pieces_of_separator (separate c List.mem_cons_self)]
    exact ih fun d there => separate d (.tail c there)

theorem pieces_of_clean (some' : w ≠ []) (clean : ∀ c ∈ w, sep c = false) : pieces sep w = [w] := by
  have whole : scan sep w = ([], w) := by
    have read := scan_append clean []
    simpa only [scan, List.append_nil] using read
  rw [pieces_eq_close, whole]
  simp [close, some']

theorem pieces_append_cons (some' : w ≠ []) (clean : ∀ c ∈ w, sep c = false)
    (separates : sep c = true) (rest : List Char) :
    pieces sep (w ++ c :: rest) = w :: pieces sep rest := by
  rw [pieces_eq_close, scan_append clean, scan_of_separator separates]
  simp [close, some']

theorem clean_pieces (sep : Char → Bool) (cs : List Char) : Clean sep (pieces sep cs) := by
  have closed (read : List (List Char) × List Char) (clean : Clean sep read.1)
      (last : ∀ c ∈ read.2, sep c = false) : Clean sep (close read) := by
    unfold close
    split
    · exact clean
    · rename_i some'
      intro w there
      rcases List.mem_cons.mp there with rfl | before
      · exact ⟨by simpa using some', last⟩
      · exact clean w before
  have read : Clean sep (scan sep cs).1 ∧ ∀ c ∈ (scan sep cs).2, sep c = false := by
    induction cs with
    | nil => simp [scan, Clean]
    | cons c rest ih =>
      cases separates : sep c with
      | true =>
        rw [scan_of_separator separates, pieces_eq_close]
        exact ⟨closed _ ih.1 ih.2, by simp⟩
      | false =>
        simp only [scan, separates, Bool.false_eq_true, if_false]
        refine ⟨ih.1, ?_⟩
        intro d there
        rcases List.mem_cons.mp there with rfl | before
        · exact separates
        · exact ih.2 d before
  rw [pieces_eq_close]
  exact closed _ read.1 read.2

theorem pieces_intercalate (clean : Clean sep ws) (separates : sep c = true) :
    pieces sep ([c].intercalate ws) = ws := by
  induction ws with
  | nil => rfl
  | cons w rest ih =>
    obtain ⟨some', own⟩ := clean w List.mem_cons_self
    have others : Clean sep rest := fun v there => clean v (.tail w there)
    cases rest with
    | nil => simpa using pieces_of_clean some' own
    | cons v rest =>
      rw [List.intercalate_cons_cons, List.append_assoc, List.singleton_append,
        pieces_append_cons some' own separates, ih others]

theorem splitChars_eq_splitOn (c : Char) (cs : List Char) : splitChars c cs = cs.splitOn c := by
  induction cs with
  | nil => rfl
  | cons d rest ih =>
    rw [splitChars, ih, List.splitOn_cons_eq_if_modifyHead]
    by_cases same : d = c
    · rw [if_pos same, if_pos (beq_iff_eq.mpr same)]
    · rw [if_neg same, if_neg (mt beq_iff_eq.mp same)]
      cases parts : rest.splitOn c with
      | nil => exact absurd parts (List.splitOn_ne_nil c rest)
      | cons part parts => rfl

end DeviceWatch.Text
