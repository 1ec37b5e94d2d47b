import DeviceWatch.Text.Blank
import DeviceWatch.Text.CaseTable

/-!
Lower and upper case of whole texts.

Lower-casing is the full Unicode mapping: a capital sigma at the end of a word becomes the final
form.  Comparison that ignores case is ASCII only.
-/

namespace DeviceWatch.Text

def inRanges (ranges : List (Nat × Nat)) (c : Char) : Bool :=
  ranges.any fun (first, last) => first ≤ c.toNat && c.toNat ≤ last

/-- The single counterpart of a character in a case table, the character itself by default. -/
def mapCase (table : List CaseRun) (c : Char) : Char :=
  match table.find? (·.covers c.toNat) with
  | some run => Char.ofNat (c.toNat + run.offset).toNat
  | none => c

def asciiLowerChar (c : Char) : Char := if 'A' ≤ c ∧ c ≤ 'Z' then Char.ofNat (c.toNat + 32) else c

def asciiUpperChar (c : Char) : Char := if 'a' ≤ c ∧ c ≤ 'z' then Char.ofNat (c.toNat - 32) else c

def asciiLower (s : String) : String := String.ofList (s.toList.map asciiLowerChar)

def eqIgnoreAsciiCase (s t : String) : Bool := asciiLower s == asciiLower t

/-- The lower-case form of a character outside any context. -/
def lowerChar (c : Char) : List Char :=
  if c.toNat < 128 then [asciiLowerChar c]
  else if c.toNat = 0x130 then ['i', Char.ofNat 0x307]
  else [mapCase lowerRuns c]

/-- Whether the nearest character that is not skipped is a cased letter. -/
def nextIsCased (cs : List Char) : Bool :=
  match cs.find? fun c => !inRanges caseIgnorableRanges c with
  | some c => inRanges casedRanges c
  | none => false

def capitalSigma : Char := Char.ofNat 0x3A3

/-- The lower-case form of a capital sigma between what precedes it, nearest first, and what
follows it: final at the end of a word, else medial. -/
def lowerSigma (before after : List Char) : Char :=
  if nextIsCased before && !nextIsCased after then Char.ofNat 0x3C2 else Char.ofNat 0x3C3

def lowerChars (before : List Char) : List Char → List Char
  | [] => []
  | c :: rest =>
    (if c = capitalSigma then [lowerSigma before rest] else lowerChar c) ++
      lowerChars (c :: before) rest

def lowercase (s : String) : String := String.ofList (lowerChars [] s.toList)

def upperChar (c : Char) : List Char :=
  if c.toNat < 128 then [asciiUpperChar c]
  else match upperExpansions.lookup c.toNat with
    | some expansion => expansion.map Char.ofNat
    | none => [mapCase upperRuns c]

def uppercase (s : String) : String := String.ofList (s.toList.flatMap upperChar)

def containsIgnoringCase (s needle : String) : Bool :=
  hasInfix (lowercase needle).toList (lowercase s).toList

end DeviceWatch.Text
