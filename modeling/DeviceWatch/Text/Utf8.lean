/-!
Texts from bytes in UTF-8.
-/

namespace DeviceWatch.Text

def isContinuation (b : Nat) : Bool := 0x80 ≤ b && b ≤ 0xBF

/-- The number of bytes that follow a leading byte, the bits it gives, and the range of the first byte
that follows; nothing for a byte that cannot lead.  The range leaves out overlong forms, surrogates
and numbers beyond the last character. -/
def leadingByte? (b : Nat) : Option (Nat × Nat × Nat × Nat) :=
  if b < 0x80 then some (0, b, 0x80, 0xBF)
  else if 0xC2 ≤ b ∧ b ≤ 0xDF then some (1, b - 0xC0, 0x80, 0xBF)
  else if 0xE0 ≤ b ∧ b ≤ 0xEF then
    some (2, b - 0xE0, if b = 0xE0 then 0xA0 else 0x80, if b = 0xED then 0x9F else 0xBF)
  else if 0xF0 ≤ b ∧ b ≤ 0xF4 then
    some (3, b - 0xF0, if b = 0xF0 then 0x90 else 0x80, if b = 0xF4 then 0x8F else 0xBF)
  else none

/-- How many continuation bytes stand at the front, up to a count, and the number they lead to. -/
def continuations : Nat → Nat → List Nat → Nat × Nat
  | 0, value, _ => (0, value)
  | count + 1, value, b :: rest =>
    if isContinuation b then
      let (found, value) := continuations count (64 * value + (b - 0x80)) rest
      (found + 1, value)
    else (0, value)
  | _, value, [] => (0, value)

/-- The character at the front of some bytes, nothing for a malformed sequence, and the length of what
was read. -/
def decodeFirst (lead : Nat) (rest : List Nat) : Option Char × Nat :=
  match leadingByte? lead with
  | none => (none, 1)
  | some (0, value, _, _) => (some (Char.ofNat value), 1)
  | some (count, value, low, high) =>
    match rest with
    | [] => (none, 1)
    | second :: _ =>
      if second < low ∨ high < second then (none, 1)
      else
        let (found, value) := continuations count value rest
        (if found = count then some (Char.ofNat value) else none, found + 1)

def decodeBytes : Nat → List Nat → List (Option Char)
  | 0, _ | _, [] => []
  | fuel + 1, lead :: rest =>
    let (c, length) := decodeFirst lead rest
    c :: decodeBytes fuel (rest.drop (length - 1))

def ofBytes? (bytes : List Nat) : Option String :=
  ((decodeBytes bytes.length bytes).mapM id).map String.ofList

def replacementChar : Char := Char.ofNat 0xFFFD

def ofBytesLossy (bytes : List Nat) : String :=
  String.ofList ((decodeBytes bytes.length bytes).map (·.getD replacementChar))

def toBytes (s : String) : List Nat := s.toUTF8.toList.map UInt8.toNat

end DeviceWatch.Text
