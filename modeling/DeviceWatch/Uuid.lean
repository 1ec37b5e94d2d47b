import DeviceWatch.Json.Record
import DeviceWatch.Text.Digits

/-!
Identifiers of 128 bits.

The usual form has 32 lower-case hexadecimal digits in groups of 8, 4, 4, 4 and 12.  Reading also
takes capital digits, the digits without hyphens, the usual form in braces, and the usual form
after `urn:uuid:`.
-/

namespace DeviceWatch

structure Uuid where
  value : Nat
  deriving DecidableEq, Inhabited

namespace Uuid

/-- The 32 hexadecimal digits, most significant first. -/
def digits (u : Uuid) : List Char := Text.hexDigits 32 u.value

def groups (ds : List Char) : List (List Char) :=
  [ds.take 8, (ds.drop 8).take 4, (ds.drop 12).take 4, (ds.drop 16).take 4, ds.drop 20]

def text (u : Uuid) : String :=
  "-".intercalate ((groups u.digits).map String.ofList)

def ofDigits? (ds : List Char) : Option Uuid :=
  if ds.length = 32 then (Text.natIn? 16 ds).map Uuid.mk else none

/-- The digits of a text with hyphens in the usual places. -/
def dropHyphens? (cs : List Char) : Option (List Char) :=
  if cs.length = 36 ∧ [8, 13, 18, 23].all (fun i => cs.getD i ' ' == '-') then
    some (cs.take 8 ++ (cs.drop 9).take 4 ++ (cs.drop 14).take 4 ++ (cs.drop 19).take 4 ++
      cs.drop 24)
  else none

def ofHyphenated? (cs : List Char) : Option Uuid := (dropHyphens? cs).bind ofDigits?

def parse? (s : String) : Option Uuid :=
  let cs := s.toList
  if cs.length = 32 then ofDigits? cs
  else if cs.length = 36 then ofHyphenated? cs
  else if cs.length = 38 ∧ cs.head? = some '\x7b' ∧ cs.getLast? = some '\x7d' then
    ofHyphenated? ((cs.drop 1).take 36)
  else if cs.length = 45 ∧ cs.take 9 = "urn:uuid:".toList then ofHyphenated? (cs.drop 9)
  else none

def toJson (u : Uuid) : Json := .str u.text

def read : Json → Read Uuid
  | .str s => match parse? s with
    | some u => .ok u
    | none => .error .malformed
  | _ => .error .wrongType

end Uuid

/-- A supply of identifiers that have not been used before. -/
structure IdSupply where
  drawn : Nat := 0
  deriving DecidableEq, Inhabited

namespace IdSupply

def nth (n : Nat) : Uuid := ⟨0x6b1f0c529a3e4d718c00000000000000 + n⟩

def draw (s : IdSupply) : Uuid × IdSupply := (nth s.drawn, ⟨s.drawn + 1⟩)

end IdSupply

end DeviceWatch
