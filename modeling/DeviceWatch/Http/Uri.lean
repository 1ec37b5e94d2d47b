import DeviceWatch.Text.Blank
import DeviceWatch.Text.Digits
import DeviceWatch.Text.Utf8

/-!
The target of a request: its path, and the parameters of its query.

A target is a path with or without a query, an asterisk, the name of a host alone, or all of them
behind a scheme.
-/

namespace DeviceWatch.Http

structure Uri where
  path : String
  query : String
  deriving DecidableEq

namespace Uri

def isPathChar (c : Char) : Bool :=
  let n := c.toNat
  n = 0x21 || n = 0x22 || (0x24 ≤ n && n ≤ 0x3B) || n = 0x3D || (0x40 ≤ n && n ≤ 0x5F) || 0x61 ≤ n

def isQueryChar (c : Char) : Bool :=
  let n := c.toNat
  n = 0x21 || (0x24 ≤ n && n ≤ 0x3B) || n = 0x3D || 0x3F ≤ n

/-- Splits a path at its first question mark and drops a fragment. -/
def ofPath? (cs : List Char) : Option Uri :=
  let cs := cs.takeWhile (· ≠ '#')
  let path := cs.takeWhile (· ≠ '?')
  let query := cs.drop (path.length + 1)
  if path.all isPathChar && query.all isQueryChar then
    some ⟨String.ofList path, String.ofList query⟩
  else none

/-- What was seen of a host so far: colons, brackets and percent signs behind the last at sign or
bracket, and whether the last character is an at sign. -/
structure HostState where
  colons : Nat := 0
  opened : Bool := false
  closed : Bool := false
  percent : Bool := false
  atSign : Bool := false

def HostState.step? (s : HostState) (c : Char) : Option HostState :=
  let s := { s with atSign := false }
  if c = ':' then if s.colons < 8 then some { s with colons := s.colons + 1 } else none
  else if c = '[' then if s.percent || s.opened then none else some { s with opened := true }
  else if c = ']' then
    if !s.opened || s.closed then none
    else some { s with closed := true, colons := 0, percent := false }
  else if c = '@' then some { s with colons := 0, percent := false, atSign := true }
  else if c = '%' then some { s with percent := true }
  else if c.isAlphanum || "!$&'()*+,-.;=_~".toList.contains c then some s
  else none

/-- Whether a text names a host: with a port or without, with a user before it or not, and between
brackets when its name holds colons. -/
def isHost (cs : List Char) : Bool :=
  !cs.isEmpty && match cs.foldlM HostState.step? {} with
    | some s => s.opened == s.closed && s.colons ≤ 1 && !s.percent && !s.atSign
    | none => false

def isSchemeChar (c : Char) : Bool := c.isAlphanum || "+-.~".toList.contains c

def afterScheme? (cs : List Char) : Option (List Char) :=
  let scheme := cs.takeWhile isSchemeChar
  match cs.drop scheme.length with
  | ':' :: '/' :: '/' :: rest => if scheme.length ≤ 64 then some rest else none
  | _ => none

def endsHost (c : Char) : Bool := c = '/' || c = '?' || c = '#'

def maxLength : Nat := 65534

/-- Reads a target.  Behind a scheme an empty path is that of the root; a host alone has no path. -/
def parse? (s : String) : Option Uri :=
  let cs := s.toList
  if maxLength < s.utf8ByteSize then none
  else if cs = ['*'] then some ⟨s, ""⟩
  else if cs.head? = some '/' then ofPath? cs
  else match afterScheme? cs with
    | some rest =>
      let host := rest.takeWhile fun c => !endsHost c
      if isHost host then
        (ofPath? (rest.drop host.length)).map fun u =>
          if u.path = "" then { u with path := "/" } else u
      else none
    | none => if isHost cs then some ⟨"", ""⟩ else none

end Uri

def Uri.segments (u : Uri) : List String := (Text.splitOnChar '/' u.path).drop 1

/-- The bytes that are meant: an escape of two hexadecimal digits stands for one byte, and any other
percent sign for itself. -/
def percentDecode : List Nat → List Nat
  | 0x25 :: a :: b :: rest =>
    match Text.digitIn? 16 (Char.ofNat a), Text.digitIn? 16 (Char.ofNat b) with
    | some high, some low => (16 * high + low) :: percentDecode rest
    | _, _ => 0x25 :: percentDecode (a :: b :: rest)
  | b :: rest => b :: percentDecode rest
  | [] => []

def decodeSegment? (s : String) : Option String := Text.ofBytes? (percentDecode (Text.toBytes s))

def decodeParameter (s : String) : String :=
  Text.ofBytesLossy (percentDecode ((Text.toBytes s).map fun b => if b = 0x2B then 0x20 else b))

def Uri.parameters (u : Uri) : List (String × String) :=
  ((Text.splitOnChar '&' u.query).filter (· ≠ "")).map fun part =>
    let name := part.toList.takeWhile (· ≠ '=')
    (decodeParameter (String.ofList name),
      decodeParameter (String.ofList (part.toList.drop (name.length + 1))))

end DeviceWatch.Http
