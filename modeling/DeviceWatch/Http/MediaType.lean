import DeviceWatch.Text.Case

/-!
Media types, as in `application/problem+json; charset=utf-8`.

A media type is a type and a subtype, where the subtype may end in a plus sign and a suffix.
Parameters are checked for their form only.
-/

namespace DeviceWatch.Http

/-- Whether a bare name, of a method or in a media type, may hold the character. -/
def isTokenChar (c : Char) : Bool := c.isAlphanum || "!#$%&'*+-.^_\x60|~".toList.contains c

structure MediaType where
  type : String
  subtype : String
  suffix : Option String
  deriving DecidableEq

namespace MediaType

inductive ParameterState where
  | nameStart
  | name
  | valueStart
  | value
  | quoteStart
  | quoted
  | quoteEnd
  deriving DecidableEq

/-- Goes on by one character.  Blanks may stand before a name and after a quoted value only, and a
quoted value holds at least one character. -/
def ParameterState.step? (s : ParameterState) (c : Char) : Option ParameterState :=
  let quotable : Bool := 0x20 ≤ c.toNat && c.toNat < 0x7F
  match s with
  | .nameStart => if c = ' ' then some .nameStart else if isTokenChar c then some .name else none
  | .name => if c = '=' then some .valueStart else if isTokenChar c then some .name else none
  | .valueStart =>
    if c = '"' then some .quoteStart else if isTokenChar c then some .value else none
  | .value => if c = ';' then some .nameStart else if isTokenChar c then some .value else none
  | .quoteStart => if quotable then some .quoted else none
  | .quoted => if c = '"' then some .quoteEnd else if quotable then some .quoted else none
  | .quoteEnd =>
    if c = ';' then some .nameStart else if c = ' ' then some .quoteEnd else none

/-- Whether the parameters may end here; a bare value may be empty. -/
def ParameterState.isFinal : ParameterState → Bool
  | .nameStart | .valueStart | .value | .quoteEnd => true
  | .name | .quoteStart | .quoted => false

def areParameters (cs : List Char) : Bool :=
  (cs.foldlM ParameterState.step? .nameStart).any ParameterState.isFinal

/-- Cuts a subtype at its last plus sign that is not its first character. -/
def cutSuffix (cs : List Char) : List Char × Option (List Char) :=
  let suffix := (cs.reverse.takeWhile (· ≠ '+')).reverse
  let name := cs.take (cs.length - suffix.length - 1)
  if name.isEmpty then (cs, none) else (name, some suffix)

def parse? (s : String) : Option MediaType :=
  let cs := s.toList
  let type := cs.takeWhile isTokenChar
  match cs.drop type.length with
  | '/' :: rest =>
    let subtype := rest.takeWhile isTokenChar
    let wellFormed := match rest.drop subtype.length with
      | [] => true
      | ';' :: parameters => !subtype.isEmpty && areParameters parameters
      | _ => false
    if !type.isEmpty && wellFormed then
      let lower (cs : List Char) : String := Text.asciiLower (String.ofList cs)
      let (name, suffix) := cutSuffix subtype
      some ⟨lower type, lower name, suffix.map lower⟩
    else none
  | _ => none

/-- Whether a body of this type is JSON: `application/json`, or another application type that names
JSON in front of its suffix or as its suffix. -/
def isJson (m : MediaType) : Bool :=
  m.type == "application" && (m.subtype == "json" || m.suffix == some "json")

end MediaType

end DeviceWatch.Http
