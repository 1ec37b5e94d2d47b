import DeviceWatch.Yaml.Scalar

/-!
The tokens of a YAML text.

Block collections have no brackets in the text; the tokens that open and close them follow from
columns.  A key has no mark in front of it either: a token that may start a key is remembered, and
when a `:` follows on the same line, within 1024 bytes, the mark is put in front of it.
-/

namespace DeviceWatch.Yaml

inductive Token where
  | documentStart
  | documentEnd
  | blockSequence
  | blockMapping
  | blockEnd
  | entry
  | key
  | value
  | flowSequence
  | flowSequenceEnd
  | flowMapping
  | flowMappingEnd
  | flowEntry
  | scalar (text : String) (plain : Bool)
  deriving DecidableEq

/-- A token that may turn out to start a key: how many tokens came before it, and where it stands.  At
the column of a block mapping it has to be a key. -/
structure SimpleKey where
  before : Nat
  required : Bool
  index : Nat
  line : Nat
  column : Nat

/-- The state of reading tokens: the place, the tokens so far, newest first, the columns of the open
block collections, innermost first, and the possible keys of the innermost flow collection and of
those around it.  `mayKey` tells whether a key may start at the next token. -/
structure Lexer where
  place : Place
  tokens : List Token := []
  columns : List Nat := []
  key : Option SimpleKey := none
  outer : List (Option SimpleKey) := []
  mayKey : Bool := true

namespace Lexer

def inFlow (l : Lexer) : Bool := !l.outer.isEmpty

def emit (l : Lexer) (t : Token) : Lexer := { l with tokens := t :: l.tokens }

def insert (l : Lexer) (n : Nat) (t : Token) : Lexer :=
  { l with tokens := l.tokens.insertIdx (l.tokens.length - n) t }

def indent (l : Lexer) : Nat :=
  match l.columns with
  | [] => 0
  | column :: _ => column + 1

def maxKeyLength : Nat := 1024

/-- Gives up a possible key that is too far behind; nothing when it had to be a key. -/
def expire? (p : Place) (key : Option SimpleKey) : Option (Option SimpleKey) :=
  match key with
  | none => some none
  | some k =>
    if k.line < p.line || k.index + maxKeyLength < p.index then
      if k.required then none else some none
    else some (some k)

def expireKeys? (l : Lexer) : Option Lexer := do
  let key ← expire? l.place l.key
  let outer ← l.outer.mapM (expire? l.place)
  some { l with key := key, outer := outer }

/-- Gives up the possible key of the innermost collection. -/
def dropKey? (l : Lexer) : Option Lexer :=
  if l.key.any (·.required) then none else some { l with key := none }

/-- Remembers the next token as a possible key. -/
def saveKey? (l : Lexer) : Option Lexer :=
  if l.mayKey then do
    let l ← l.dropKey?
    some { l with key := some {
      before := l.tokens.length
      required := !l.inFlow && l.columns.head? = some l.place.column
      index := l.place.index
      line := l.place.line
      column := l.place.column } }
  else some l

def openBlock (l : Lexer) (column before : Nat) (t : Token) : Lexer :=
  if l.inFlow || l.columns.head?.any (column ≤ ·) then l
  else { l.insert before t with columns := column :: l.columns }

/-- Closes the block collections that stand right of a column. -/
def closeBlocks (l : Lexer) (column : Nat) : Lexer :=
  if l.inFlow then l
  else
    let kept := l.columns.dropWhile (column < ·)
    { l with
      tokens := List.replicate (l.columns.length - kept.length) .blockEnd ++ l.tokens
      columns := kept }

def closeAllBlocks (l : Lexer) : Lexer :=
  if l.inFlow then l
  else { l with tokens := l.columns.map (fun _ => .blockEnd) ++ l.tokens, columns := [] }

def take (l : Lexer) (t : Token) : Lexer := { l.emit t with place := l.place.next }

def marker? (l : Lexer) (t : Token) : Option Lexer := do
  let l ← l.closeAllBlocks.dropKey?
  some { l.emit t with place := l.place.advance 3, mayKey := false }

def openFlow? (l : Lexer) (t : Token) : Option Lexer := do
  let l ← l.saveKey?
  some { l.take t with key := none, outer := l.key :: l.outer, mayKey := true }

def closeFlow? (l : Lexer) (t : Token) : Option Lexer := do
  let l ← l.dropKey?
  let l := match l.outer with
    | [] => l
    | key :: outer => { l with key := key, outer := outer }
  some { l.take t with mayKey := false }

def comma? (l : Lexer) : Option Lexer := do
  let l ← l.dropKey?
  some { l.take .flowEntry with mayKey := true }

def dash? (l : Lexer) : Option Lexer := do
  if !l.inFlow && !l.mayKey then none
  else
    let l ← (l.openBlock l.place.column l.tokens.length .blockSequence).dropKey?
    some { l.take .entry with mayKey := true }

def key? (l : Lexer) : Option Lexer := do
  if !l.inFlow && !l.mayKey then none
  else
    let l ← (l.openBlock l.place.column l.tokens.length .blockMapping).dropKey?
    some { l.take .key with mayKey := !l.inFlow }

def value? (l : Lexer) : Option Lexer :=
  match l.key with
  | some k =>
    let l := (l.insert k.before .key).openBlock k.column k.before .blockMapping
    some { l.take .value with key := none, mayKey := false }
  | none =>
    if !l.inFlow && !l.mayKey then none
    else
      let l := l.openBlock l.place.column l.tokens.length .blockMapping
      some { l.take .value with mayKey := !l.inFlow }

def quoted? (l : Lexer) (double : Bool) : Option Lexer := do
  let l ← l.saveKey?
  let s ← l.place.quoted? double
  some { l.emit (.scalar (String.ofList s.text) false) with place := s.place, mayKey := false }

/-- A line end behind a plain scalar lets a key start. -/
def plain? (l : Lexer) : Option Lexer := do
  let l ← l.saveKey?
  let s ← l.place.plain? l.inFlow l.indent
  some { l.emit (.scalar (String.ofList s.text) true) with place := s.place, mayKey := s.broken }

/-- Reads the token that starts at a place. -/
def token? (l : Lexer) : Option Lexer :=
  match l.place.rest with
  | [] => none
  | c :: rest =>
    if l.place.atMarker then l.marker? (if c = '-' then .documentStart else .documentEnd)
    else if c = '[' then l.openFlow? .flowSequence
    else if c = '\x7b' then l.openFlow? .flowMapping
    else if c = ']' then l.closeFlow? .flowSequenceEnd
    else if c = '\x7d' then l.closeFlow? .flowMappingEnd
    else if c = ',' then l.comma?
    else if c = '-' && startsBlank rest then l.dash?
    else if c = '?' && (l.inFlow || startsBlank rest) then l.key?
    else if c = ':' && (l.inFlow || startsBlank rest) then l.value?
    else if c = '\'' then l.quoted? false
    else if c = '"' then l.quoted? true
    else if startsPlain l.inFlow l.place.rest then l.plain?
    else none

/-- Passes to the next token, and closes the block collections that end before it. -/
def advance? (l : Lexer) : Option Lexer := do
  let (mayKey, place) := l.place.skip l.inFlow l.mayKey
  let l ← { l with mayKey := mayKey, place := place }.expireKeys?
  some (l.closeBlocks place.column)

def run? : Nat → Lexer → Option (List Token)
  | 0, _ => none
  | fuel + 1, l => do
    let l ← l.advance?
    if l.place.rest.isEmpty then
      let l ← l.closeAllBlocks.dropKey?
      some l.tokens.reverse
    else (← l.token?).run? fuel

end Lexer

def tokens? (cs : List Char) : Option (List Token) :=
  Lexer.run? (cs.length + 1) { place := { rest := cs } }

end DeviceWatch.Yaml
