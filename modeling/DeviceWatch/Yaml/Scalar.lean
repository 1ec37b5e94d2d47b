import DeviceWatch.Text.Digits
import DeviceWatch.Yaml.Place

/-!
The texts of scalars, plain and quoted, over one line or several.
-/

namespace DeviceWatch.Yaml

def startsPlain (flow : Bool) : List Char → Bool
  | [] => false
  | c :: rest =>
    if c = '-' then !rest.head?.any isSpace
    else if c = '?' || c = ':' then !flow && !startsBlank rest
    else !(isBlankOrBreak c || ",[]\x7b\x7d#&*!|>'\"%@\x60".toList.contains c)

/-- The length of the word at a place; nothing if a `:` stands where none may. -/
def wordLength? (flow : Bool) : List Char → Option Nat
  | [] => some 0
  | c :: rest =>
    if isBlankOrBreak c then some 0
    else if flow && c = ':' && rest.head?.any (fun d => isFlowIndicator d || d = '?') then none
    else if (c = ':' && startsBlank rest) || (flow && isFlowIndicator c) then some 0
    else (wordLength? flow rest).map (· + 1)

/-- What was read of a scalar from some place on: its text, the place behind it and what follows it,
and whether line ends came between. -/
structure Scanned where
  text : List Char
  place : Place
  broken : Bool := false

/-- The words of a plain scalar from one of them on, with the gap in front of it.  Lines that go on
with the scalar start at column `indent` at least, unless it is in a flow collection. -/
def plainFrom (flow : Bool) (indent : Nat) : Nat → Gap → Place → Option Scanned
  | 0, _, _ => none
  | fuel + 1, gap, p => do
    let stop : Scanned := ⟨[], p, !gap.breaks.isEmpty⟩
    if p.atMarker || p.rest.head? = some '#' then some stop
    else
      let n ← wordLength? flow p.rest
      if n = 0 then some stop
      else
        let word := gap.text ++ p.rest.take n
        let (next, q) := (p.advance n).gap indent false
        if next.badTab then none
        else if next.blanks.isEmpty && next.breaks.isEmpty then some ⟨word, q, false⟩
        else if !flow && q.column < indent then some ⟨word, q, !next.breaks.isEmpty⟩
        else
          let more ← plainFrom flow indent fuel next q
          some { more with text := word ++ more.text }

def Place.plain? (flow : Bool) (indent : Nat) (p : Place) : Option Scanned :=
  plainFrom flow indent (p.rest.length + 1) {} p

def escapedChar? (digits : List Char) (count : Nat) : Option Char := do
  if digits.length < count then none
  else
    let n ← Text.natIn? 16 (digits.take count)
    if h : n.isValidChar then some (Char.ofNatAux n h) else none

/-- The character that an escape stands for, and the length of the escape after the backslash. -/
def escape? : List Char → Option (Char × Nat)
  | [] => none
  | c :: rest =>
    let short (x : Char) : Option (Char × Nat) := some (x, 1)
    match c with
    | '0' => short '\x00'
    | 'a' => short '\x07'
    | 'b' => short '\x08'
    | 't' | '\t' => short '\t'
    | 'n' => short '\n'
    | 'v' => short '\x0b'
    | 'f' => short '\x0c'
    | 'r' => short '\r'
    | 'e' => short '\x1b'
    | ' ' | '"' | '/' | '\\' => short c
    | 'N' => short '\u0085'
    | '_' => short '\u00a0'
    | 'L' => short '\u2028'
    | 'P' => short '\u2029'
    | 'x' => (escapedChar? rest 2).map (·, 3)
    | 'u' => (escapedChar? rest 4).map (·, 5)
    | 'U' => (escapedChar? rest 8).map (·, 9)
    | _ => none

def Scanned.prepend (cs : List Char) (s : Scanned) : Scanned := { s with text := cs ++ s.text }

def quotedFrom (double : Bool) : Nat → Place → Option Scanned
  | 0, _ => none
  | fuel + 1, p =>
    if p.atMarker then none
    else match p.rest with
      | [] => none
      | c :: rest =>
        if isBlankOrBreak c then
          let (gap, q) := p.gap 0 false
          (quotedFrom double fuel q).map (·.prepend gap.text)
        else if !double && c = '\'' && rest.head? = some '\'' then
          (quotedFrom double fuel (p.advance 2)).map (·.prepend ['\''])
        else if c = (if double then '"' else '\'') then some ⟨[], p.next, false⟩
        else if double && c = '\\' then
          if rest.head?.any isBreak then
            let (gap, q) := p.next.nextLine.gap 0 true
            (quotedFrom double fuel q).map (·.prepend gap.breaks)
          else do
            let (x, n) ← escape? rest
            let more ← quotedFrom double fuel (p.advance (n + 1))
            some (more.prepend [x])
        else (quotedFrom double fuel p.next).map (·.prepend [c])

def Place.quoted? (double : Bool) (p : Place) : Option Scanned :=
  quotedFrom double (p.rest.length + 1) p.next

end DeviceWatch.Yaml
