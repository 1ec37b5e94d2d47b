/-!
Places in a YAML text, and the blanks and line ends between its tokens.
-/

namespace DeviceWatch.Yaml

def isSpace (c : Char) : Bool := c = ' ' || c = '\t'

def isBreak (c : Char) : Bool :=
  c = '\n' || c = '\r' || c = '\u0085' || c = '\u2028' || c = '\u2029'

def isBlankOrBreak (c : Char) : Bool := isSpace c || isBreak c

def startsBlank : List Char → Bool
  | [] => true
  | c :: _ => isBlankOrBreak c

def isFlowIndicator (c : Char) : Bool := c = ',' || c = '[' || c = ']' || c = '\x7b' || c = '\x7d'

/-- Three dashes or three dots followed by a blank. -/
def startsMarker : List Char → Bool
  | '-' :: '-' :: '-' :: rest | '.' :: '.' :: '.' :: rest => startsBlank rest
  | _ => false

/-- What is left of a text, and where it stands: the number of bytes before it, its line, and the
number of characters before it on that line. -/
structure Place where
  rest : List Char
  index : Nat := 0
  line : Nat := 0
  column : Nat := 0

namespace Place

def next (p : Place) : Place :=
  match p.rest with
  | [] => p
  | c :: rest => ⟨rest, p.index + c.utf8Size, p.line, p.column + 1⟩

def advance (p : Place) : Nat → Place
  | 0 => p
  | n + 1 => p.next.advance n

def nextLine (p : Place) : Place :=
  match p.rest with
  | '\r' :: '\n' :: rest => ⟨rest, p.index + 2, p.line + 1, 0⟩
  | c :: rest => ⟨rest, p.index + c.utf8Size, p.line + 1, 0⟩
  | [] => p

def atMarker (p : Place) : Bool := p.column = 0 && startsMarker p.rest

end Place

/-- The character that a line end stands for in a scalar. -/
def breakChar (c : Char) : Char := if c = '\u2028' || c = '\u2029' then c else '\n'

/-- Passes over blanks, line ends and comments, and tells whether a simple key may start behind them.
A tab counts as a blank only where it cannot be taken for indentation.  A byte order mark may start a
line, and takes a column like any character. -/
def skipFrom (flow : Bool) : Bool → Bool → Nat → Nat → Nat → List Char → Bool × Place
  | mayKey, _, index, line, column, [] => (mayKey, ⟨[], index, line, column⟩)
  | mayKey, _, index, line, _, '\r' :: '\n' :: rest =>
    skipFrom flow (mayKey || !flow) false (index + 2) (line + 1) 0 rest
  | mayKey, comment, index, line, column, c :: rest =>
    if isBreak c then skipFrom flow (mayKey || !flow) false (index + c.utf8Size) (line + 1) 0 rest
    else if comment || c = ' ' || (c = '\t' && (flow || !mayKey)) || (column = 0 && c = '\ufeff') then
      skipFrom flow mayKey comment (index + c.utf8Size) line (column + 1) rest
    else if c = '#' then skipFrom flow mayKey true (index + 1) line (column + 1) rest
    else (mayKey, ⟨c :: rest, index, line, column⟩)

def Place.skip (flow mayKey : Bool) (p : Place) : Bool × Place :=
  skipFrom flow mayKey false p.index p.line p.column p.rest

/-- The blanks and line ends between two words of a scalar: the blanks in front of the first line end,
the line ends, and whether a tab stands left of the indentation. -/
structure Gap where
  blanks : List Char := []
  breaks : List Char := []
  badTab : Bool := false

/-- Lines are folded: a single line feed becomes a blank, and the first of several is dropped. -/
def Gap.text (g : Gap) : List Char :=
  match g.breaks with
  | [] => g.blanks
  | ['\n'] => [' ']
  | '\n' :: rest => rest
  | breaks => breaks

def gapFrom (indent : Nat) : Bool → Nat → Nat → Nat → List Char → Gap × Place
  | _, index, line, column, [] => ({}, ⟨[], index, line, column⟩)
  | _, index, line, _, '\r' :: '\n' :: rest =>
    let (g, p) := gapFrom indent true (index + 2) (line + 1) 0 rest
    ({ g with breaks := '\n' :: g.breaks }, p)
  | broken, index, line, column, c :: rest =>
    if isBreak c then
      let (g, p) := gapFrom indent true (index + c.utf8Size) (line + 1) 0 rest
      ({ g with breaks := breakChar c :: g.breaks }, p)
    else if isSpace c then
      let (g, p) := gapFrom indent broken (index + 1) line (column + 1) rest
      if broken then ({ g with badTab := g.badTab || (c = '\t' && column < indent) }, p)
      else ({ g with blanks := c :: g.blanks }, p)
    else ({}, ⟨c :: rest, index, line, column⟩)

/-- The gap at a place; `broken` tells whether a line end came right before. -/
def Place.gap (indent : Nat) (broken : Bool) (p : Place) : Gap × Place :=
  gapFrom indent broken p.index p.line p.column p.rest

end DeviceWatch.Yaml
