import DeviceWatch.Config.Environment
import DeviceWatch.Text.Alphanumeric

/-!
Files of environment variables, one `KEY=value` a line.

A value may be quoted, may run over several lines inside quotes, and may refer to earlier variables
with a dollar sign.  Variables that are already set are left alone, and reading stops at the first
line that is malformed.
-/

namespace DeviceWatch.EnvFile

/-- Where a line stands with respect to quotes at its end. -/
inductive LineState where
  | plain
  | blank
  | escape
  | single
  | singleEscape
  | double
  | doubleEscape
  | comment
  deriving DecidableEq

def openQuote (other : LineState) (c : Char) : LineState :=
  if c = '\\' then .escape
  else if c = '"' then .double
  else if c = '\'' then .single
  else other

def LineState.step (s : LineState) (c : Char) : LineState :=
  match s with
  | .blank => if c = '#' then .comment else openQuote .plain c
  | .escape => .plain
  | .plain =>
    if Text.isBlank c && c != '\n' && c != '\r' then .blank else openQuote .plain c
  | .double => if c = '\\' then .doubleEscape else if c = '"' then .plain else .double
  | .doubleEscape => .double
  | .single => if c = '\\' then .singleEscape else if c = '\'' then .plain else .single
  | .singleEscape => .single
  | .comment => .comment

def scanLine : LineState → List Char → List Char × LineState
  | s, [] => ([], s)
  | s, c :: rest =>
    match s.step c with
    | .comment => ([], .comment)
    | next =>
      let (kept, last) := scanLine next rest
      (c :: kept, last)

def physicalLines : List Char → List (List Char)
  | [] => []
  | c :: rest =>
    if c = '\n' then [c] :: physicalLines rest
    else match physicalLines rest with
      | [] => [[c]]
      | line :: lines => (c :: line) :: lines

def dropLineEnd (cs : List Char) : List Char :=
  match cs.reverse with
  | '\n' :: '\r' :: rest => rest.reverse
  | '\n' :: rest => rest.reverse
  | _ => cs

/-- Joins lines until quotes are closed; nothing stands for a text that ends inside quotes or with a
blank in place of a line end. -/
def logicalLines (done : List Char) (s : LineState) :
    List (List Char) → List (Option (List Char))
  | [] => if s = .plain then [] else [none]
  | line :: lines =>
    let whole := done ++ line
    if (Text.trimStart whole).head? = some '#' then some [] :: logicalLines [] .plain lines
    else
      let (kept, last) := scanLine s line
      match last with
      | .plain => some (dropLineEnd whole) :: logicalLines [] .plain lines
      | .comment => some (done ++ kept) :: logicalLines [] .plain lines
      | last => logicalLines whole last lines

inductive Reference where
  | none
  | bare
  | braced
  deriving DecidableEq

structure ValueState where
  output : List Char := []
  single : Bool := false
  double : Bool := false
  escaped : Bool := false
  ending : Bool := false
  reference : Reference := .none
  name : List Char := []

/-- The value that a reference stands for: of the environment first, then of earlier lines.  A name
that is empty or not set stands for nothing. -/
def resolve (env earlier : Environment) (name : List Char) : List Char :=
  let key := String.ofList name.reverse
  if key = "" then []
  else match (env.lookup key).orElse fun _ => earlier.lookup key with
    | some value => value.toList
    | none => []

def ValueState.write (s : ValueState) (cs : List Char) : ValueState :=
  { s with output := cs.reverse ++ s.output }

def ValueState.close (s : ValueState) (env earlier : Environment) : ValueState :=
  { s.write (resolve env earlier s.name) with reference := .none, name := [] }

def readValue (env earlier : Environment) : ValueState → List Char → Option String
  | s, [] =>
    if s.reference = .braced || s.single || s.double then none
    else some (String.ofList (s.close env earlier).output.reverse)
  | s, c :: rest =>
    let go (s : ValueState) : Option String := readValue env earlier s rest
    if s.ending then
      if c = ' ' || c = '\t' then go s
      else if c = '#' then readValue env earlier s []
      else none
    else if s.escaped then
      if c = '\\' || c = '\'' || c = '"' || c = '$' || c = ' ' then
        go { s.write [c] with escaped := false }
      else if c = 'n' then go { s.write ['\n'] with escaped := false }
      else none
    else if s.single then
      if c = '\'' then go { s with single := false } else go (s.write [c])
    else match s.reference with
      | .bare =>
        if Text.isAlphanumeric c then go { s with name := c :: s.name }
        else if c = '\x7b' && s.name.isEmpty then go { s with reference := .braced }
        else
          let s := s.close env earlier
          if c = '$' then go { s with reference := .bare } else go (s.write [c])
      | .braced =>
        if c = '\x7d' then go (s.close env earlier) else go { s with name := c :: s.name }
      | .none =>
        if c = '$' then go { s with reference := .bare }
        else if s.double then
          if c = '"' then go { s with double := false }
          else if c = '\\' then go { s with escaped := true }
          else go (s.write [c])
        else if c = '\'' then go { s with single := true }
        else if c = '"' then go { s with double := true }
        else if c = '\\' then go { s with escaped := true }
        else if c = ' ' || c = '\t' then go { s with ending := true }
        else go (s.write [c])

def isKeyStart (c : Char) : Bool := ('a' ≤ c && c ≤ 'z') || ('A' ≤ c && c ≤ 'Z') || c = '_'

def isKeyChar (c : Char) : Bool := isKeyStart c || ('0' ≤ c && c ≤ '9') || c = '.'

def readKey (cs : List Char) : Option (String × List Char) :=
  match cs with
  | c :: _ =>
    if isKeyStart c then
      some (String.ofList (cs.takeWhile isKeyChar), Text.trimStart (cs.dropWhile isKeyChar))
    else none
  | [] => none

def readEquals : List Char → Option (List Char)
  | '=' :: rest => some (Text.trimStart rest)
  | _ => none

/-- A key with the text after its equals sign; `export` may stand before the key. -/
def readAssignment (cs : List Char) : Option (String × List Char) := do
  let (key, rest) ← readKey cs
  match readEquals rest with
  | some value => some (key, value)
  | none =>
    if key = "export" then
      let (key, rest) ← readKey rest
      let value ← readEquals rest
      some (key, value)
    else none

def loadLines (env earlier : Environment) : List (Option (List Char)) → Environment
  | [] => env
  | none :: _ => env
  | some line :: lines =>
    let line := Text.trimChars line
    if line.isEmpty || line.head? = some '#' then loadLines env earlier lines
    else match readAssignment line with
      | none => env
      | some (key, text) =>
        let value :=
          if text.isEmpty || text.head? = some '#' then some ""
          else readValue env earlier {} text
        match value with
        | none => env
        | some value =>
          let env := if (env.lookup key).isSome then env else (key, value) :: env
          loadLines env ((key, value) :: earlier) lines

def load (env : Environment) (text : String) : Environment :=
  let cs := text.toList
  let cs := if cs.head? = some (Char.ofNat 0xFEFF) then cs.drop 1 else cs
  loadLines env [] (logicalLines [] .plain (physicalLines cs))

end DeviceWatch.EnvFile
