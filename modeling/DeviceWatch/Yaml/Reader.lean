import DeviceWatch.Yaml.Basic
import DeviceWatch.Yaml.Token

/-!
Reading a YAML text that holds one document.

Block and flow collections, plain and quoted scalars and comments are read; anchors, tags, directives
and block scalars are refused.
-/

namespace DeviceWatch.Yaml

def nextIsOneOf (ends : List Token) : List Token → Bool
  | [] => false
  | t :: _ => ends.contains t

/-- Passes over the comma in front of an item of a flow collection, which the first one lacks. -/
def afterComma? (first : Bool) (tokens : List Token) : Option (List Token) :=
  if first then some tokens
  else match tokens with
    | .flowEntry :: rest => some rest
    | tokens => if nextIsOneOf [.flowSequenceEnd, .flowMappingEnd] tokens then some tokens else none

mutual

/-- Reads a node.  Block collections are admitted if `block` says so, and a sequence at the column of
the mapping around it if `level` does. -/
def node? (block level : Bool) : Nat → List Token → Option (Yaml × List Token)
  | 0, _ => none
  | _, [] => none
  | fuel + 1, t :: rest =>
    match t with
    | .scalar text plain => some (if plain then ofPlain text.toList else .str text, rest)
    | .flowSequence => (flowItems? true fuel rest).map fun (items, rest) => (.seq items, rest)
    | .flowMapping => (flowEntries? true fuel rest).map fun (entries, rest) => (.map entries, rest)
    | .blockSequence =>
      if block then (items? fuel rest).map fun (items, rest) => (.seq items, rest) else none
    | .blockMapping =>
      if block then (entries? fuel rest).map fun (entries, rest) => (.map entries, rest) else none
    | .entry =>
      if level then (levelItems? fuel (t :: rest)).map fun (items, rest) => (.seq items, rest)
      else none
    | _ => none

/-- Reads a node unless the tokens show that nothing is written for it. -/
def optional? (block level : Bool) (ends : List Token) : Nat → List Token → Option (Yaml × List Token)
  | 0, _ => none
  | fuel + 1, tokens =>
    if nextIsOneOf ends tokens then some (.absent, tokens) else node? block level fuel tokens

def items? : Nat → List Token → Option (List Yaml × List Token)
  | 0, _ => none
  | _, .blockEnd :: rest => some ([], rest)
  | fuel + 1, .entry :: rest => do
    let (item, rest) ← optional? true false [.entry, .blockEnd] fuel rest
    let (items, rest) ← items? fuel rest
    some (item :: items, rest)
  | _, _ => none

def levelItems? : Nat → List Token → Option (List Yaml × List Token)
  | 0, _ => none
  | fuel + 1, .entry :: rest => do
    let (item, rest) ← optional? true false [.entry, .key, .value, .blockEnd] fuel rest
    let (items, rest) ← levelItems? fuel rest
    some (item :: items, rest)
  | _, tokens => some ([], tokens)

def entries? : Nat → List Token → Option (List (Yaml × Yaml) × List Token)
  | 0, _ => none
  | _, .blockEnd :: rest => some ([], rest)
  | fuel + 1, .key :: rest => do
    let ends : List Token := [.key, .value, .blockEnd]
    let (key, rest) ← optional? true true ends fuel rest
    let (value, rest) ← match rest with
      | .value :: rest => optional? true true ends fuel rest
      | rest => some (.absent, rest)
    let (entries, rest) ← entries? fuel rest
    some ((key, value) :: entries, rest)
  | _, _ => none

/-- The items of a flow sequence up to its end, with the comma in front of each but the first.  A key
stands for a mapping of one entry. -/
def flowItems? (first : Bool) : Nat → List Token → Option (List Yaml × List Token)
  | 0, _ => none
  | fuel + 1, tokens => do
    let ends : List Token := [.flowEntry, .flowSequenceEnd]
    let more (item : Yaml) (rest : List Token) : Option (List Yaml × List Token) :=
      (flowItems? false fuel rest).map fun (items, rest) => (item :: items, rest)
    match ← afterComma? first tokens with
    | .flowSequenceEnd :: rest => some ([], rest)
    | .key :: rest => do
      let (key, rest) ← match rest with
        | .value :: rest | .flowEntry :: rest | .flowSequenceEnd :: rest => some (.absent, rest)
        | rest => node? false false fuel rest
      let (value, rest) ← match rest with
        | .value :: rest => optional? false false ends fuel rest
        | rest => some (.absent, rest)
      more (.map [(key, value)]) rest
    | rest => do
      let (item, rest) ← node? false false fuel rest
      more item rest

/-- The entries of a flow mapping up to its end, with the comma in front of each but the first. -/
def flowEntries? (first : Bool) : Nat → List Token → Option (List (Yaml × Yaml) × List Token)
  | 0, _ => none
  | fuel + 1, tokens => do
    let ends : List Token := [.flowEntry, .flowMappingEnd]
    let more (entry : Yaml × Yaml) (rest : List Token) : Option (List (Yaml × Yaml) × List Token) :=
      (flowEntries? false fuel rest).map fun (entries, rest) => (entry :: entries, rest)
    match ← afterComma? first tokens with
    | .flowMappingEnd :: rest => some ([], rest)
    | .key :: rest => do
      let (key, rest) ← optional? false false (.value :: ends) fuel rest
      let (value, rest) ← match rest with
        | .value :: rest => optional? false false ends fuel rest
        | rest => some (.absent, rest)
      more (key, value) rest
    | rest => do
      let (key, rest) ← node? false false fuel rest
      more (key, .absent) rest

end

def isPrintable (c : Char) : Bool :=
  let n := c.toNat
  n = 9 || n = 10 || n = 13 || (32 ≤ n && n ≤ 126) || n = 0x85 || (0xa0 ≤ n && n ≤ 0xd7ff) ||
    (0xe000 ≤ n && n ≤ 0xfffd) || 0x10000 ≤ n

/-- The value of the only document of a text.  Marks of its end may follow, and nothing else. -/
def ofTokens? (tokens : List Token) : Option Yaml := do
  let fuel := 4 * tokens.length + 4
  let (v, rest) ← match tokens with
    | [] => some (.absent, [])
    | .documentStart :: rest =>
      if rest.isEmpty || nextIsOneOf [.documentStart, .documentEnd] rest then some (.absent, rest)
      else node? true false fuel rest
    | tokens => node? true false fuel tokens
  if rest.all (· = .documentEnd) then some v else none

/-- The value of a text that holds one document; nothing if the text is not well formed. -/
def read? (text : String) : Option Yaml :=
  let cs := text.toList
  if cs.all isPrintable then do ofTokens? (← tokens? cs) else none

end DeviceWatch.Yaml
