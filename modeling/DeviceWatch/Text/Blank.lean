/-!
White space in the sense of Unicode, and the cutting of text at it.
-/

namespace DeviceWatch.Text

/-- The characters with the property `White_Space`. -/
def isBlank (c : Char) : Bool :=
  (9 ≤ c.toNat && c.toNat ≤ 13) || c.toNat == 0x20 || c.toNat == 0x85 || c.toNat == 0xA0 ||
    c.toNat == 0x1680 || (0x2000 ≤ c.toNat && c.toNat ≤ 0x200A) || c.toNat == 0x2028 ||
    c.toNat == 0x2029 || c.toNat == 0x202F || c.toNat == 0x205F || c.toNat == 0x3000

def trimStart (cs : List Char) : List Char := cs.dropWhile isBlank

def trimEnd (cs : List Char) : List Char := (cs.reverse.dropWhile isBlank).reverse

def trimChars (cs : List Char) : List Char := trimEnd (trimStart cs)

def trim (s : String) : String := String.ofList (trimChars s.toList)

def isBlankText (s : String) : Bool := s.toList.all isBlank

/-- The maximal runs of characters outside `sep`, in order. -/
def pieces (sep : Char → Bool) (cs : List Char) : List (List Char) :=
  let step (c : Char) : List (List Char) × List Char → List (List Char) × List Char
    | (done, current) =>
      if sep c then (if current.isEmpty then done else current :: done, [])
      else (done, c :: current)
  let (done, current) := cs.foldr step ([], [])
  if current.isEmpty then done else current :: done

def words (s : String) : List (List Char) := pieces isBlank s.toList

/-- Splits at every occurrence of a character, keeping empty parts. -/
def splitChars (sep : Char) : List Char → List (List Char)
  | [] => [[]]
  | c :: rest =>
    if c = sep then [] :: splitChars sep rest
    else match splitChars sep rest with
      | [] => [[c]]
      | part :: parts => (c :: part) :: parts

def splitOnChar (sep : Char) (s : String) : List String :=
  (splitChars sep s.toList).map String.ofList

def hasInfix (needle : List Char) : List Char → Bool
  | [] => needle.isEmpty
  | c :: rest => needle.isPrefixOf (c :: rest) || hasInfix needle rest

def startsWith (start s : String) : Bool := start.toList.isPrefixOf s.toList

end DeviceWatch.Text
