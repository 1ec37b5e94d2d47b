import DeviceWatch.Json.Text

/-!
Passing over values that nobody looks at.

Only the form of the text counts here: values may nest as deep as they like, numbers may be of any size,
and escapes may name half of a surrogate pair.
-/

namespace DeviceWatch.Json

/-- What follows a quoted text whose opening quote has been read. -/
def skipQuoted? : List Char → Option (List Char)
  | [] => none
  | '"' :: rest => some rest
  | '\\' :: 'u' :: a :: b :: c :: d :: rest =>
    if (Text.natIn? 16 [a, b, c, d]).isSome then skipQuoted? rest else none
  | '\\' :: c :: rest =>
    if ['"', '\\', '/', 'b', 'f', 'n', 'r', 't'].contains c then skipQuoted? rest else none
  | c :: rest => if c.toNat < 0x20 then none else skipQuoted? rest

def skipNumber? (cs : List Char) : Option (List Char) :=
  match cs.takeWhile Char.isDigit with
  | [] | '0' :: _ :: _ => none
  | _ => do
    let (_, rest) ← (readFraction (cs.dropWhile Char.isDigit)).toOption
    let (_, rest) ← (readExponent rest).toOption
    return rest

def skipLiteral? (name cs : List Char) : Option (List Char) :=
  ((readLiteral name .null cs).toOption).map Prod.snd

mutual

def skipValue? : Nat → List Char → Option (List Char)
  | 0, _ => none
  | fuel + 1, cs =>
    match skipSpace cs with
    | 'n' :: rest => skipLiteral? ['u', 'l', 'l'] rest
    | 't' :: rest => skipLiteral? ['r', 'u', 'e'] rest
    | 'f' :: rest => skipLiteral? ['a', 'l', 's', 'e'] rest
    | '"' :: rest => skipQuoted? rest
    | '-' :: rest => skipNumber? rest
    | '[' :: rest =>
      match skipSpace rest with
      | ']' :: rest => some rest
      | rest => skipItems? fuel rest
    | '\x7b' :: rest =>
      match skipSpace rest with
      | '\x7d' :: rest => some rest
      | rest => skipFields? fuel rest
    | cs => skipNumber? cs

/-- What follows an array, after its bracket or a comma. -/
def skipItems? : Nat → List Char → Option (List Char)
  | 0, _ => none
  | fuel + 1, cs => do
    match skipSpace (← skipValue? fuel cs) with
    | ',' :: rest => skipItems? fuel rest
    | ']' :: rest => some rest
    | _ => none

def skipFields? : Nat → List Char → Option (List Char)
  | 0, _ => none
  | fuel + 1, cs =>
    match skipSpace cs with
    | '"' :: rest => do
      match skipSpace (← skipQuoted? rest) with
      | ':' :: rest =>
        match skipSpace (← skipValue? fuel rest) with
        | ',' :: rest => skipFields? fuel rest
        | '\x7d' :: rest => some rest
        | _ => none
      | _ => none
    | _ => none

end

/-- What follows the value at the start of the text, if its form is right. -/
def skip? (cs : List Char) : Option (List Char) := skipValue? (2 * cs.length + 2) cs

end DeviceWatch.Json
