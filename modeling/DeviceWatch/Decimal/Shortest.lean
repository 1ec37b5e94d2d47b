/-!
The shortest decimal text that reads back as a given double.

A finite double stands for `m * 2 ^ q`, and every real nearer to it than to its neighbours reads
back as it.  For one digit, two digits and so on, the two points of the decimal grid around the
value are tried; the first grid with a point in that interval gives the digits.
-/

namespace DeviceWatch.Decimal

/-- A positive double as `mantissa * 2 ^ exponent`; `closed` says whether the ends of its rounding
interval belong to it, `belowHalf` whether the gap below is half the gap above. -/
structure Dyadic where
  mantissa : Nat
  exponent : Int
  closed : Bool
  belowHalf : Bool

def Dyadic.ofBits (bits : Nat) : Dyadic :=
  let fraction : Nat := bits % Nat.pow 2 52
  let biased : Nat := bits / Nat.pow 2 52 % Nat.pow 2 11
  if biased = 0 then ⟨fraction, -1074, fraction % 2 == 0, false⟩
  else ⟨Nat.pow 2 52 + fraction, (biased : Int) - 1075, fraction % 2 == 0, fraction == 0 && biased > 1⟩

structure Scientific where
  digits : Nat
  exponent : Int

/-- `n * 2 ^ e / 10 ^ k` as a quotient of naturals. -/
def quotient (n : Nat) (e k : Int) : Nat × Nat :=
  (n * Nat.pow 2 e.toNat * Nat.pow 10 (-k).toNat, Nat.pow 2 (-e).toNat * Nat.pow 10 k.toNat)

/-- The exponent of the leading decimal digit. -/
def Dyadic.leading (x : Dyadic) : Int :=
  let (num, den) := quotient x.mantissa x.exponent (-400)
  (Nat.toDigits 10 (num / den)).length - 401

/-- The point of the grid of step `10 ^ k` that reads back as `x`, the nearer one if both do. -/
def Dyadic.onGrid? (x : Dyadic) (k : Int) : Option Nat :=
  let (value, den) := quotient (4 * x.mantissa) (x.exponent - 2) k
  let (unit, _) := quotient 1 (x.exponent - 2) k
  let low := value - (if x.belowHalf then unit else 2 * unit)
  let high := value + 2 * unit
  let inside (d : Nat) : Bool :=
    if x.closed then low ≤ d * den && d * den ≤ high else low < d * den && d * den < high
  let d := value / den
  match inside d && d != 0, inside (d + 1) with
  | true, true =>
    let left := value - d * den
    let right := (d + 1) * den - value
    if left < right || (left == right && d % 2 == 0) then some d else some (d + 1)
  | true, false => some d
  | false, true => some (d + 1)
  | false, false => none

/-- Seventeen digits always suffice, so the search has a hit. -/
def Dyadic.shortest (x : Dyadic) : Scientific :=
  let grids := (List.range 17).map fun (n : Nat) => x.leading - (n : Int)
  match grids.findSome? fun k => (x.onGrid? k).map fun d => Scientific.mk d k with
  | some found => found
  | none => ⟨0, 0⟩

def Scientific.strip : Nat → Scientific → Scientific
  | 0, s => s
  | fuel + 1, s =>
    if s.digits != 0 && s.digits % 10 == 0 then strip fuel ⟨s.digits / 10, s.exponent + 1⟩ else s

/-- Where positional notation ends: the point may stand up to `maxPoint` digits to the right of the
first digit and up to `maxZeros` zeros to its left. -/
structure Layout where
  maxPoint : Int
  maxZeros : Int

/-- Numbers of a document are positional from `1e-5` up to sixteen digits before the point, and
always show a fraction or an exponent. -/
def Layout.document : Layout := ⟨16, 5⟩

def zeros (n : Int) : String := String.ofList (List.replicate n.toNat '0')

def Scientific.render (layout : Layout) (s : Scientific) : String :=
  let digits := toString s.digits
  let point : Int := digits.length + s.exponent
  if 0 ≤ s.exponent ∧ point ≤ layout.maxPoint then digits ++ zeros s.exponent ++ ".0"
  else if 0 < point ∧ point ≤ layout.maxPoint then
    let (whole, fraction) := digits.toList.splitAt point.toNat
    String.ofList whole ++ "." ++ String.ofList fraction
  else if -layout.maxZeros < point ∧ point ≤ 0 then "0." ++ zeros (-point) ++ digits
  else
    let power := "e" ++ toString (point - 1)
    match digits.toList with
    | [] => power
    | [d] => String.ofList [d] ++ power
    | d :: fraction => String.ofList [d] ++ "." ++ String.ofList fraction ++ power

def ofFloat (x : Float) : String :=
  let bits := x.toBits.toNat
  let sign := if bits / Nat.pow 2 63 = 1 then "-" else ""
  let magnitude := bits % Nat.pow 2 63
  if magnitude = 0 then sign ++ "0.0"
  else sign ++ ((Dyadic.ofBits magnitude).shortest.strip 20).render .document

end DeviceWatch.Decimal
