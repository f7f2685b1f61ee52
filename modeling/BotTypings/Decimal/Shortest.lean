import BotTypings.Decimal.Binary64

/-! The fewest decimal digits that still read back as the same number, and two ways to lay them out.
A number is the centre of an interval of reals that round to it, its ends included exactly when its
significand is even. On the grid of `n` digits only the two neighbours of the number can be the
nearest hit, so the first grid with a hit gives the digits. -/
namespace BotTypings.Decimal

/-- `digits * 10 ^ exponent`, the digits without a final zero. -/
structure Digits where
  digits : Nat
  exponent : Int
  deriving DecidableEq, Repr

/-- Final zeros moved into the exponent. The fuel is the number of digits. -/
def Digits.trimmed : Nat → Digits → Digits
  | 0, d => d
  | fuel + 1, d =>
    if d.digits ≠ 0 ∧ d.digits % 10 = 0 then Digits.trimmed fuel ⟨d.digits / 10, d.exponent + 1⟩ else d

structure Interval where
  low : Nat
  centre : Nat
  high : Nat
  exponent : Int
  closed : Bool

def interval (x : Binary64) : Interval :=
  let (m, q) := x.parts
  let narrow : Bool := decide (m = Binary64.leadingBit) && decide (-1074 < q)
  { low := 4 * m - (if narrow then 1 else 2)
    centre := 4 * m
    high := 4 * m + 2
    exponent := q - 2
    closed := decide (m % 2 = 0) }

/-- The decimal exponent of the leading digit of `num / den`: the greatest `e` with
`10 ^ e ≤ num / den`. -/
def leadingExponent (num den : Nat) : Int :=
  if den ≤ num then ((Nat.toDigits 10 (num / den)).length : Int) - 1
  else
    match (List.range 400).find? (fun t => den ≤ num * Nat.pow 10 t) with
    | some t => -(t : Int)
    | none => -400

/-- The nearer neighbour on the grid of `10 ^ k` that lies in the interval; of two equally near ones
the even one. -/
def gridHit (i : Interval) (k : Int) : Option Nat :=
  let (tens, tenths) := Binary64.powerFraction 10 k
  let (twos, halves) := Binary64.powerFraction 2 i.exponent
  let place (end_ : Nat) := end_ * twos * tenths
  let unit := tens * halves
  let below := place i.centre / unit
  let inside (c : Nat) : Bool :=
    let p := c * unit
    if i.closed then place i.low ≤ p && p ≤ place i.high else place i.low < p && p < place i.high
  let down := place i.centre - below * unit
  let up := (below + 1) * unit - place i.centre
  match inside below, inside (below + 1) with
  | true, true =>
    if down < up then some below
    else if up < down then some (below + 1)
    else if below % 2 = 0 then some below else some (below + 1)
  | true, false => some below
  | false, true => some (below + 1)
  | false, false => none

def shortest (x : Binary64) : Digits :=
  let i := interval x
  let (twos, halves) := Binary64.powerFraction 2 i.exponent
  let lead := leadingExponent (i.centre * twos) halves
  let hit := (List.range 17).findSome? fun (n : Nat) =>
    let k : Int := lead - n
    (gridHit i k).map fun c => Digits.mk c k
  Digits.trimmed 18 (hit.getD ⟨0, 0⟩)

def zeros (n : Nat) : String := String.ofList (List.replicate n '0')

/-- The digits with a point in place, always with a digit on both sides of it. -/
def positional (d : Digits) : String :=
  let ds := Nat.toDigits 10 d.digits
  let point : Int := ds.length + d.exponent
  if 0 ≤ d.exponent then String.ofList ds ++ zeros d.exponent.toNat ++ ".0"
  else if 0 < point then
    String.ofList (ds.take point.toNat) ++ "." ++ String.ofList (ds.drop point.toNat)
  else "0." ++ zeros (-point).toNat ++ String.ofList ds

def scientific (d : Digits) : String :=
  let ds := Nat.toDigits 10 d.digits
  let e : Int := ds.length + d.exponent - 1
  let fraction := match ds.drop 1 with
    | [] => ""
    | rest => "." ++ String.ofList rest
  String.ofList (ds.take 1) ++ fraction ++ "e" ++ (if e < 0 then "-" else "+") ++ toString e.natAbs

def signed (x : Binary64) (text : String) : String := if x.isNegative then "-" ++ text else text

/-- Positional from a hundred-thousandth up to below ten to the sixteenth, with an exponent
otherwise. -/
def compactText (x : Binary64) : String :=
  if x.isZero then signed x "0.0"
  else
    let d := shortest x
    let point : Int := (Nat.toDigits 10 d.digits).length + d.exponent
    signed x (if -5 < point ∧ point ≤ 16 then positional d else scientific d)

def plainText (x : Binary64) : String :=
  if x.isZero then signed x "0.0"
  else if x.isInfinite then signed x "inf"
  else if !x.isFinite then "NaN"
  else signed x (positional (shortest x))

end BotTypings.Decimal
