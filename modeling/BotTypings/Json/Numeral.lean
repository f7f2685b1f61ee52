import BotTypings.Decimal.Binary64
import BotTypings.Json.Fault

/-! Number tokens. A numeral is the written form; its value is an integer when it has neither fraction
nor exponent and fits sixty-four bits, and a double otherwise.

A double is computed from the digits that fit sixty-four bits: further integer digits only raise the
exponent, further fraction digits are dropped, and the power of ten is multiplied or divided in at most
steps of 10^308, each rounded. The result can differ from the nearest double in the last place. -/
namespace BotTypings.Json

open BotTypings.Decimal

structure Numeral where
  negative : Bool
  whole : List Char
  fraction : List Char
  exponent : Option (Bool × List Char)
  deriving DecidableEq, Repr

inductive Number where
  | integer (n : Int)
  | float (x : Binary64)
  deriving DecidableEq, Repr

def digitValue (c : Char) : Nat := c.toNat - 48

/-- Digits joined to a significand while it stays below 2^64; the others are left. -/
def significand (soFar : Nat) : List Char → Nat × List Char
  | [] => (soFar, [])
  | d :: ds =>
    let next := soFar * 10 + digitValue d
    if next < unsignedEnd 64 then significand next ds else (soFar, d :: ds)

/-- The value of a digit sequence, without any limit. -/
def naturalOf (digits : List Char) : Nat :=
  digits.foldl (fun n d => n * 10 + digitValue d) 0

def exponentLimit : Nat := unsignedEnd 31 - 1

/-- `x * 10 ^ exponent`, in steps of at most 10^308, nothing when it leaves the finite numbers. The
fuel bounds the divisions; one below that many would be zero already. -/
def scaled : Nat → Binary64 → Int → Option Binary64
  | 0, x, _ => some x
  | fuel + 1, x, exponent =>
    if exponent.natAbs ≤ 308 then
      let power := Binary64.ofDecimal false 1 exponent.natAbs
      if 0 ≤ exponent then
        let y := x.times power
        if y.isInfinite then none else some y
      else some (x.dividedBy power)
    else if x.isZero then some x
    else if 0 ≤ exponent then none
    else scaled fuel (x.dividedBy (Binary64.ofDecimal false 1 308)) (exponent + 308)

/-- The double of a numeral's digits, without its sign. -/
def Numeral.magnitude (n : Numeral) : Option Binary64 :=
  let (whole, wholeLeft) := significand 0 n.whole
  let (digits, fractionLeft) := significand whole n.fraction
  let point : Int := wholeLeft.length - (n.fraction.length - fractionLeft.length : Nat)
  match n.exponent with
  | none => scaled 10 (Binary64.ofNat digits) point
  | some (negative, exponentDigits) =>
    let e := naturalOf exponentDigits
    if exponentLimit < e then
      if digits ≠ 0 ∧ !negative then none else some (Binary64.ofNat 0)
    else scaled 10 (Binary64.ofNat digits) (if negative then point - e else point + e)

/-- The value of a numeral, nothing when it is too large to be finite. Minus zero is a double. -/
def Numeral.value (n : Numeral) : Option Number :=
  let natural := naturalOf n.whole
  if n.fraction.isEmpty ∧ n.exponent.isNone ∧ !n.negative ∧ natural < unsignedEnd 64 then
    some (.integer natural)
  else if n.fraction.isEmpty ∧ n.exponent.isNone ∧ n.negative ∧ 0 < natural ∧ natural ≤ unsignedEnd 63 then
    some (.integer (-(natural : Int)))
  else n.magnitude.map fun x => .float (if n.negative then x.negated else x)

end BotTypings.Json
