import BotTypings.Decimal.Width

/-! Double precision numbers as their sixty-four bits. Arithmetic is exact on natural numbers and
rounds once, to the nearest number and to the even one of two neighbours; nothing here depends on the
machine's own floating point. -/
namespace BotTypings.Decimal

structure Binary64 where
  bits : UInt64
  deriving DecidableEq, Repr, Inhabited

namespace Binary64

def signBit : Nat := unsignedEnd 63

def leadingBit : Nat := unsignedEnd 52

def infiniteBits : Nat := 0x7FF0000000000000

def ofMagnitude (negative : Bool) (magnitude : Nat) : Binary64 :=
  ⟨UInt64.ofNat (if negative then signBit + magnitude else magnitude)⟩

def magnitude (x : Binary64) : Nat := x.bits.toNat % signBit
def isNegative (x : Binary64) : Bool := signBit ≤ x.bits.toNat
def isZero (x : Binary64) : Bool := x.magnitude == 0
def isInfinite (x : Binary64) : Bool := x.magnitude == infiniteBits
def isFinite (x : Binary64) : Bool := x.magnitude < infiniteBits
def isNaN (x : Binary64) : Bool := infiniteBits < x.magnitude

def negated (x : Binary64) : Binary64 := ofMagnitude (!x.isNegative) x.magnitude

/-- The quotient rounded to the nearest natural number, a half to the even one. -/
def roundQuotient (num den : Nat) : Nat :=
  let q := num / den
  let r := num % den
  if 2 * r < den then q
  else if den < 2 * r then q + 1
  else if q % 2 = 0 then q else q + 1

def powerFraction (base : Nat) (e : Int) : Nat × Nat := 
  (Nat.pow base e.toNat, Nat.pow base (-e).toNat)

/-- The number nearest to `num / den`; beyond the largest finite one it is infinite. The exponent is
the one that leaves fifty-three bits, or the least there is. -/
def ofRatio (negative : Bool) (num den : Nat) : Binary64 :=
  if num = 0 then ofMagnitude negative 0
  else
    let guess : Int := max ((num.log2 : Int) - den.log2 - 53) (-1074)
    let quotient (e : Int) : Nat × Nat :=
      let (above, below) := powerFraction 2 e
      (num * below, den * above)
    let (n, d) := quotient guess
    let e := if 2 * leadingBit ≤ n / d then guess + 1 else guess
    let (n, d) := quotient e
    ofMagnitude negative (min infiniteBits ((e + 1074).toNat * leadingBit + roundQuotient n d))

def ofNat (n : Nat) : Binary64 := ofRatio false n 1

def ofInt (n : Int) : Binary64 := ofRatio (n < 0) n.natAbs 1

/-- `significand * 10 ^ exponent`, rounded once. -/
def ofDecimal (negative : Bool) (significand : Nat) (exponent : Int) : Binary64 :=
  let (above, below) := powerFraction 10 exponent
  ofRatio negative (significand * above) below

def parts (x : Binary64) : Nat × Int :=
  let field : Nat := x.magnitude / leadingBit
  let fraction : Nat := x.magnitude % leadingBit
  if field = 0 then (fraction, -1074) else (fraction + leadingBit, (field : Int) - 1075)

def times (x y : Binary64) : Binary64 :=
  let (m, e) := x.parts
  let (n, f) := y.parts
  let (above, below) := powerFraction 2 (e + f)
  ofRatio (x.isNegative != y.isNegative) (m * n * above) below

/-- The quotient of two finite numbers, the second not zero, rounded once. -/
def dividedBy (x y : Binary64) : Binary64 :=
  let (m, e) := x.parts
  let (n, f) := y.parts
  let (above, below) := powerFraction 2 (e - f)
  ofRatio (x.isNegative != y.isNegative) (m * above) (n * below)

end Binary64

end BotTypings.Decimal
