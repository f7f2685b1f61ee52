import BotTypings.Decimal.Binary64
import BotTypings.Json.Numeral
import BotTypings.Json.Quoting

/-! What a plain scalar stands for: nothing, a truth value, an integer, a float, or the text itself.
Integers have a sign and a base; a number with a leading zero that has only digits is a text. -/
namespace BotTypings.Yaml

open BotTypings.Decimal BotTypings.Json

inductive Resolved where
  | null
  | bool (b : Bool)
  | integer (n : Int)
  | wide (n : Int)
  | float (x : Binary64)
  | text
  deriving DecidableEq, Repr

def isNull (s : String) : Bool := s == "null" || s == "Null" || s == "NULL" || s == "~"

def bool? (s : String) : Option Bool :=
  if s = "true" ∨ s = "True" ∨ s = "TRUE" then some true
  else if s = "false" ∨ s = "False" ∨ s = "FALSE" then some false
  else none

def digitsFrom (base soFar : Nat) : List Char → Option Nat
  | [] => some soFar
  | d :: ds => do
    let value ← hexValue? d
    if value < base then digitsFrom base (soFar * base + value) ds else none

def natural? (base : Nat) (digits : List Char) : Option Nat :=
  if digits.isEmpty then none else digitsFrom base 0 digits

def withoutPlus : List Char → List Char
  | '+' :: cs => cs
  | cs => cs

def hasLeadingZero (cs : List Char) : Bool :=
  let digits := match cs with
    | '+' :: rest => rest
    | '-' :: rest => rest
    | rest => rest
  match digits with
  | '0' :: rest => !rest.isEmpty && rest.all Char.isDigit
  | _ => false

def based? : List Char → Option (Nat × List Char)
  | '0' :: 'x' :: ds => some (16, ds)
  | '0' :: 'o' :: ds => some (8, ds)
  | '0' :: 'b' :: ds => some (2, ds)
  | _ => none

def integer? (cs : List Char) : Option Int :=
  let magnitude (digits : List Char) : Option Nat :=
    match based? digits with
    | some (base, ds) => natural? base ds
    | none => if hasLeadingZero cs then none else natural? 10 digits
  match cs with
  | '-' :: digits => (magnitude digits).map fun n => -(n : Int)
  | cs => (magnitude (withoutPlus cs)).map fun n => (n : Int)

/-- The exponent behind a mantissa, nothing when something else is there. -/
def exponent? : List Char → Option Int
  | [] => some 0
  | c :: rest =>
    if c = 'e' ∨ c = 'E' then
      let (negative, digits) := match rest with
        | '+' :: ds => (false, ds)
        | '-' :: ds => (true, ds)
        | ds => (false, ds)
      if digits.all Char.isDigit then
        (natural? 10 digits).map fun n => if negative then -(n : Int) else n
      else none
    else none

/-- Far more than any exponent that leaves a number between zero and infinity for a text of the given
length. -/
def exponentBound (length : Nat) : Int := 400 + length

/-- The value of decimal digits with an optional point and exponent, correctly rounded, when it is
finite. -/
def decimal? (negative : Bool) (cs : List Char) : Option Binary64 := do
  let whole := cs.takeWhile Char.isDigit
  let rest := cs.dropWhile Char.isDigit
  let (fraction, rest) := match rest with
    | '.' :: rest => (rest.takeWhile Char.isDigit, rest.dropWhile Char.isDigit)
    | rest => ([], rest)
  if whole.isEmpty && fraction.isEmpty then none
  let e ← exponent? rest
  let bound := exponentBound cs.length
  let e := max (-bound) (min bound e)
  let x := Binary64.ofDecimal negative (naturalOf (whole ++ fraction)) (e - fraction.length)
  if x.isFinite then some x else none

def float? (cs : List Char) : Option Binary64 :=
  let s := String.ofList cs
  let unsigned := withoutPlus cs
  let u := String.ofList unsigned
  if u = ".inf" ∨ u = ".Inf" ∨ u = ".INF" then
    some (Binary64.ofMagnitude false Binary64.infiniteBits)
  else if s = "-.inf" ∨ s = "-.Inf" ∨ s = "-.INF" then
    some (Binary64.ofMagnitude true Binary64.infiniteBits)
  else if s = ".nan" ∨ s = ".NaN" ∨ s = ".NAN" then
    some (Binary64.ofMagnitude false (Binary64.infiniteBits + unsignedEnd 51))
  else match cs with
    | '+' :: rest => decimal? false rest
    | '-' :: rest => decimal? true rest
    | rest => decimal? false rest

def Resolved.ofInteger? (n : Int) : Option Resolved :=
  if signedMin 64 ≤ n ∧ n ≤ unsignedMax 64 then some (.integer n)
  else if signedMin 128 ≤ n ∧ n ≤ unsignedMax 128 then some (.wide n)
  else none

def resolve (s : String) : Resolved :=
  let cs := s.toList
  if cs.isEmpty || isNull s then .null
  else match bool? s with
    | some b => .bool b
    | none =>
      match (integer? cs).bind Resolved.ofInteger? with
      | some number => number
      | none =>
        if hasLeadingZero cs then .text
        else match float? cs with
          | some x => .float x
          | none => .text

end BotTypings.Yaml
