import BotTypings.Json.Mismatch
import BotTypings.Json.Node

/-! Lists of currency codes. The published document is either a list of codes or a record keyed by
code; what the keys carry does not matter. A first value of another shape is refused whatever follows
it, and only then is anything behind the value refused. -/
namespace BotTypings

open BotTypings.Json

inductive CurrencyError where
  | json (f : Fault)
  | unsupportedShape
  deriving DecidableEq, Repr

def CurrencyError.message : CurrencyError → String
  | json f => "failed to parse currency list: " ++ f.message
  | unsupportedShape =>
    "unsupported currency list shape: expected an array of codes or an object keyed by code"

def allTexts? : List Value → Option (List String)
  | [] => some []
  | .text s :: rest => (allTexts? rest).map (s :: ·)
  | _ :: _ => none

def distinctKeys (seen : List String) : List (String × Value) → List String
  | [] => []
  | (key, _) :: rest =>
    if key ∈ seen then distinctKeys seen rest else key :: distinctKeys (key :: seen) rest

def currencyCodes? : Value → Option (List String)
  | .list items => allTexts? items
  | .record members => some (distinctKeys [] members)
  | _ => none

def readCurrencies (text : String) : Except CurrencyError (List String) :=
  let document := Document.ofText text
  match document.root.load deepest with
  | .error f => .error (.json f)
  | .ok v =>
    match currencyCodes? v with
    | none => .error .unsupportedShape
    | some codes => if document.trailing then .error (.json .trailingCharacters) else .ok codes

end BotTypings
