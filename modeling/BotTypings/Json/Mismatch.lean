import BotTypings.Decimal.Shortest
import BotTypings.Json.Value
import BotTypings.Text.Blank

/-! What can be wrong with sound JSON: something of another type or range than wanted, a member that is
missing or repeated, an unknown tag, a list of the wrong length. Reading stops at the first fault or
mismatch in reading order. -/
namespace BotTypings.Json

open BotTypings.Decimal BotTypings.Text

inductive Found where
  | null
  | bool (b : Bool)
  | integer (n : Int)
  | float (x : Binary64)
  | text (s : String)
  | list
  | record
  deriving DecidableEq, Repr

def Found.describe : Found → String
  | null => "null"
  | bool b => "boolean `" ++ (if b then "true" else "false") ++ "`"
  | integer n => "integer `" ++ toString n ++ "`"
  | float x => "floating point `" ++ compactText x ++ "`"
  | text s => "string " ++ quoted s
  | list => "sequence"
  | record => "map"

def Found.ofNumber : Number → Found
  | .integer n => .integer n
  | .float x => .float x

def Value.found : Value → Found
  | .null => .null
  | .bool b => .bool b
  | .integer n => .integer n
  | .float x => .float x
  | .text s => .text s
  | .list _ => .list
  | .record _ => .record

/-- What stands at a node. A container is not looked into, anything else is read to its end. -/
def Node.found : Node → Except Fault Found
  | .null => .ok .null
  | .bool b => .ok (.bool b)
  | .number n => n.read.map Found.ofNumber
  | .text content => content.map Found.text
  | .list _ _ => .ok .list
  | .record _ _ => .ok .record
  | .broken why => .error why.read

inductive Mismatch where
  | wrongType (found : Found) (wanted : String)
  | wrongValue (found : Found) (wanted : String)
  | missingField (name : String)
  | repeatedField (name : String)
  | unknownTag (tag : String) (known : List String)
  | wrongLength (length : Nat) (wanted : String)
  | unwritable (what : String)
  deriving DecidableEq, Repr

def Mismatch.message : Mismatch → String
  | wrongType found wanted => "invalid type: " ++ found.describe ++ ", expected " ++ wanted
  | wrongValue found wanted => "invalid value: " ++ found.describe ++ ", expected " ++ wanted
  | missingField name => "missing field `" ++ name ++ "`"
  | repeatedField name => "duplicate field `" ++ name ++ "`"
  | unknownTag tag known =>
    "unknown variant `" ++ tag ++ "`, expected one of " ++
      joined ", " (known.map fun name => "`" ++ name ++ "`")
  | wrongLength length wanted => "invalid length " ++ toString length ++ ", expected " ++ wanted
  | unwritable what => "the enum variant " ++ what ++ " cannot be serialized"

inductive ReadError where
  | fault (f : Fault)
  | mismatch (m : Mismatch)
  deriving DecidableEq, Repr

def ReadError.category : ReadError → Category
  | fault f => f.category
  | mismatch _ => .data

def ReadError.message : ReadError → String
  | fault f => f.message
  | mismatch m => m.message

def faulty {α : Type} : Except Fault α → Except ReadError α := Except.mapError .fault

def mismatched {α : Type} : Except Mismatch α → Except ReadError α := Except.mapError .mismatch

/-- A wrong type at a node; a fault inside a scalar there comes first. -/
def Node.refuse {α : Type} (n : Node) (wanted : String) : Except ReadError α := do
  let found ← faulty n.found
  throw (.mismatch (.wrongType found wanted))

end BotTypings.Json
