import BotTypings.Decimal.Shortest
import BotTypings.Json.Value

/-! Values as JSON text: compact on one line, or spread over lines with two blanks for each level. The
members of a record are written in the order in which they are held. -/
namespace BotTypings.Json

open BotTypings.Decimal

mutual

def Value.compact : Value → String
  | .null => "null"
  | .bool b => if b then "true" else "false"
  | .integer n => toString n
  | .float x => compactText x
  | .text s => encodeText s
  | .list [] => "[]"
  | .list (v :: vs) => "[" ++ v.compact ++ compactItems vs
  | .record [] => "\x7b\x7d"
  | .record ((key, v) :: members) =>
    "\x7b" ++ encodeText key ++ ":" ++ v.compact ++ compactMembers members

def compactItems : List Value → String
  | [] => "]"
  | v :: vs => "," ++ v.compact ++ compactItems vs

def compactMembers : List (String × Value) → String
  | [] => "\x7d"
  | (key, v) :: members => "," ++ encodeText key ++ ":" ++ v.compact ++ compactMembers members

end

def lineAt (level : Nat) : String := "\n" ++ String.ofList (List.replicate (2 * level) ' ')

mutual

def Value.pretty (level : Nat) : Value → String
  | .null => "null"
  | .bool b => if b then "true" else "false"
  | .integer n => toString n
  | .float x => compactText x
  | .text s => encodeText s
  | .list [] => "[]"
  | .list (v :: vs) =>
    "[" ++ lineAt (level + 1) ++ v.pretty (level + 1) ++ prettyItems level vs
  | .record [] => "\x7b\x7d"
  | .record ((key, v) :: members) =>
    "\x7b" ++ lineAt (level + 1) ++ encodeText key ++ ": " ++ v.pretty (level + 1) ++
      prettyMembers level members

def prettyItems (level : Nat) : List Value → String
  | [] => lineAt level ++ "]"
  | v :: vs => "," ++ lineAt (level + 1) ++ v.pretty (level + 1) ++ prettyItems level vs

def prettyMembers (level : Nat) : List (String × Value) → String
  | [] => lineAt level ++ "\x7d"
  | (key, v) :: members =>
    "," ++ lineAt (level + 1) ++ encodeText key ++ ": " ++ v.pretty (level + 1) ++
      prettyMembers level members

end

end BotTypings.Json
