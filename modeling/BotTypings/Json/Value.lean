import BotTypings.Json.Node

/-! JSON values held in memory, and the two ways to pass over a node without knowing its type: loading
it completely, or skipping it. Loading decodes texts, computes numbers and allows a bounded nesting;
skipping does none of that. -/
namespace BotTypings.Json

open BotTypings.Decimal

inductive Value where
  | null
  | bool (b : Bool)
  | integer (n : Int)
  | float (x : Binary64)
  | text (s : String)
  | list (items : List Value)
  | record (members : List (String × Value))
  deriving Inhabited

def deepest : Nat := 127

def Number.toValue : Number → Value
  | .integer n => .integer n
  | .float x => .float x

def Numeral.read (n : Numeral) : Except Fault Number :=
  match n.value with
  | some number => .ok number
  | none => .error .numberOutOfRange

def enter : Nat → Except Fault Nat
  | 0 => .error .tooDeep
  | room + 1 => .ok room

def finishList (ending : ListEnd) : Except Fault Unit :=
  match ending.break? with
  | none => .ok ()
  | some why => .error why.read

def finishRecord (ending : Option Break) : Except Fault Unit :=
  match ending with
  | none => .ok ()
  | some why => .error why.read

mutual

def Node.load (room : Nat) : Node → Except Fault Value
  | .null => .ok .null
  | .bool b => .ok (.bool b)
  | .number n => n.read.map Number.toValue
  | .text content => content.map Value.text
  | .list items ending => do
    let room ← enter room
    let values ← loadItems room items
    finishList ending
    return .list values
  | .record members ending => do
    let room ← enter room
    let values ← loadMembers room members
    finishRecord ending
    return .record values
  | .broken why => .error why.read

def loadItems (room : Nat) : List Node → Except Fault (List Value)
  | [] => .ok []
  | n :: rest => do
    let v ← n.load room
    let vs ← loadItems room rest
    return v :: vs

def loadMembers (room : Nat) : List (Key × Node) → Except Fault (List (String × Value))
  | [] => .ok []
  | (key, n) :: rest => do
    let k ← key
    let v ← n.load room
    let vs ← loadMembers room rest
    return (k, v) :: vs

end

mutual

def Node.skip : Node → Except Fault Unit
  | .null | .bool _ | .number _ | .text _ => .ok ()
  | .list items ending => do
    skipItems items
    match ending.break? with
    | none => return ()
    | some why => throw why.skipped
  | .record members ending => do
    skipMembers members
    match ending with
    | none => return ()
    | some why => throw why.skipped
  | .broken why => .error why.skipped

def skipItems : List Node → Except Fault Unit
  | [] => .ok ()
  | n :: rest => do
    n.skip
    skipItems rest

def skipMembers : List (Key × Node) → Except Fault Unit
  | [] => .ok ()
  | (_, n) :: rest => do
    n.skip
    skipMembers rest

end

end BotTypings.Json
