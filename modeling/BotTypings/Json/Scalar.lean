import BotTypings.Json.Mismatch

/-! Scalars of the target types, read from what was found. An integer of the wrong range is a wrong
value, anything else that is no such scalar a wrong type. -/
namespace BotTypings.Json

open BotTypings.Decimal

def Found.asText : Found → Except Mismatch String
  | .text s => .ok s
  | found => .error (.wrongType found "a string")

def Found.asBool : Found → Except Mismatch Bool
  | .bool b => .ok b
  | found => .error (.wrongType found "a boolean")

def Found.asInteger {α : Type} (low high : Int) (wanted : String) (make : Int → α) :
    Found → Except Mismatch α
  | .integer n =>
    if low ≤ n ∧ n ≤ high then .ok (make n) else .error (.wrongValue (.integer n) wanted)
  | found => .error (.wrongType found wanted)

def Found.asUInt32 : Found → Except Mismatch UInt32 :=
  Found.asInteger 0 (unsignedMax 32) "u32" fun n => UInt32.ofNat n.toNat

def Found.asUInt64 : Found → Except Mismatch UInt64 :=
  Found.asInteger 0 (unsignedMax 64) "u64" fun n => UInt64.ofNat n.toNat

def Found.asInt64 : Found → Except Mismatch Int64 :=
  Found.asInteger (signedMin 64) (signedMax 64) "i64" Int64.ofInt

def Found.asFloat : Found → Except Mismatch Binary64
  | .float x => .ok x
  | .integer n => .ok (Binary64.ofInt n)
  | found => .error (.wrongType found "f64")

def Node.scalar {α : Type} (read : Found → Except Mismatch α) (n : Node) : Except ReadError α := do
  let found ← faulty n.found
  mismatched (read found)

def Value.scalar {α : Type} (read : Found → Except Mismatch α) (v : Value) : Except Mismatch α :=
  read v.found

def Value.optional {α : Type} (read : Value → Except Mismatch α) :
    Value → Except Mismatch (Option α)
  | .null => .ok none
  | v => (read v).map some

def Value.items : Value → Except Mismatch (List Value)
  | .list items => .ok items
  | v => .error (.wrongType v.found "a sequence")

end BotTypings.Json
