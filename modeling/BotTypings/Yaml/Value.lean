import BotTypings.Yaml.Node
import BotTypings.Yaml.Resolve

/-! YAML values of any kind. A text is a value when it holds one whole document in which scalars are what
their tags promise, no record has a key twice, and neither the nesting nor the use of aliases goes beyond
its bounds. Aliases are replaced by what they stand for. -/
namespace BotTypings.Yaml

open BotTypings.Decimal

def promised? (tag text : String) : Option (String × Option Resolved) :=
  if tag = "tag:yaml.org,2002:bool" then some ("a boolean", (bool? text).map .bool)
  else if tag = "tag:yaml.org,2002:int" then
    some ("an integer", (integer? text.toList).bind Resolved.ofInteger?)
  else if tag = "tag:yaml.org,2002:float" then some ("a float", (float? text.toList).map .float)
  else if tag = "tag:yaml.org,2002:null" then
    some ("null", if isNull text then some .null else none)
  else none

def localName? (tag : String) : Option String :=
  match tag.toList with
  | '!' :: name => some (String.ofList name)
  | _ => none

namespace Scalar

def untagged (s : Scalar) : Resolved := if s.form = .plain then resolve s.text else .text

/-- What a scalar stands for, or what its tag promises in vain. -/
def meaning (s : Scalar) : Except String Resolved :=
  match s.tag with
  | none => .ok s.untagged
  | some tag =>
    match promised? tag s.text with
    | some (_, some meaning) => .ok meaning
    | some (promise, none) => .error promise
    | none => .ok (if (localName? tag).isSome then s.untagged else .text)

end Scalar

inductive Value where
  | null
  | bool (b : Bool)
  | integer (n : Int)
  | float (x : Binary64)
  | text (s : String)
  | list (items : List Value)
  | record (members : List (Value × Value))
  | tagged (name : String) (v : Value)

namespace Value

def sameFloat (x y : Binary64) : Bool :=
  x == y || (x.isZero && y.isZero) || (x.isNaN && y.isNaN)

mutual

/-- Equality as keys know it. The order of members does not matter. -/
def same : Value → Value → Bool
  | null, null => true
  | bool b, bool c => b == c
  | integer n, integer m => n == m
  | float x, float y => sameFloat x y
  | text s, text t => s == t
  | list vs, list ws => sameItems vs ws
  | record ms, record ns => ms.length == ns.length && sameMembers ms ns
  | tagged s v, tagged t w => s == t && same v w
  | _, _ => false

def sameItems : List Value → List Value → Bool
  | [], [] => true
  | v :: vs, w :: ws => same v w && sameItems vs ws
  | _, _ => false

def sameMembers : List (Value × Value) → List (Value × Value) → Bool
  | [], _ => true
  | (k, v) :: ms, ns => ns.any (fun (l, w) => same k l && same v w) && sameMembers ms ns

end

def hasDistinctKeys : List (Value × Value) → Bool
  | [] => true
  | (k, _) :: ms => !ms.any (fun (l, _) => same k l) && hasDistinctKeys ms

/-- The value of a scalar with the given text. Integers beyond sixty-four bits have none. -/
def ofResolved? (written : String) : Resolved → Option Value
  | .null => some null
  | .bool b => some (bool b)
  | .integer n => some (integer n)
  | .wide _ => none
  | .float x => some (float x)
  | .text => some (text written)

/-- A value below its tag. A tag of the text's own needs a name, other tags leave no trace. -/
def under? (tag : Option String) (v : Value) : Option Value :=
  match tag.bind localName? with
  | none => some v
  | some name => if name = "" then none else some (tagged name v)

def ofScalar? (s : Scalar) : Option Value := do
  let meaning ← s.meaning.toOption
  under? s.tag (← ofResolved? s.text meaning)

def deepest : Nat := 128

abbrev Reading := StateT Nat Option

/-- What an alias stands for, as long as aliases may be followed. -/
def follow (d : Document) : Node → Reading Node
  | .alias number => do
    match ← get with
    | 0 => failure
    | left + 1 =>
      set left
      return d.target number
  | n => return n

def ofNode (d : Document) : Nat → Node → Reading Value
  | room, n => do
    match ← follow d n with
    | .scalar _ s => ofScalar? s
    | .list _ tag items =>
      match room with
      | 0 => failure
      | room + 1 => do
        let values ← items.mapM (ofNode d room)
        under? tag (list values)
    | .record _ tag members =>
      match room with
      | 0 => failure
      | room + 1 => do
        let values ← members.mapM fun (key, n) => do
          let k ← ofNode d room key
          let v ← ofNode d room n
          return (k, v)
        if hasDistinctKeys values then under? tag (record values) else failure
    | .alias _ | .broken => failure

mutual

def marks : Node → Nat
  | .scalar .. | .alias _ => 1
  | .list _ _ items => 2 + marksOfAll items
  | .record _ _ members => 2 + marksOfMembers members
  | .broken => 0

def marksOfAll : List Node → Nat
  | [] => 0
  | n :: ns => marks n + marksOfAll ns

def marksOfMembers : List (Node × Node) → Nat
  | [] => 0
  | (key, n) :: ms => marks key + marks n + marksOfMembers ms

end

def mostAliases (d : Document) : Nat := 100 * marks d.root

def ofText? (written : String) : Option Value :=
  let d := Document.ofText written
  if d.ending = .complete then (ofNode d deepest d.root).run' (mostAliases d) else none

end Value

end BotTypings.Yaml
