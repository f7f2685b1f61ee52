import BotTypings.Schema.FieldReading

/-! Properties and objects. Both are records whose own members are read where they stand and whose
other members are held until the end, when they describe the kind. They come either straight from the
text or from memory, so reading is stated over a source: what a scalar there is, and how to hold what
is not a scalar. -/
namespace BotTypings

open BotTypings.Json

structure Source (σ ε : Type) where
  found : σ → Except ε Found
  hold : σ → Except ε Value
  fail : Mismatch → ε

def textSource (room : Nat) : Source Node ReadError where
  found n := faulty n.found
  hold n := faulty (n.load room)
  fail := .mismatch

def memorySource : Source Value Mismatch where
  found v := .ok v.found
  hold v := .ok v
  fail := id

/-- An own scalar member that may be given once; a repetition is noticed before its content. -/
def Source.own {σ ε α : Type} (src : Source σ ε) (name : String) (current : Option α)
    (read : Found → Except Mismatch α) (content : σ) : Except ε (Option α) :=
  match current with
  | some _ => .error (src.fail (.repeatedField name))
  | none => do
    let found ← src.found content
    let x ← (read found).mapError src.fail
    return some x

def Source.required {σ ε α : Type} (src : Source σ ε) (name : String) : Option α → Except ε α
  | some x => .ok x
  | none => .error (src.fail (.missingField name))

structure PropertyDraft where
  name : Option String := none
  description : Option String := none
  required : Option Bool := none
  others : List (String × Value) := []

def PropertyDraft.add {σ ε : Type} (src : Source σ ε) (d : PropertyDraft) (key : String)
    (content : σ) : Except ε PropertyDraft :=
  if key = "name" then
    (src.own key d.name Found.asText content).map fun x => { d with name := x }
  else if key = "description" then
    (src.own key d.description Found.asText content).map fun x => { d with description := x }
  else if key = "required" then
    (src.own key d.required Found.asBool content).map fun x => { d with required := x }
  else (src.hold content).map fun v => { d with others := d.others ++ [(key, v)] }

def PropertyDraft.finish {σ ε : Type} (src : Source σ ε) (d : PropertyDraft) :
    Except ε Property := do
  let name ← src.required "name" d.name
  let kind ← (FieldType.ofRecord d.others).mapError src.fail
  return ⟨name, d.description.getD "", d.required.getD false, kind⟩

def PropertyDraft.ofMembers (d : PropertyDraft) :
    List (String × Value) → Except Mismatch PropertyDraft
  | [] => .ok d
  | (key, v) :: rest => do (← d.add memorySource key v).ofMembers rest

def PropertyDraft.ofNodes (room : Nat) (d : PropertyDraft) :
    List (Key × Node) → Except ReadError PropertyDraft
  | [] => .ok d
  | (key, n) :: rest => do
    let key ← faulty key
    (← d.add (textSource room) key n).ofNodes room rest

def Property.ofValue : Value → Except Mismatch Property
  | .record members => do (← PropertyDraft.ofMembers {} members).finish memorySource
  | v => .error (.wrongType v.found "struct Property")

def Property.ofNode (room : Nat) : Node → Except ReadError Property
  | .record members ending => do
    let room ← faulty (enter room)
    let d ← PropertyDraft.ofNodes room {} members
    faulty (finishRecord ending)
    d.finish (textSource room)
  | n => n.refuse "struct Property"

inductive ObjectTag where
  | properties
  | anyOf
  | unknown
  deriving DecidableEq, Repr

def objectTags : Tagging ObjectTag where
  spellings := [("properties", .properties), ("any_of", .anyOf), ("oneOf", .anyOf),
    ("one_of", .anyOf), ("unknown", .unknown)]
  numbered := [.properties, .anyOf, .unknown]

namespace ObjectKind

def propertiesOfMembers (found : Option (List Property)) :
    List (String × Value) → Except Mismatch ObjectKind
  | [] => .ok (properties (found.getD []))
  | (key, v) :: rest => do
    if key = "properties" then
      let given := do (← v.items).mapM Property.ofValue
      propertiesOfMembers (← once key found given) rest
    else propertiesOfMembers found rest

def isVariantsKey (key : String) : Bool := key == "any_of" || key == "one_of" || key == "oneOf"

def variantsOfMembers (found : Option (List FieldType)) :
    List (String × Value) → Except Mismatch ObjectKind
  | [] =>
    match found with
    | some variants => .ok (anyOf variants)
    | none => .error (.missingField "any_of")
  | (key, v) :: rest => do
    if isVariantsKey key then
      variantsOfMembers (← once "any_of" found (FieldType.listOfValue v)) rest
    else variantsOfMembers found rest

def ofRecord (members : List (String × Value)) : Except Mismatch ObjectKind := do
  match ← objectTags.search none members with
  | .properties => propertiesOfMembers none members
  | .anyOf => variantsOfMembers none members
  | .unknown => return unknown

end ObjectKind

structure ObjectDraft where
  name : Option String := none
  description : Option String := none
  documentationLink : Option String := none
  others : List (String × Value) := []

def ObjectDraft.add {σ ε : Type} (src : Source σ ε) (d : ObjectDraft) (key : String)
    (content : σ) : Except ε ObjectDraft :=
  if key = "name" then
    (src.own key d.name Found.asText content).map fun x => { d with name := x }
  else if key = "description" then
    (src.own key d.description Found.asText content).map fun x => { d with description := x }
  else if key = "documentation_link" then
    (src.own key d.documentationLink Found.asText content).map fun x =>
      { d with documentationLink := x }
  else (src.hold content).map fun v => { d with others := d.others ++ [(key, v)] }

def ObjectDraft.finish {σ ε : Type} (src : Source σ ε) (d : ObjectDraft) : Except ε Object := do
  let name ← src.required "name" d.name
  let kind ← (ObjectKind.ofRecord d.others).mapError src.fail
  return ⟨name, d.description.getD "", d.documentationLink.getD "", kind, none⟩

def ObjectDraft.ofNodes (room : Nat) (d : ObjectDraft) :
    List (Key × Node) → Except ReadError ObjectDraft
  | [] => .ok d
  | (key, n) :: rest => do
    let key ← faulty key
    (← d.add (textSource room) key n).ofNodes room rest

def Object.ofNode (room : Nat) : Node → Except ReadError Object
  | .record members ending => do
    let room ← faulty (enter room)
    let d ← ObjectDraft.ofNodes room {} members
    faulty (finishRecord ending)
    d.finish (textSource room)
  | n => n.refuse "struct Object"

end BotTypings
