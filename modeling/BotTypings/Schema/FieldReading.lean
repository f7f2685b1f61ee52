import BotTypings.Json.Scalar
import BotTypings.Schema.Basic

/-! Field types from values in memory. A field type is a record with a `type` member, or a list that
starts with the tag and goes on with the attributes in their declared order. The tag is looked for
first; then the attributes are read in the order in which they stand, those of other types ignored. -/
namespace BotTypings

open BotTypings.Json BotTypings.Decimal

/-- A set of tags: the spellings in the order in which a message lists them, and the tags themselves
in the order by which a number may name them. -/
structure Tagging (τ : Type) where
  spellings : List (String × τ)
  numbered : List τ

def Tagging.ofText {τ : Type} (tags : Tagging τ) (s : String) : Except Mismatch τ :=
  match tags.spellings.lookup s with
  | some t => .ok t
  | none => .error (.unknownTag s (tags.spellings.map (·.1)))

def Tagging.ofIndex {τ : Type} (tags : Tagging τ) (n : Int) : Except Mismatch τ :=
  match tags.numbered[n.toNat]? with
  | some t => .ok t
  | none =>
    .error (.wrongValue (.integer n)
      ("variant index 0 <= i < " ++ toString tags.numbered.length))

def Tagging.ofValue {τ : Type} (tags : Tagging τ) : Value → Except Mismatch τ
  | .text s => tags.ofText s
  | .integer n =>
    if 0 ≤ n then tags.ofIndex n else .error (.wrongType (.integer n) "variant identifier")
  | v => .error (.wrongType v.found "variant identifier")

/-- A tag in the text is always spelled. -/
def Tagging.ofFound {τ : Type} (tags : Tagging τ) : Found → Except Mismatch τ
  | .text s => tags.ofText s
  | found => .error (.wrongType found "variant identifier")

def Tagging.search {τ : Type} (tags : Tagging τ) (seen : Option τ) :
    List (String × Value) → Except Mismatch τ
  | [] =>
    match seen with
    | some t => .ok t
    | none => .error (.missingField "type")
  | (key, v) :: rest =>
    if key = "type" then
      match seen with
      | some _ => .error (.repeatedField "type")
      | none => do
        let t ← tags.ofValue v
        tags.search (some t) rest
    else tags.search seen rest

inductive FieldTag where
  | integer
  | float
  | string
  | bool
  | reference
  | array
  | anyOf
  deriving DecidableEq, Repr

def fieldTags : Tagging FieldTag where
  spellings := [("integer", .integer), ("float", .float), ("string", .string), ("bool", .bool),
    ("reference", .reference), ("array", .array), ("any_of", .anyOf)]
  numbered := [.integer, .float, .string, .bool, .reference, .array, .anyOf]

def once {α : Type} (name : String) (current : Option α) (given : Except Mismatch α) :
    Except Mismatch (Option α) :=
  match current with
  | some _ => .error (.repeatedField name)
  | none => given.map some

/-- The next attribute of a list, or what stands for a missing one. -/
def nextItem {α : Type} (absent : α) (read : Value → Except Mismatch α) :
    List Value → Except Mismatch (α × List Value)
  | [] => .ok (absent, [])
  | v :: rest => (read v).map (·, rest)

/-- Nothing may be left of a list whose attributes have all been read. -/
def noneLeft (declared : Nat) (left : List Value) : Except Mismatch Unit :=
  if left.isEmpty then .ok ()
  else
    let elements := if declared = 1 then " element" else " elements"
    .error (.wrongLength (declared + left.length) (toString declared ++ elements ++ " in sequence"))

namespace FieldType

def int64s (v : Value) : Except Mismatch (List Int64) := do
  (← v.items).mapM (Value.scalar Found.asInt64)

def texts (v : Value) : Except Mismatch (List String) := do
  (← v.items).mapM (Value.scalar Found.asText)

structure IntegerDraft where
  enumeration : Option (List Int64) := none
  default : Option (Option Int64) := none
  min : Option (Option Int64) := none
  max : Option (Option Int64) := none

def IntegerDraft.add (d : IntegerDraft) (member : String × Value) :
    Except Mismatch IntegerDraft :=
  let (key, v) := member
  let bound := v.optional (Value.scalar Found.asInt64)
  if key = "enumeration" then
    (once key d.enumeration (int64s v)).map fun x => { d with enumeration := x }
  else if key = "default" then (once key d.default bound).map fun x => { d with default := x }
  else if key = "min" then (once key d.min bound).map fun x => { d with min := x }
  else if key = "max" then (once key d.max bound).map fun x => { d with max := x }
  else .ok d

def integerOfMembers (members : List (String × Value)) : Except Mismatch FieldType := do
  let d ← members.foldlM IntegerDraft.add {}
  return integer (d.enumeration.getD []) d.default.join d.min.join d.max.join

def integerOfItems (items : List Value) : Except Mismatch FieldType := do
  let bound := Value.optional (Value.scalar Found.asInt64)
  let (enumeration, items) ← nextItem [] int64s items
  let (default, items) ← nextItem none bound items
  let (min, items) ← nextItem none bound items
  let (max, items) ← nextItem none bound items
  noneLeft 4 items
  return integer enumeration default min max

structure FloatDraft where
  default : Option (Option Binary64) := none
  min : Option (Option Binary64) := none
  max : Option (Option Binary64) := none

def FloatDraft.add (d : FloatDraft) (member : String × Value) : Except Mismatch FloatDraft :=
  let (key, v) := member
  let bound := v.optional (Value.scalar Found.asFloat)
  if key = "default" then (once key d.default bound).map fun x => { d with default := x }
  else if key = "min" then (once key d.min bound).map fun x => { d with min := x }
  else if key = "max" then (once key d.max bound).map fun x => { d with max := x }
  else .ok d

def floatOfMembers (members : List (String × Value)) : Except Mismatch FieldType := do
  let d ← members.foldlM FloatDraft.add {}
  return float d.default.join d.min.join d.max.join

def floatOfItems (items : List Value) : Except Mismatch FieldType := do
  let bound := Value.optional (Value.scalar Found.asFloat)
  let (default, items) ← nextItem none bound items
  let (min, items) ← nextItem none bound items
  let (max, items) ← nextItem none bound items
  noneLeft 3 items
  return float default min max

structure StringDraft where
  enumeration : Option (List String) := none
  default : Option (Option String) := none
  minLength : Option (Option UInt64) := none
  maxLength : Option (Option UInt64) := none

def StringDraft.add (d : StringDraft) (member : String × Value) : Except Mismatch StringDraft :=
  let (key, v) := member
  let length := v.optional (Value.scalar Found.asUInt64)
  if key = "enumeration" then
    (once key d.enumeration (texts v)).map fun x => { d with enumeration := x }
  else if key = "default" then
    (once key d.default (v.optional (Value.scalar Found.asText))).map fun x => { d with default := x }
  else if key = "min_len" then (once key d.minLength length).map fun x => { d with minLength := x }
  else if key = "max_len" then (once key d.maxLength length).map fun x => { d with maxLength := x }
  else .ok d

def stringOfMembers (members : List (String × Value)) : Except Mismatch FieldType := do
  let d ← members.foldlM StringDraft.add {}
  return string (d.enumeration.getD []) d.default.join d.minLength.join d.maxLength.join

def stringOfItems (items : List Value) : Except Mismatch FieldType := do
  let length := Value.optional (Value.scalar Found.asUInt64)
  let (enumeration, items) ← nextItem [] texts items
  let (default, items) ← nextItem none (Value.optional (Value.scalar Found.asText)) items
  let (minLength, items) ← nextItem none length items
  let (maxLength, items) ← nextItem none length items
  noneLeft 4 items
  return string enumeration default minLength maxLength

def boolOfMembers (found : Option (Option Bool)) :
    List (String × Value) → Except Mismatch FieldType
  | [] => .ok (bool found.join)
  | (key, v) :: rest => do
    if key = "default" then
      boolOfMembers (← once key found (v.optional (Value.scalar Found.asBool))) rest
    else boolOfMembers found rest

def boolOfItems (items : List Value) : Except Mismatch FieldType := do
  let (default, items) ← nextItem none (Value.optional (Value.scalar Found.asBool)) items
  noneLeft 1 items
  return bool default

def referenceOfMembers (found : Option String) :
    List (String × Value) → Except Mismatch FieldType
  | [] =>
    match found with
    | some name => .ok (reference name)
    | none => .error (.missingField "reference")
  | (key, v) :: rest => do
    if key = "reference" then
      referenceOfMembers (← once key found (v.scalar Found.asText)) rest
    else referenceOfMembers found rest

def referenceOfItems : List Value → Except Mismatch FieldType
  | [] => .error (.wrongLength 0 "struct variant FieldType::Reference with 1 element")
  | v :: rest => do
    let name ← v.scalar Found.asText
    noneLeft 1 rest
    return reference name

mutual

def ofValue : Value → Except Mismatch FieldType
  | .record members => do
    match ← fieldTags.search none members with
    | .array => arrayOfMembers none members
    | .anyOf => anyOfOfMembers none members
    | .integer => integerOfMembers members
    | .float => floatOfMembers members
    | .string => stringOfMembers members
    | .bool => boolOfMembers none members
    | .reference => referenceOfMembers none members
  | .list [] => .error (.missingField "type")
  | .list (tag :: items) => do
    match ← fieldTags.ofValue tag with
    | .array => arrayOfItems items
    | .anyOf => anyOfOfItems items
    | .integer => integerOfItems items
    | .float => floatOfItems items
    | .string => stringOfItems items
    | .bool => boolOfItems items
    | .reference => referenceOfItems items
  | v => .error (.wrongType v.found "internally tagged enum FieldType")

def listOfValue : Value → Except Mismatch (List FieldType)
  | .list items => allOfItems items
  | v => .error (.wrongType v.found "a sequence")

def allOfItems : List Value → Except Mismatch (List FieldType)
  | [] => .ok []
  | v :: rest => do
    let t ← ofValue v
    let ts ← allOfItems rest
    return t :: ts

def arrayOfMembers (found : Option FieldType) :
    List (String × Value) → Except Mismatch FieldType
  | [] =>
    match found with
    | some element => .ok (array element)
    | none => .error (.missingField "array")
  | (key, v) :: rest => do
    if key = "array" then
      match found with
      | some _ => .error (.repeatedField key)
      | none => arrayOfMembers (some (← ofValue v)) rest
    else arrayOfMembers found rest

def anyOfOfMembers (found : Option (List FieldType)) :
    List (String × Value) → Except Mismatch FieldType
  | [] =>
    match found with
    | some variants => .ok (anyOf variants)
    | none => .error (.missingField "any_of")
  | (key, v) :: rest => do
    if key = "any_of" then
      match found with
      | some _ => .error (.repeatedField key)
      | none => anyOfOfMembers (some (← listOfValue v)) rest
    else anyOfOfMembers found rest

def arrayOfItems : List Value → Except Mismatch FieldType
  | [] => .error (.wrongLength 0 "struct variant FieldType::Array with 1 element")
  | v :: rest => do
    let element ← ofValue v
    noneLeft 1 rest
    return array element

def anyOfOfItems : List Value → Except Mismatch FieldType
  | [] => .error (.wrongLength 0 "struct variant FieldType::AnyOf with 1 element")
  | v :: rest => do
    let variants ← listOfValue v
    noneLeft 1 rest
    return anyOf variants

end

def ofMembers (tag : FieldTag) (members : List (String × Value)) : Except Mismatch FieldType :=
  match tag with
  | .array => arrayOfMembers none members
  | .anyOf => anyOfOfMembers none members
  | .integer => integerOfMembers members
  | .float => floatOfMembers members
  | .string => stringOfMembers members
  | .bool => boolOfMembers none members
  | .reference => referenceOfMembers none members

def ofItems (tag : FieldTag) (items : List Value) : Except Mismatch FieldType :=
  match tag with
  | .array => arrayOfItems items
  | .anyOf => anyOfOfItems items
  | .integer => integerOfItems items
  | .float => floatOfItems items
  | .string => stringOfItems items
  | .bool => boolOfItems items
  | .reference => referenceOfItems items

def ofRecord (members : List (String × Value)) : Except Mismatch FieldType :=
  ofValue (.record members)

end FieldType

end BotTypings
