import BotTypings.Schema.MemberReading

/-! Schemas from JSON text. The outer records are read straight from the text: their known members
where they stand, unknown ones skipped. Each may also be written as a list of its fields in declared
order, where fields with a default may be missing from the end. -/
namespace BotTypings

open BotTypings.Json

def FieldType.membersOfNodes (room : Nat) (tag : Option FieldTag) (others : List (String × Value)) :
    List (Key × Node) → Except ReadError (Option FieldTag × List (String × Value))
  | [] => .ok (tag, others)
  | (key, n) :: rest => do
    let key ← faulty key
    if key = "type" then
      match tag with
      | some _ => throw (.mismatch (.repeatedField "type"))
      | none =>
        let t ← n.scalar fieldTags.ofFound
        membersOfNodes room (some t) others rest
    else
      let v ← faulty (n.load room)
      membersOfNodes room tag (others ++ [(key, v)]) rest

def FieldType.ofNode (room : Nat) : Node → Except ReadError FieldType
  | .record members ending => do
    let room ← faulty (enter room)
    let (tag, others) ← membersOfNodes room none [] members
    faulty (finishRecord ending)
    match tag with
    | none => throw (.mismatch (.missingField "type"))
    | some tag => mismatched (ofMembers tag others)
  | .list items ending => do
    let room ← faulty (enter room)
    match items with
    | [] =>
      faulty (finishList ending)
      throw (.mismatch (.missingField "type"))
    | n :: rest =>
      let tag ← n.scalar fieldTags.ofFound
      let items ← faulty (loadItems room rest)
      faulty (finishList ending)
      mismatched (ofItems tag items)
  | n => n.refuse "internally tagged enum FieldType"

def readAll {α : Type} (read : Node → Except ReadError α) : List Node → Except ReadError (List α)
  | [] => .ok []
  | n :: rest => do
    let x ← read n
    let xs ← readAll read rest
    return x :: xs

def readList {α : Type} (room : Nat) (read : Nat → Node → Except ReadError α) :
    Node → Except ReadError (List α)
  | .list items ending => do
    let room ← faulty (enter room)
    let xs ← readAll (read room) items
    faulty (finishList ending)
    return xs
  | n => n.refuse "a sequence"

/-- A member that may be given once; a repetition is noticed before its content. -/
def ownMember {α : Type} (name : String) (current : Option α)
    (read : Unit → Except ReadError α) : Except ReadError (Option α) :=
  match current with
  | some _ => .error (.mismatch (.repeatedField name))
  | none => (read ()).map some

def requiredMember {α : Type} (name : String) : Option α → Except ReadError α
  | some x => .ok x
  | none => .error (.mismatch (.missingField name))

/-- What is left of a list whose items are the fields of a record. -/
structure Fields where
  items : List Node
  ending : ListEnd

def Fields.next {α : Type} (fields : Fields) (read : Node → Except ReadError α) :
    Except ReadError (Option α × Fields) :=
  match fields.items with
  | [] => do
    faulty (finishList fields.ending)
    return (none, fields)
  | n :: rest => (read n).map fun x => (some x, { fields with items := rest })

def Fields.finish (fields : Fields) : Except ReadError Unit :=
  if fields.items.isEmpty then
    match fields.ending with
    | .closed => .ok ()
    | .unclosed => .error (.fault .endOfList)
    | .unseparated => .error (.fault .trailingCharacters)
    | .dangling => .error (.fault .trailingComma)
  else .error (.fault .trailingCharacters)

def positional {α : Type} (index : Nat) (wanted : String) : Option α → Except ReadError α
  | some x => .ok x
  | none => .error (.mismatch (.wrongLength index wanted))

/-- Three numbers by name; versions and dates are made of them. -/
structure TripleDraft where
  first : Option UInt32 := none
  second : Option UInt32 := none
  third : Option UInt32 := none

structure TripleNames where
  record : String
  first : String
  second : String
  third : String

def TripleDraft.ofNodes (names : TripleNames) (d : TripleDraft) :
    List (Key × Node) → Except ReadError TripleDraft
  | [] => .ok d
  | (key, n) :: rest => do
    let key ← faulty key
    let number := fun _ => n.scalar Found.asUInt32
    if key = names.first then
      ofNodes names { d with first := ← ownMember key d.first number } rest
    else if key = names.second then
      ofNodes names { d with second := ← ownMember key d.second number } rest
    else if key = names.third then
      ofNodes names { d with third := ← ownMember key d.third number } rest
    else
      faulty n.skip
      ofNodes names d rest

def readTriple (names : TripleNames) (room : Nat) :
    Node → Except ReadError (UInt32 × UInt32 × UInt32)
  | .record members ending => do
    let _ ← faulty (enter room)
    let d ← TripleDraft.ofNodes names {} members
    faulty (finishRecord ending)
    let first ← requiredMember names.first d.first
    let second ← requiredMember names.second d.second
    let third ← requiredMember names.third d.third
    return (first, second, third)
  | .list items ending => do
    let _ ← faulty (enter room)
    let wanted := names.record ++ " with 3 elements"
    let number := Node.scalar Found.asUInt32
    let (first, fields) ← Fields.next ⟨items, ending⟩ number
    let first ← positional 0 wanted first
    let (second, fields) ← fields.next number
    let second ← positional 1 wanted second
    let (third, fields) ← fields.next number
    let third ← positional 2 wanted third
    fields.finish
    return (first, second, third)
  | n => n.refuse names.record

def Version.ofNode (room : Nat) (n : Node) : Except ReadError Version := do
  let (major, minor, patch) ← readTriple ⟨"struct Version", "major", "minor", "patch"⟩ room n
  return ⟨major, minor, patch⟩

def ReleaseDate.ofNode (room : Nat) (n : Node) : Except ReadError ReleaseDate := do
  let (year, month, day) ← readTriple ⟨"struct ReleaseDate", "year", "month", "day"⟩ room n
  return ⟨year, month, day⟩

structure MethodDraft where
  name : Option String := none
  description : Option String := none
  documentationLink : Option String := none
  parameters : Option (List Property) := none
  returns : Option FieldType := none

def MethodDraft.ofNodes (room : Nat) (d : MethodDraft) :
    List (Key × Node) → Except ReadError MethodDraft
  | [] => .ok d
  | (key, n) :: rest => do
    let key ← faulty key
    let text := fun _ => n.scalar Found.asText
    if key = "name" then
      ofNodes room { d with name := ← ownMember key d.name text } rest
    else if key = "description" then
      ofNodes room { d with description := ← ownMember key d.description text } rest
    else if key = "documentation_link" then
      ofNodes room { d with documentationLink := ← ownMember key d.documentationLink text } rest
    else if key = "parameters" ∨ key = "arguments" then
      let given := fun _ => readList room Property.ofNode n
      ofNodes room { d with parameters := ← ownMember "parameters" d.parameters given } rest
    else if key = "returns" ∨ key = "return_type" then
      let given := fun _ => FieldType.ofNode room n
      ofNodes room { d with returns := ← ownMember "returns" d.returns given } rest
    else
      faulty n.skip
      ofNodes room d rest

def Method.ofNode (room : Nat) : Node → Except ReadError Method
  | .record members ending => do
    let room ← faulty (enter room)
    let d ← MethodDraft.ofNodes room {} members
    faulty (finishRecord ending)
    let name ← requiredMember "name" d.name
    let returns ← requiredMember "returns" d.returns
    return ⟨name, d.description.getD "", d.documentationLink.getD "", d.parameters.getD [], returns⟩
  | .list items ending => do
    let room ← faulty (enter room)
    let wanted := "struct Method with 5 elements"
    let text := Node.scalar Found.asText
    let (name, fields) ← Fields.next ⟨items, ending⟩ text
    let name ← positional 0 wanted name
    let (description, fields) ← fields.next text
    let (documentationLink, fields) ← fields.next text
    let (parameters, fields) ← fields.next (readList room Property.ofNode)
    let (returns, fields) ← fields.next (FieldType.ofNode room)
    let returns ← positional 4 wanted returns
    fields.finish
    return ⟨name, description.getD "", documentationLink.getD "", parameters.getD [], returns⟩
  | n => n.refuse "struct Method"

structure SchemaDraft where
  version : Option Version := none
  released : Option ReleaseDate := none
  methods : Option (List Method) := none
  objects : Option (List Object) := none

def SchemaDraft.ofNodes (room : Nat) (d : SchemaDraft) :
    List (Key × Node) → Except ReadError SchemaDraft
  | [] => .ok d
  | (key, n) :: rest => do
    let key ← faulty key
    if key = "version" then
      let given := fun _ => Version.ofNode room n
      ofNodes room { d with version := ← ownMember key d.version given } rest
    else if key = "recent_changes" then
      let given := fun _ => ReleaseDate.ofNode room n
      ofNodes room { d with released := ← ownMember key d.released given } rest
    else if key = "methods" then
      let given := fun _ => readList room Method.ofNode n
      ofNodes room { d with methods := ← ownMember key d.methods given } rest
    else if key = "objects" then
      let given := fun _ => readList room Object.ofNode n
      ofNodes room { d with objects := ← ownMember key d.objects given } rest
    else
      faulty n.skip
      ofNodes room d rest

def Schema.ofNode (room : Nat) : Node → Except ReadError Schema
  | .record members ending => do
    let room ← faulty (enter room)
    let d ← SchemaDraft.ofNodes room {} members
    faulty (finishRecord ending)
    let version ← requiredMember "version" d.version
    let released ← requiredMember "recent_changes" d.released
    return ⟨version, released, d.methods.getD [], d.objects.getD []⟩
  | .list items ending => do
    let room ← faulty (enter room)
    let wanted := "struct Schema with 4 elements"
    let (version, fields) ← Fields.next ⟨items, ending⟩ (Version.ofNode room)
    let version ← positional 0 wanted version
    let (released, fields) ← fields.next (ReleaseDate.ofNode room)
    let released ← positional 1 wanted released
    let (methods, fields) ← fields.next (readList room Method.ofNode)
    let (objects, fields) ← fields.next (readList room Object.ofNode)
    fields.finish
    return ⟨version, released, methods.getD [], objects.getD []⟩
  | n => n.refuse "struct Schema"

def readText {α : Type} (read : Nat → Node → Except ReadError α) (text : String) :
    Except ReadError α := do
  let document := Document.ofText text
  let x ← read deepest document.root
  if document.trailing then throw (.fault .trailingCharacters)
  return x

end BotTypings
