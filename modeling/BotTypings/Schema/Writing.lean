import BotTypings.Json.Mismatch
import BotTypings.Json.Printer
import BotTypings.Schema.Basic

/-! Schemas as JSON values. Members come in declared order; empty enumerations and absent attributes
are left out, and so are type parameters, which no description holds. A verbatim type text cannot be
written, whatever stands around it. -/
namespace BotTypings

open BotTypings.Json

def optionalMember {α : Type} (name : String) (write : α → Value) : Option α → List (String × Value)
  | none => []
  | some x => [(name, write x)]

def listMember {α : Type} (name : String) (write : α → Value) : List α → List (String × Value)
  | [] => []
  | xs => [(name, .list (xs.map write))]

def int64Value (n : Int64) : Value := .integer n.toInt
def uint64Value (n : UInt64) : Value := .integer n.toNat
def uint32Value (n : UInt32) : Value := .integer n.toNat

namespace FieldType

mutual

def members : FieldType → Except Mismatch (List (String × Value))
  | integer enumeration default min max =>
    .ok (("type", .text "integer") :: (listMember "enumeration" int64Value enumeration ++
      optionalMember "default" int64Value default ++ optionalMember "min" int64Value min ++
      optionalMember "max" int64Value max))
  | float default min max =>
    .ok (("type", .text "float") :: (optionalMember "default" Value.float default ++
      optionalMember "min" Value.float min ++ optionalMember "max" Value.float max))
  | string enumeration default minLength maxLength =>
    .ok (("type", .text "string") :: (listMember "enumeration" Value.text enumeration ++
      optionalMember "default" Value.text default ++ optionalMember "min_len" uint64Value minLength ++
      optionalMember "max_len" uint64Value maxLength))
  | bool default => .ok (("type", .text "bool") :: optionalMember "default" Value.bool default)
  | reference name => .ok [("type", .text "reference"), ("reference", .text name)]
  | array element => do
    let inner ← element.members
    return [("type", .text "array"), ("array", .record inner)]
  | anyOf variants => do
    let inner ← valuesOfAll variants
    return [("type", .text "any_of"), ("any_of", .list inner)]
  | expression _ => .error (.unwritable "FieldType::Expression")

def valuesOfAll : List FieldType → Except Mismatch (List Value)
  | [] => .ok []
  | t :: ts => do
    let inner ← t.members
    let rest ← valuesOfAll ts
    return .record inner :: rest

end

def toValue (t : FieldType) : Except Mismatch Value := t.members.map Value.record

end FieldType

def Property.toValue (p : Property) : Except Mismatch Value := do
  let kind ← p.kind.members
  return .record ([("name", .text p.name), ("description", .text p.description),
    ("required", .bool p.required)] ++ kind)

def ObjectKind.members : ObjectKind → Except Mismatch (List (String × Value))
  | .properties fields => do
    let inner ← fields.mapM Property.toValue
    return [("type", .text "properties"), ("properties", .list inner)]
  | .anyOf variants => do
    let inner ← FieldType.valuesOfAll variants
    return [("type", .text "any_of"), ("any_of", .list inner)]
  | .unknown => .ok [("type", .text "unknown")]

def Object.toValue (o : Object) : Except Mismatch Value := do
  let kind ← o.kind.members
  return .record ([("name", .text o.name), ("description", .text o.description),
    ("documentation_link", .text o.documentationLink)] ++ kind)

def Method.toValue (m : Method) : Except Mismatch Value := do
  let parameters ← m.parameters.mapM Property.toValue
  let returns ← m.returns.toValue
  return .record [("name", .text m.name), ("description", .text m.description),
    ("documentation_link", .text m.documentationLink), ("parameters", .list parameters),
    ("returns", returns)]

def Version.toValue (v : Version) : Value :=
  .record [("major", uint32Value v.major), ("minor", uint32Value v.minor),
    ("patch", uint32Value v.patch)]

def ReleaseDate.toValue (d : ReleaseDate) : Value :=
  .record [("year", uint32Value d.year), ("month", uint32Value d.month), ("day", uint32Value d.day)]

def Schema.toValue (s : Schema) : Except Mismatch Value := do
  let methods ← s.methods.mapM Method.toValue
  let objects ← s.objects.mapM Object.toValue
  return .record [("version", s.version.toValue), ("recent_changes", s.released.toValue),
    ("methods", .list methods), ("objects", .list objects)]

/-- The schema on one line, or the reason why it cannot be written. -/
def Schema.write (s : Schema) : Except Mismatch String := s.toValue.map Value.compact

end BotTypings
