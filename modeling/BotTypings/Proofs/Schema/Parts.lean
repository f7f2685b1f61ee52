import BotTypings.Proofs.Steps
import BotTypings.Schema.Writing

/-! The field types of a schema, at every depth. Writing fails for one reason alone: a verbatim type
text somewhere among them. -/
namespace BotTypings

open BotTypings.Json

namespace FieldType

mutual

/-- The type itself and every type below it, through arrays and unions. -/
def parts : FieldType → List FieldType
  | array element => array element :: element.parts
  | anyOf variants => anyOf variants :: partsOfAll variants
  | t => [t]

def partsOfAll : List FieldType → List FieldType
  | [] => []
  | t :: ts => t.parts ++ partsOfAll ts

end

end FieldType

def ObjectKind.parts : ObjectKind → List FieldType
  | .properties fields => fields.flatMap (·.kind.parts)
  | .anyOf variants => FieldType.partsOfAll variants
  | .unknown => []

def Method.parts (m : Method) : List FieldType :=
  m.parameters.flatMap (·.kind.parts) ++ m.returns.parts

/-- Every field type of a schema, at any depth: of parameters, return types, properties, unions. -/
def Schema.fieldTypes (s : Schema) : List FieldType :=
  s.methods.flatMap Method.parts ++ s.objects.flatMap (·.kind.parts)

namespace FieldType

mutual

theorem members_writable_iff : (t : FieldType) →
    ((∃ ms, t.members = .ok ms) ↔ ∀ text, expression text ∉ t.parts)
  | integer .. | float .. | string .. | bool .. | reference .. => by
    simp [members, parts]
  | expression text => by simp [members, parts]
  | array element => by
    rw [members, parts, exists_bind_pure_eq_ok, members_writable_iff element]
    simp
  | anyOf variants => by
    rw [members, parts, exists_bind_pure_eq_ok, values_writable_iff variants]
    simp

theorem values_writable_iff : (ts : List FieldType) →
    ((∃ vs, valuesOfAll ts = .ok vs) ↔ ∀ text, expression text ∉ partsOfAll ts)
  | [] => by simp [valuesOfAll, partsOfAll]
  | t :: ts => by
    have split : (∃ vs, valuesOfAll (t :: ts) = .ok vs) ↔
        (∃ ms, t.members = .ok ms) ∧ ∃ vs, valuesOfAll ts = .ok vs := by
      simp only [valuesOfAll, bind_eq_ok]
      constructor
      · rintro ⟨_, ms, first, vs, others, _⟩
        exact ⟨⟨ms, first⟩, ⟨vs, others⟩⟩
      · rintro ⟨⟨ms, first⟩, ⟨vs, others⟩⟩
        exact ⟨_, ms, first, vs, others, rfl⟩
    rw [split, members_writable_iff t, values_writable_iff ts, partsOfAll]
    simp only [List.mem_append, not_or, forall_and]

end

end FieldType

theorem Property.writable_iff (p : Property) :
    (∃ v, p.toValue = .ok v) ↔ ∀ text, .expression text ∉ p.kind.parts := by
  rw [Property.toValue, exists_bind_pure_eq_ok, FieldType.members_writable_iff]

theorem properties_writable_iff (fields : List Property) :
    (∃ vs, fields.mapM Property.toValue = .ok vs) ↔
      ∀ text, .expression text ∉ fields.flatMap (·.kind.parts) := by
  rw [exists_mapM_eq_ok]
  simp only [Property.writable_iff, List.mem_flatMap, not_exists, not_and]
  exact ⟨fun each text p mem => each p mem text, fun none p mem text => none text p mem⟩

theorem ObjectKind.writable_iff (k : ObjectKind) :
    (∃ ms, k.members = .ok ms) ↔ ∀ text, .expression text ∉ k.parts := by
  cases k with
  | properties fields =>
    rw [ObjectKind.members, exists_bind_pure_eq_ok, properties_writable_iff, ObjectKind.parts]
  | anyOf variants =>
    rw [ObjectKind.members, exists_bind_pure_eq_ok, FieldType.values_writable_iff, ObjectKind.parts]
  | unknown => simp [ObjectKind.members, ObjectKind.parts]

theorem Object.writable_iff (o : Object) :
    (∃ v, o.toValue = .ok v) ↔ ∀ text, .expression text ∉ o.kind.parts := by
  rw [Object.toValue, exists_bind_pure_eq_ok, ObjectKind.writable_iff]

theorem Method.writable_iff (m : Method) :
    (∃ v, m.toValue = .ok v) ↔ ∀ text, .expression text ∉ m.parts := by
  have steps : (∃ v, m.toValue = .ok v) ↔
      (∃ vs, m.parameters.mapM Property.toValue = .ok vs) ∧ ∃ ms, m.returns.members = .ok ms := by
    simp only [Method.toValue, FieldType.toValue, bind_eq_ok, map_eq_ok]
    constructor
    · rintro ⟨_, vs, parameters, _, ⟨ms, returns, _⟩, _⟩
      exact ⟨⟨vs, parameters⟩, ⟨ms, returns⟩⟩
    · rintro ⟨⟨vs, parameters⟩, ⟨ms, returns⟩⟩
      exact ⟨_, vs, parameters, _, ⟨ms, returns, rfl⟩, rfl⟩
  rw [steps, properties_writable_iff, FieldType.members_writable_iff, Method.parts]
  simp only [List.mem_append, not_or, forall_and]

/-- A schema can be written exactly when none of its field types is a verbatim text. -/
theorem Schema.writable_iff (s : Schema) :
    (∃ v, s.toValue = .ok v) ↔ ∀ text, .expression text ∉ s.fieldTypes := by
  have steps : (∃ v, s.toValue = .ok v) ↔
      (∃ vs, s.methods.mapM Method.toValue = .ok vs) ∧
        ∃ vs, s.objects.mapM Object.toValue = .ok vs := by
    simp only [Schema.toValue, bind_eq_ok]
    constructor
    · rintro ⟨_, ms, methods, os, objects, _⟩
      exact ⟨⟨ms, methods⟩, ⟨os, objects⟩⟩
    · rintro ⟨⟨ms, methods⟩, ⟨os, objects⟩⟩
      exact ⟨_, ms, methods, os, objects, rfl⟩
  rw [steps, exists_mapM_eq_ok, exists_mapM_eq_ok]
  simp only [Method.writable_iff, Object.writable_iff, Schema.fieldTypes, List.mem_append,
    List.mem_flatMap, not_or, not_exists, not_and, forall_and]
  constructor
  · rintro ⟨methods, objects⟩
    exact ⟨fun text m mem => methods m mem text, fun text o mem => objects o mem text⟩
  · rintro ⟨methods, objects⟩
    exact ⟨fun m mem text => methods text m mem, fun o mem text => objects text o mem⟩

end BotTypings
