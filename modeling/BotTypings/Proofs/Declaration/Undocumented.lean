import BotTypings.Proofs.Declaration.Comments

/-! Two schemas that differ in documentation alone. What a description says reaches the code in one
way only: a string whose description speaks of entities is widened. Erasing everything else from a
schema leaves its code as it was. -/
namespace BotTypings

open BotTypings.Text

/-- A description is reduced to what a type depends on. -/
def Property.undocumented (p : Property) : Property where
  name := p.name
  description :=
    if contains formattedText p.description.toList then String.ofList formattedText else ""
  required := p.required
  kind := p.kind

def ObjectKind.undocumented : ObjectKind → ObjectKind
  | .properties fields => .properties (fields.map Property.undocumented)
  | .anyOf variants => .anyOf variants
  | .unknown => .unknown

def Object.undocumented (o : Object) : Object where
  name := o.name
  description := ""
  documentationLink := ""
  kind := o.kind.undocumented
  typeParameters := o.typeParameters

def Method.undocumented (method : Method) : Method where
  name := method.name
  description := ""
  documentationLink := ""
  parameters := method.parameters.map Property.undocumented
  returns := method.returns

def Schema.undocumented (s : Schema) : Schema where
  version := s.version
  released := s.released
  methods := s.methods.map Method.undocumented
  objects := s.objects.map Object.undocumented

theorem Property.contains_undocumented (p : Property) :
    contains formattedText p.undocumented.description.toList =
      contains formattedText p.description.toList := by
  rw [undocumented]
  split
  · rename_i formatted
    rw [formatted, String.toList_ofList]
    decide +kernel
  · rename_i plain
    rw [Bool.not_eq_true] at plain
    rw [plain]
    rfl

/-- Properties agree in this sense if their descriptions differ in nothing that a type depends on. -/
theorem Property.undocumented_eq_iff {p q : Property} : p.undocumented = q.undocumented ↔
    p.name = q.name ∧ p.required = q.required ∧ p.kind = q.kind ∧
      contains formattedText p.description.toList = contains formattedText q.description.toList := by
  constructor
  · intro same
    have formatted := p.contains_undocumented
    rw [same, q.contains_undocumented] at formatted
    rw [undocumented, undocumented, mk.injEq] at same
    exact ⟨same.1, same.2.2.1, same.2.2.2, formatted.symm⟩
  · rintro ⟨name, required, kind, formatted⟩
    rw [undocumented, undocumented, name, required, kind, formatted]

namespace Mapper

variable {m : Mapper} {owner : Owner}

section

variable {a b : Slot}

mutual

/-- Of a slot, a type text depends on its name, on whether it is required and on the wider type. -/
theorem text_congr (name : a.name = b.name) (required : a.required = b.required)
    (widened : m.stringOverride owner.scope a = m.stringOverride owner.scope b) :
    (t : FieldType) → m.text owner a t = m.text owner b t
  | .integer .. => by simp only [text, name]
  | .float .. => by simp only [text]
  | .bool default => by simp only [text, required]
  | .string .. => by simp only [text, name, widened]
  | .reference target => by simp only [text]
  | .array element => by rw [text, text, text_congr name required widened element]
  | .anyOf variants => by
    rw [text, text, variantTexts_congr name required widened false variants, withoutUploaded,
      withoutUploaded, name]
  | .expression written => by simp only [text]

theorem variantTexts_congr (name : a.name = b.name) (required : a.required = b.required)
    (widened : m.stringOverride owner.scope a = m.stringOverride owner.scope b)
    (enumerated : Bool) : (ts : List FieldType) →
      m.variantTexts owner a enumerated ts = m.variantTexts owner b enumerated ts
  | [] => by rw [variantTexts, variantTexts]
  | t :: ts => by
    rw [variantTexts, variantTexts, text_congr name required widened t,
      variantTexts_congr name required widened true ts,
      variantTexts_congr name required widened enumerated ts]

end

end

theorem stringOverride_undocumented (scope : Scope) (p : Property) :
    m.stringOverride scope p.undocumented.slot = m.stringOverride scope p.slot := by
  have formatted := p.contains_undocumented
  simp only [stringOverride, Property.slot, formatted]
  rfl

theorem text_undocumented (p : Property) (t : FieldType) :
    m.text owner p.undocumented.slot t = m.text owner p.slot t :=
  text_congr (a := p.undocumented.slot) (b := p.slot) rfl rfl
    (stringOverride_undocumented owner.scope p) t

theorem aliasFor_undocumented (p : Property) :
    m.aliasFor owner p.undocumented = m.aliasFor owner p := by
  rw [aliasFor, aliasFor, stringOverride_undocumented]
  rfl

end Mapper

theorem aliasesFor_undocumented (m : Mapper) (owner : Owner) (properties : List Property) :
    aliasesFor m owner (properties.map Property.undocumented) = aliasesFor m owner properties := by
  rw [aliasesFor, List.filterMap_map]
  exact congrArg (List.filterMap · properties) (funext Mapper.aliasFor_undocumented)

theorem Declaration.undocumented_congr {d e : Declaration} (name : d.name = e.name)
    (generics : d.generics = e.generics) (aliases : d.aliases = e.aliases)
    (shape : d.shape.undocumented = e.shape.undocumented) : d.undocumented = e.undocumented := by
  rw [undocumented, undocumented, name, generics, aliases, shape]

section

variable (m : Mapper)

theorem Property.member_undocumented (owner : Owner) (p : Property) :
    (p.undocumented.member m owner).undocumented = (p.member m owner).undocumented := by
  simp only [member, Member.undocumented]
  rw [Mapper.text_undocumented]
  rfl

theorem members_undocumented (owner : Owner) (properties : List Property) :
    ((properties.map Property.undocumented).map (Property.member m owner)).map Member.undocumented =
      (properties.map (Property.member m owner)).map Member.undocumented := by
  simp only [List.map_map]
  exact List.map_congr_left fun p _ => p.member_undocumented m owner

theorem Object.declaration_undocumented (o : Object) :
    (o.undocumented.declaration m).undocumented = (o.declaration m).undocumented := by
  have aliases : aliasesFor m o.owner o.undocumented.properties =
      aliasesFor m o.owner o.properties := by
    have properties : o.undocumented.properties = o.properties.map Property.undocumented := by
      rw [Object.properties, Object.properties, Object.undocumented]
      cases o.kind <;> rfl
    rw [properties, aliasesFor_undocumented]
  have shape : (o.undocumented.shape m).undocumented = (o.shape m).undocumented := by
    rw [Object.shape, Object.shape, Object.undocumented]
    cases o.kind with
    | properties properties =>
      exact congrArg Shape.interface (members_undocumented m o.owner properties)
    | anyOf variants => rfl
    | unknown => rfl
  exact Declaration.undocumented_congr rfl rfl aliases shape

theorem Method.paramsDeclaration_undocumented (method : Method) :
    (method.undocumented.paramsDeclaration m).undocumented =
      (method.paramsDeclaration m).undocumented :=
  Declaration.undocumented_congr rfl rfl (aliasesFor_undocumented m method.owner method.parameters)
    (congrArg Shape.interface (members_undocumented m method.owner method.parameters))

theorem Method.paramsShape_undocumented (method : Method) :
    method.undocumented.paramsShape = method.paramsShape := by
  rw [paramsShape, paramsShape, undocumented]
  simp only [List.isEmpty_map, List.any_map]
  rfl

theorem Method.member_undocumented (method : Method) :
    (method.undocumented.member m).undocumented = (method.member m).undocumented := by
  have signature : method.undocumented.signature m = method.signature m := by
    rw [Method.signature, Method.signature, paramsShape_undocumented]
    rfl
  rw [Member.undocumented, Member.undocumented, member, member]
  simp only [signature]
  rfl

end

end BotTypings
