import BotTypings.Proofs.Declaration.Undocumented

/-! The bodies that a schema is written as, read back as code and comments. The comments are those
of the schema, in their order, whatever its descriptions and links say; the code is what the schema
is written as without any. -/
namespace BotTypings

open BotTypings.Text BotTypings.Documentation

def Property.comments (p : Property) : List (List String) :=
  Documentation.comments "\t" (Documentation.lines p.description)

def Object.comments (o : Object) : List (List String) :=
  Documentation.comments ""
      (Documentation.lines (Documentation.describe o.description o.documentationLink)) ++
    o.properties.flatMap Property.comments

def Method.paramsComments (method : Method) : List (List String) :=
  Documentation.comments "" (Documentation.lines method.paramsSummary) ++
    method.parameters.flatMap Property.comments

def Method.comments (method : Method) : List (List String) :=
  Documentation.comments "\t"
    (Documentation.lines (Documentation.describe method.description method.documentationLink))

/-- The comments that the descriptions and links of a schema become. Two modules hold nothing of it. -/
def Schema.comments (s : Schema) : Module → List (List String)
  | .objects => s.objects.flatMap Object.comments
  | .params => (s.methods.filter (!·.parameters.isEmpty)).flatMap Method.paramsComments
  | .methods => s.methods.flatMap Method.comments
  | .utils | .index => []

theorem members_comments (m : Mapper) (owner : Owner) (properties : List Property) :
    (Shape.interface (properties.map (Property.member m owner))).comments =
      properties.flatMap Property.comments := by
  rw [Shape.comments, List.flatMap_map]
  rfl

theorem Object.declaration_comments (m : Mapper) (o : Object) :
    (o.declaration m).comments = o.comments := by
  have members : (o.shape m).comments = o.properties.flatMap Property.comments := by
    rw [shape, properties]
    cases o.kind with
    | properties fields => exact members_comments m o.owner fields
    | anyOf variants => rfl
    | unknown => rfl
  rw [Declaration.comments, comments, ← members, declaration]

theorem Method.paramsDeclaration_comments (m : Mapper) (method : Method) :
    (method.paramsDeclaration m).comments = method.paramsComments := by
  have members := members_comments m method.owner method.parameters
  rw [Declaration.comments, paramsComments, ← members, paramsDeclaration]

theorem Method.member_comments (m : Mapper) (method : Method) :
    (method.member m).comments = method.comments := by
  rw [Member.comments, comments, member]

theorem members_closeOnce (properties : List Property) :
    ∀ block ∈ properties.flatMap Property.comments, ClosesOnce block := by
  intro block mem
  obtain ⟨p, _, own⟩ := List.mem_flatMap.mp mem
  exact closesOnce_comments (by decide) _ block own

theorem Schema.comments_closeOnce (s : Schema) (module : Module) :
    ∀ block ∈ s.comments module, ClosesOnce block := by
  intro block mem
  cases module with
  | objects =>
    obtain ⟨o, _, own⟩ := List.mem_flatMap.mp mem
    rcases List.mem_append.mp own with about | member
    · exact closesOnce_comments (by decide) _ block about
    · exact members_closeOnce o.properties block member
  | params =>
    obtain ⟨method, _, own⟩ := List.mem_flatMap.mp mem
    rcases List.mem_append.mp own with about | member
    · exact closesOnce_comments (by decide) _ block about
    · exact members_closeOnce method.parameters block member
  | methods =>
    obtain ⟨method, _, own⟩ := List.mem_flatMap.mp mem
    exact closesOnce_comments (by decide) _ block own
  | utils | index => cases mem

def ObjectKind.Unbroken : ObjectKind → Prop
  | .properties fields => ∀ p ∈ fields, p.Unbroken
  | .anyOf variants => ∀ t ∈ variants, t.Unbroken
  | .unknown => True

structure Object.Unbroken (o : Object) : Prop where
  name : Text.Unbroken o.name
  typeParameters : ∀ text ∈ o.typeParameters, Text.Unbroken text
  kind : o.kind.Unbroken

structure Method.Unbroken (method : Method) : Prop where
  name : Text.Unbroken method.name
  parameters : ∀ p ∈ method.parameters, p.Unbroken
  returns : method.returns.Unbroken

/-- No name, type parameter, reference, verbatim text or value breaks a line. -/
structure Schema.Unbroken (s : Schema) : Prop where
  objects : ∀ o ∈ s.objects, o.Unbroken
  methods : ∀ method ∈ s.methods, method.Unbroken

theorem Property.unbroken_undocumented (p : Property) : p.undocumented.Unbroken ↔ p.Unbroken :=
  ⟨fun unbroken => ⟨unbroken.name, unbroken.kind⟩, fun unbroken => ⟨unbroken.name, unbroken.kind⟩⟩

theorem Object.unbroken_undocumented (o : Object) : o.undocumented.Unbroken ↔ o.Unbroken := by
  have kind : o.kind.undocumented.Unbroken ↔ o.kind.Unbroken := by
    cases o.kind with
    | properties fields =>
      simp only [ObjectKind.undocumented, ObjectKind.Unbroken, List.forall_mem_map,
        Property.unbroken_undocumented]
    | anyOf variants => rfl
    | unknown => rfl
  exact ⟨fun unbroken => ⟨unbroken.name, unbroken.typeParameters, kind.mp unbroken.kind⟩,
    fun unbroken => ⟨unbroken.name, unbroken.typeParameters, kind.mpr unbroken.kind⟩⟩

theorem Method.unbroken_undocumented (method : Method) :
    method.undocumented.Unbroken ↔ method.Unbroken := by
  have parameters : (∀ p ∈ method.undocumented.parameters, p.Unbroken) ↔
      ∀ p ∈ method.parameters, p.Unbroken := by
    simp only [undocumented, List.forall_mem_map, Property.unbroken_undocumented]
  exact ⟨fun unbroken => ⟨unbroken.name, parameters.mp unbroken.parameters, unbroken.returns⟩,
    fun unbroken => ⟨unbroken.name, parameters.mpr unbroken.parameters, unbroken.returns⟩⟩

theorem Schema.unbroken_undocumented (s : Schema) : s.undocumented.Unbroken ↔ s.Unbroken := by
  have objects : (∀ o ∈ s.undocumented.objects, o.Unbroken) ↔ ∀ o ∈ s.objects, o.Unbroken := by
    simp only [undocumented, List.forall_mem_map, Object.unbroken_undocumented]
  have methods : (∀ method ∈ s.undocumented.methods, method.Unbroken) ↔
      ∀ method ∈ s.methods, method.Unbroken := by
    simp only [undocumented, List.forall_mem_map, Method.unbroken_undocumented]
  exact ⟨fun unbroken => ⟨objects.mp unbroken.objects, methods.mp unbroken.methods⟩,
    fun unbroken => ⟨objects.mpr unbroken.objects, methods.mpr unbroken.methods⟩⟩

section

variable {m : Mapper} (plain : m.Unbroken)
include plain

theorem Property.Unbroken.member {p : Property} (unbroken : p.Unbroken) {owner : Owner}
    (ownerName : Text.Unbroken owner.name) : (p.member m owner).Unbroken where
  name := unbroken.name
  type := m.unbroken_text plain ownerName unbroken.name p.kind unbroken.kind
  doc := Documentation.unbroken_lines p.description

theorem unbroken_aliasesFor {owner : Owner} (ownerName : Text.Unbroken owner.name)
    {properties : List Property} (each : ∀ p ∈ properties, p.Unbroken) :
    ∀ a ∈ aliasesFor m owner properties, a.Unbroken := by
  intro a mem
  obtain ⟨p, given, declared⟩ := List.mem_filterMap.mp mem
  exact Mapper.unbroken_aliasFor plain ownerName (each p given) declared

theorem Object.Unbroken.shape {o : Object} (unbroken : o.Unbroken) : (o.shape m).Unbroken := by
  have kind := unbroken.kind
  rw [Object.shape]
  cases given : o.kind with
  | properties fields =>
    rw [given] at kind
    intro x mem
    obtain ⟨p, inside, rfl⟩ := List.mem_map.mp mem
    exact (kind p inside).member plain unbroken.name
  | anyOf variants =>
    rw [given] at kind
    exact Mapper.unbroken_text plain unbroken.name (by decide) (.anyOf variants)
      (FieldType.unbroken_anyOf_iff.mpr kind)
  | unknown =>
    intro x mem
    cases mem

theorem Object.Unbroken.declaration {o : Object} (unbroken : o.Unbroken) :
    (o.declaration m).Unbroken := by
  have generics : Text.Unbroken o.generics := by
    have parameters := unbroken.typeParameters
    rw [Object.generics]
    cases given : o.typeParameters with
    | none => decide
    | some text =>
      simp only [unbroken_append]
      exact ⟨⟨by decide, parameters text given⟩, by decide⟩
  have properties : ∀ p ∈ o.properties, p.Unbroken := by
    have kind := unbroken.kind
    rw [Object.properties]
    cases given : o.kind with
    | properties fields =>
      rw [given] at kind
      exact kind
    | anyOf variants | unknown =>
      intro p mem
      cases mem
  have doc : ∀ line ∈ (o.declaration m).doc, Text.Unbroken line := by
    simp only [Object.declaration]
    exact Documentation.unbroken_lines _
  exact {
    name := Mapper.unbroken_objectName plain unbroken.name
    generics := generics
    doc := doc
    aliases := unbroken_aliasesFor plain unbroken.name properties
    shape := unbroken.shape plain }

theorem Method.Unbroken.paramsDeclaration {method : Method} (unbroken : method.Unbroken) :
    (method.paramsDeclaration m).Unbroken := by
  exact {
    name := unbroken_append.mpr ⟨unbroken_capitalize unbroken.name, by decide⟩
    generics := (by decide : Text.Unbroken "")
    doc := Documentation.unbroken_lines _
    aliases := unbroken_aliasesFor plain unbroken.name unbroken.parameters
    shape := by
      intro x mem
      obtain ⟨p, inside, rfl⟩ := List.mem_map.mp mem
      exact (unbroken.parameters p inside).member plain unbroken.name }

theorem Method.Unbroken.signature {method : Method} (unbroken : method.Unbroken) :
    Text.Unbroken (method.signature m) := by
  have returns : Text.Unbroken (m.text method.owner .anonymous method.returns) :=
    Mapper.unbroken_text plain unbroken.name (by decide) method.returns unbroken.returns
  have params : Text.Unbroken (paramsNamespace ++ "." ++ paramsName method.name) := by
    have name := unbroken_capitalize unbroken.name
    rw [paramsName]
    simp only [unbroken_append]
    exact ⟨by decide, name, by decide⟩
  rw [Method.signature]
  cases method.paramsShape with
  | none =>
    simp only [unbroken_append]
    exact ⟨⟨by decide, returns⟩, by decide⟩
  | optional | required =>
    simp only [unbroken_append] at params ⊢
    exact ⟨⟨⟨⟨by decide, params⟩, by decide⟩, returns⟩, by decide⟩

theorem Method.Unbroken.member {method : Method} (unbroken : method.Unbroken) :
    (method.member m).Unbroken := by
  have doc : ∀ line ∈ (method.member m).doc, Text.Unbroken line := by
    simp only [Method.member]
    exact Documentation.unbroken_lines _
  exact {
    name := unbroken.name
    type := unbroken.signature plain
    doc := doc }

end

namespace Module

/-- The body of a module without the documentation that comes from the schema. -/
def code (m : Mapper) (s : Schema) : Module → String
  | objects => renderAll ((s.objects.map (Object.declaration m)).map Declaration.undocumented)
  | params =>
    renderAll (((s.methods.filter (!·.parameters.isEmpty)).map (Method.paramsDeclaration m)).map
      Declaration.undocumented)
  | methods =>
    interfaceText methodsInterface ((s.methods.map (Method.member m)).map Member.undocumented)
  | utils => utilsText
  | index => indexText

theorem code_undocumented (m : Mapper) (s : Schema) (module : Module) :
    module.code m s.undocumented = module.code m s := by
  cases module with
  | objects =>
    simp only [code, Schema.undocumented, List.map_map]
    exact congrArg renderAll (List.map_congr_left fun o _ => o.declaration_undocumented m)
  | params =>
    have taking : s.undocumented.methods.filter (!·.parameters.isEmpty) =
        (s.methods.filter (!·.parameters.isEmpty)).map Method.undocumented := by
      rw [Schema.undocumented, List.filter_map]
      refine congrArg (List.map Method.undocumented) (List.filter_congr fun method _ => ?_)
      simp [Method.undocumented]
    simp only [code, taking, List.map_map]
    exact congrArg renderAll
      (List.map_congr_left fun method _ => method.paramsDeclaration_undocumented m)
  | methods =>
    simp only [code, Schema.undocumented, List.map_map]
    exact congrArg (interfaceText methodsInterface)
      (List.map_congr_left fun method _ => method.member_undocumented m)
  | utils | index => rfl

theorem body_commented {m : Mapper} (plain : m.Unbroken) {s : Schema} (unbroken : s.Unbroken)
    {module : Module} (described : module ∈ [objects, params, methods]) :
    Commented (module.body m s) (module.code m s) (s.comments module) := by
  simp only [List.mem_cons, List.not_mem_nil, or_false] at described
  rcases described with rfl | rfl | rfl
  · have each : ∀ d ∈ s.objects.map (Object.declaration m), d.Unbroken := by
      intro d mem
      obtain ⟨o, given, rfl⟩ := List.mem_map.mp mem
      exact (unbroken.objects o given).declaration plain
    have whole := renderAll_commented each
    simp only [List.flatMap_map, Object.declaration_comments] at whole
    exact whole
  · have each : ∀ d ∈ (s.methods.filter (!·.parameters.isEmpty)).map (Method.paramsDeclaration m),
        d.Unbroken := by
      intro d mem
      obtain ⟨method, given, rfl⟩ := List.mem_map.mp mem
      exact (unbroken.methods method (List.mem_filter.mp given).1).paramsDeclaration plain
    have whole := renderAll_commented each
    simp only [List.flatMap_map, Method.paramsDeclaration_comments] at whole
    exact whole
  · have each : ∀ x ∈ s.methods.map (Method.member m), x.Unbroken := by
      intro x mem
      obtain ⟨method, given, rfl⟩ := List.mem_map.mp mem
      exact (unbroken.methods method given).member plain
    have whole := interfaceText_commented (by decide : Text.Unbroken methodsInterface) each
    simp only [List.flatMap_map, Method.member_comments] at whole
    exact whole

/-- How documentation stays apart from the code of a module, for a schema and another one. -/
structure DocumentedApart (m : Mapper) (s t : Schema) (module : Module) : Prop where
  sameCode : withoutComments (module.body m s) = withoutComments (module.body m t)
  /-- A reader finds the comments that were written, one for each documented entity. -/
  comments : commentsIn (module.body m s) = s.comments module
  closed : ∀ block ∈ commentsIn (module.body m s), ClosesOnce block

/-- Schemas that differ in documentation alone are written as the same code. Whatever descriptions
and links say, the comments in a body are the ones they were made into, and none of them is closed
before its own last line. -/
theorem body_documentedApart {m : Mapper} (plain : m.Unbroken) {s t : Schema}
    (unbroken : s.Unbroken) (same : s.undocumented = t.undocumented) {module : Module}
    (described : module ∈ [objects, params, methods]) : module.DocumentedApart m s t := by
  have unbroken' : t.Unbroken :=
    t.unbroken_undocumented.mp (same ▸ s.unbroken_undocumented.mpr unbroken)
  have commented := body_commented plain unbroken described
  have other := body_commented plain unbroken' described
  have code : module.code m s = module.code m t := by
    rw [← code_undocumented, same, code_undocumented]
  constructor
  · rw [commented.withoutComments_eq, other.withoutComments_eq, code]
  · exact commented.commentsIn_eq
  · rw [commented.commentsIn_eq]
    exact s.comments_closeOnce module

/-- A schema of one object and one method, with the given texts in its documentation. -/
def note (about text link : String) : Schema where
  version := ⟨9, 5, 0⟩
  released := ⟨2026, 3, 1⟩
  methods := [⟨"sendNote", about, link, [⟨"text", text, true, .plainString⟩], .reference "Note"⟩]
  objects := [⟨"Note", about, link, .properties [⟨"text", text, true, .plainString⟩], none⟩]

/-- Its texts try to end their comments and to declare something behind them. -/
def craftedNote : Schema :=
  note "Ends early */ here\n */\nexport type Other = 1\n/**" "*/ after entities parsing **//"
    "https://note/*/"

def briefNote : Schema := note "" "Text after entities parsing" ""

theorem note_unbroken (about text link : String) : (note about text link).Unbroken := by
  have field : (⟨"text", text, true, .plainString⟩ : Property).Unbroken :=
    ⟨(by decide : Text.Unbroken "text"), (by decide : FieldType.plainString.Unbroken)⟩
  have fields : ∀ p ∈ [(⟨"text", text, true, .plainString⟩ : Property)], p.Unbroken := by
    simpa using field
  constructor
  · intro o given
    rw [note, List.mem_singleton] at given
    subst given
    exact ⟨(by decide : Text.Unbroken "Note"), nofun, fields⟩
  · intro method given
    rw [note, List.mem_singleton] at given
    subst given
    exact ⟨(by decide : Text.Unbroken "sendNote"), fields,
      (by decide : (FieldType.reference "Note").Unbroken)⟩

theorem craftedNote_documentedApart :
    craftedNote.Unbroken ∧ craftedNote.undocumented = briefNote.undocumented ∧
      objects.DocumentedApart .standard craftedNote briefNote ∧
      params.DocumentedApart .standard craftedNote briefNote ∧
      methods.DocumentedApart .standard craftedNote briefNote := by
  have plain := Mapper.standard_unbroken
  have unbroken : craftedNote.Unbroken := note_unbroken _ _ _
  have same : craftedNote.undocumented = briefNote.undocumented := by decide +kernel
  exact ⟨unbroken, same, body_documentedApart plain unbroken same (by decide),
    body_documentedApart plain unbroken same (by decide),
    body_documentedApart plain unbroken same (by decide)⟩

end Module

end BotTypings
