import BotTypings.Declaration.Module
import BotTypings.Proofs.Patch.Frame
import BotTypings.Proofs.Schema.RoundTrip
import Mathlib.Data.List.Nodup
import Mathlib.Data.List.Pairwise

/-! The names that the modules of objects and of params declare. Each is put together from an owner
in capitals and, for a literal union, a field; loading compares owners as they are written, before
any of this. What more it takes for the declared names to differ is stated here exactly, and not
every loaded schema has it. -/
namespace BotTypings

open BotTypings.Text

/-- The names that a declaration brings in, in the order of its lines: its literal unions, then
itself. -/
def Declaration.names (d : Declaration) : List String := d.aliases.map (·.name) ++ [d.name]

def declaredNames (ds : List Declaration) : List String := ds.flatMap Declaration.names

def Schema.objectDeclarations (m : Mapper) (s : Schema) : List Declaration :=
  s.objects.map (Object.declaration m)

def Schema.paramsDeclarations (m : Mapper) (s : Schema) : List Declaration :=
  (s.methods.filter (!·.parameters.isEmpty)).map (Method.paramsDeclaration m)

theorem Module.body_objects (m : Mapper) (s : Schema) :
    Module.body m s .objects = renderAll (s.objectDeclarations m) := rfl

theorem Module.body_params (m : Mapper) (s : Schema) :
    Module.body m s .params = renderAll (s.paramsDeclarations m) := rfl

/-- The field takes wider strings than its type says. -/
def Property.isWidened (p : Property) : Bool :=
  p.name == mediaField || p.name == "parse_mode" || p.name == "message_text" ||
    contains formattedText p.description.toList

def Property.literals (p : Property) : List String :=
  p.kind.enumerations.flatMap (Mapper.literalsOf p.isWidened)

/-- The fields for which a literal union is declared. -/
def unionFields (properties : List Property) : List String :=
  (properties.filter (!·.literals.isEmpty)).map (·.name)

theorem Mapper.stringOverride_isSome (m : Mapper) (scope : Scope) (p : Property) :
    (m.stringOverride scope p.slot).isSome = p.isWidened := by
  rw [stringOverride, Property.isWidened, Property.slot]
  by_cases media : p.name = mediaField
  · rw [if_pos media, beq_iff_eq.mpr media]
    rfl
  · rw [if_neg media, beq_eq_false_iff_ne.mpr media]
    by_cases mode : p.name = "parse_mode"
    · rw [if_pos mode, beq_iff_eq.mpr mode]
      rfl
    · rw [if_neg mode, beq_eq_false_iff_ne.mpr mode]
      by_cases message : p.name = "message_text"
      · rw [if_pos message, beq_iff_eq.mpr message]
        rfl
      · rw [if_neg message, beq_eq_false_iff_ne.mpr message]
        cases contains formattedText p.description.toList <;> rfl

theorem Mapper.aliasFor_name (m : Mapper) (owner : Owner) (p : Property) :
    (m.aliasFor owner p).map (·.name) =
      if p.literals.isEmpty then none else some (m.aliasName owner p.name) := by
  have reached : p.kind.enumerations.flatMap (literalsOf p.isWidened) = p.literals := rfl
  simp only [aliasFor, stringOverride_isSome, reached]
  cases p.literals <;> rfl

theorem aliasesFor_names (m : Mapper) (owner : Owner) (properties : List Property) :
    (aliasesFor m owner properties).map (·.name) =
      (unionFields properties).map (m.aliasName owner) := by
  induction properties with
  | nil => rfl
  | cons p rest ih =>
    have name := m.aliasFor_name owner p
    rw [aliasesFor] at ih ⊢
    rw [unionFields] at ih ⊢
    by_cases empty : p.literals.isEmpty = true
    · rw [if_pos empty, Option.map_eq_none_iff] at name
      rw [List.filterMap_cons_none name, List.filter_cons_of_neg (by simp [empty]), ih]
    · rw [if_neg empty] at name
      obtain ⟨a, given, named⟩ := Option.map_eq_some_iff.mp name
      rw [List.filterMap_cons_some given, List.filter_cons_of_pos (by simpa using empty),
        List.map_cons, List.map_cons, List.map_cons, ih, named]

/-- What an owner declares names from: its own name, and its fields with a literal union. -/
structure NameSource where
  name : String
  fields : List String

/-- The names that are declared, with what stands before every one of them and what ends the
owner's. -/
def NameSource.declared (lead suffix : String) (source : NameSource) : List String :=
  source.fields.map (fun field => lead ++ (capitalize source.name ++ pascalCase field)) ++
    [lead ++ (capitalize source.name ++ suffix)]

def Object.nameSource (o : Object) : NameSource := ⟨o.name, unionFields o.properties⟩

def Method.nameSource (method : Method) : NameSource := ⟨method.name, unionFields method.parameters⟩

def Schema.objectSources (s : Schema) : List NameSource := s.objects.map Object.nameSource

/-- Only methods that take parameters declare anything. -/
def Schema.paramsSources (s : Schema) : List NameSource :=
  (s.methods.filter (!·.parameters.isEmpty)).map Method.nameSource

theorem Object.declaration_names (m : Mapper) (o : Object) :
    (o.declaration m).names = o.nameSource.declared m.lead "" := by
  rw [Declaration.names, Object.declaration]
  change (aliasesFor m o.owner o.properties).map (·.name) ++ [m.objectName o.name] = _
  have union (field : String) :
      m.aliasName o.owner field = m.lead ++ (capitalize o.name ++ pascalCase field) :=
    String.append_assoc ..
  have own : m.objectName o.name = m.lead ++ (capitalize o.name ++ "") := by
    rw [String.append_empty]
    rfl
  rw [aliasesFor_names, own, funext union]
  rfl

theorem Method.paramsDeclaration_names (m : Mapper) (method : Method) :
    (method.paramsDeclaration m).names = method.nameSource.declared "" "Params" := by
  have union (field : String) :
      m.aliasName method.owner field = "" ++ (capitalize method.name ++ pascalCase field) :=
    (String.empty_append ..).symm
  have own : paramsName method.name = "" ++ (capitalize method.name ++ "Params") :=
    (String.empty_append ..).symm
  change (aliasesFor m method.owner method.parameters).map (·.name) ++ [paramsName method.name] = _
  rw [aliasesFor_names, own, funext union]
  rfl

theorem Schema.objectDeclarations_names (m : Mapper) (s : Schema) :
    declaredNames (s.objectDeclarations m) =
      s.objectSources.flatMap (NameSource.declared m.lead "") := by
  rw [declaredNames, objectDeclarations, objectSources, List.flatMap_map, List.flatMap_map]
  simp only [Object.declaration_names]

theorem Schema.paramsDeclarations_names (m : Mapper) (s : Schema) :
    declaredNames (s.paramsDeclarations m) =
      s.paramsSources.flatMap (NameSource.declared "" "Params") := by
  rw [declaredNames, paramsDeclarations, paramsSources, List.flatMap_map, List.flatMap_map]
  simp only [Method.paramsDeclaration_names]

/-- What it takes, beyond owners written differently, for no name to be declared twice: owners stay
different in capitals, fields of one owner stay different in capitals, and a literal union neither
shares its name with one of another owner nor with an owner. -/
structure NamesApart (suffix : String) (sources : List NameSource) : Prop where
  capitals : ∀ a ∈ sources, ∀ b ∈ sources, capitalize a.name = capitalize b.name → a.name = b.name
  fields : ∀ a ∈ sources, (a.fields.map pascalCase).Nodup
  unions : ∀ a ∈ sources, ∀ b ∈ sources, a.name ≠ b.name → ∀ f ∈ a.fields, ∀ g ∈ b.fields,
    capitalize a.name ++ pascalCase f ≠ capitalize b.name ++ pascalCase g
  owners : ∀ a ∈ sources, ∀ b ∈ sources, ∀ f ∈ a.fields,
    capitalize a.name ++ pascalCase f ≠ capitalize b.name ++ suffix

section Apart

variable {lead suffix : String} {sources : List NameSource}

/-- Among owners of different names, every two owners are two that follow one another. -/
theorem pairwise_iff_of_names {R : NameSource → NameSource → Prop} [Std.Symm R]
    (distinct : (sources.map (·.name)).Nodup) :
    sources.Pairwise R ↔ ∀ a ∈ sources, ∀ b ∈ sources, a.name ≠ b.name → R a b := by
  constructor
  · intro each a memA b memB other
    exact each.forall memA memB fun same => other (congrArg _ same)
  · intro each
    refine (distinct.of_map _).pairwise_of_forall_ne fun a memA b memB other => ?_
    exact each a memA b memB fun same => other (List.inj_on_of_nodup_map distinct memA memB same)

theorem mem_declared {source : NameSource} {name : String} :
    name ∈ source.declared lead suffix ↔
      (∃ f ∈ source.fields, name = lead ++ (capitalize source.name ++ pascalCase f)) ∨
        name = lead ++ (capitalize source.name ++ suffix) := by
  rw [NameSource.declared, List.mem_append, List.mem_map, List.mem_singleton]
  simp only [eq_comm]

theorem declared_nodup_iff {source : NameSource} :
    (source.declared lead suffix).Nodup ↔
      (source.fields.map pascalCase).Nodup ∧
        ∀ f ∈ source.fields,
          capitalize source.name ++ pascalCase f ≠ capitalize source.name ++ suffix := by
  have unions :
      (source.fields.map fun f => lead ++ (capitalize source.name ++ pascalCase f)).Nodup ↔
        (source.fields.map pascalCase).Nodup := by
    have whole : source.fields.map (fun f => lead ++ (capitalize source.name ++ pascalCase f)) =
        (source.fields.map pascalCase).map fun ending =>
          lead ++ (capitalize source.name ++ ending) := by
      rw [List.map_map]
      rfl
    rw [whole]
    refine List.nodup_map_iff fun e e' same => ?_
    exact (String.append_right_inj _).mp ((String.append_right_inj lead).mp same)
  rw [NameSource.declared, List.nodup_append, unions]
  constructor
  · rintro ⟨fields, _, other⟩
    refine ⟨fields, fun f mem same => ?_⟩
    exact other _ (List.mem_map_of_mem mem) _ List.mem_cons_self (congrArg _ same)
  · rintro ⟨fields, other⟩
    refine ⟨fields, List.nodup_singleton _, ?_⟩
    intro union there own here same
    obtain ⟨f, mem, rfl⟩ := List.mem_map.mp there
    rw [List.mem_singleton.mp here] at same
    exact other f mem ((String.append_right_inj lead).mp same)

/-- Two owners declare no name together. -/
def DeclareApart (lead suffix : String) (a b : NameSource) : Prop :=
  ∀ x ∈ a.declared lead suffix, ∀ y ∈ b.declared lead suffix, x ≠ y

instance : Std.Symm (DeclareApart lead suffix) where
  symm _ _ apart x memX y memY same := apart y memY x memX same.symm

theorem declareApart_iff {a b : NameSource} :
    DeclareApart lead suffix a b ↔
      capitalize a.name ≠ capitalize b.name ∧
        (∀ f ∈ a.fields, ∀ g ∈ b.fields,
          capitalize a.name ++ pascalCase f ≠ capitalize b.name ++ pascalCase g) ∧
        (∀ f ∈ a.fields, capitalize a.name ++ pascalCase f ≠ capitalize b.name ++ suffix) ∧
        ∀ g ∈ b.fields, capitalize b.name ++ pascalCase g ≠ capitalize a.name ++ suffix := by
  constructor
  · intro apart
    refine ⟨fun same => ?_, fun f memF g memG same => ?_, fun f memF same => ?_,
      fun g memG same => ?_⟩
    · exact apart _ (mem_declared.mpr (.inr rfl)) _ (mem_declared.mpr (.inr rfl)) (by rw [same])
    · exact apart _ (mem_declared.mpr (.inl ⟨f, memF, rfl⟩)) _
        (mem_declared.mpr (.inl ⟨g, memG, rfl⟩)) (by rw [same])
    · exact apart _ (mem_declared.mpr (.inl ⟨f, memF, rfl⟩)) _ (mem_declared.mpr (.inr rfl))
        (by rw [same])
    · exact apart _ (mem_declared.mpr (.inr rfl)) _ (mem_declared.mpr (.inl ⟨g, memG, rfl⟩))
        (by rw [same])
  · rintro ⟨owners, unions, left, right⟩ x memX y memY same
    rcases mem_declared.mp memX with ⟨f, memF, rfl⟩ | rfl
    · rcases mem_declared.mp memY with ⟨g, memG, rfl⟩ | rfl
      · exact unions f memF g memG ((String.append_right_inj lead).mp same)
      · exact left f memF ((String.append_right_inj lead).mp same)
    · rcases mem_declared.mp memY with ⟨g, memG, rfl⟩ | rfl
      · exact right g memG ((String.append_right_inj lead).mp same).symm
      · exact owners ((String.append_left_inj suffix).mp ((String.append_right_inj lead).mp same))

theorem declared_nodup_iff_namesApart (distinct : (sources.map (·.name)).Nodup) :
    (sources.flatMap (NameSource.declared lead suffix)).Nodup ↔ NamesApart suffix sources := by
  have split : (sources.flatMap (NameSource.declared lead suffix)).Nodup ↔
      (∀ a ∈ sources, (a.declared lead suffix).Nodup) ∧
        sources.Pairwise (DeclareApart lead suffix) :=
    List.pairwise_flatMap
  rw [split, pairwise_iff_of_names distinct]
  simp only [declared_nodup_iff, declareApart_iff]
  constructor
  · rintro ⟨own, across⟩
    constructor
    · intro a memA b memB same
      by_cases alike : a.name = b.name
      · exact alike
      · exact absurd same (across a memA b memB alike).1
    · exact fun a mem => (own a mem).1
    · exact fun a memA b memB other => (across a memA b memB other).2.1
    · intro a memA b memB f memF
      by_cases alike : a.name = b.name
      · exact alike ▸ (own a memA).2 f memF
      · exact (across a memA b memB alike).2.2.1 f memF
  · intro apart
    refine ⟨fun a mem => ⟨apart.fields a mem, apart.owners a mem a mem⟩, ?_⟩
    intro a memA b memB other
    exact ⟨fun same => other (apart.capitals a memA b memB same), apart.unions a memA b memB other,
      apart.owners a memA b memB, apart.owners b memB a memA⟩

end Apart

section Patched

variable {text : String} {options : PatchOptions} {s t : Schema}

theorem objectSources_names (s : Schema) :
    s.objectSources.map (·.name) = s.objects.map (·.name) := by
  rw [Schema.objectSources, List.map_map]
  rfl

theorem paramsSources_names (s : Schema) :
    (s.paramsSources.map (·.name)).Sublist (s.methods.map (·.name)) := by
  rw [Schema.paramsSources, List.map_map]
  exact List.filter_sublist.map _

/-- In a loaded and patched schema no two objects and no two methods are written alike. What the module
of objects declares then has pairwise different names exactly if they stay apart in capitals, and so
has what the module of params declares. -/
theorem Schema.declaredNames_nodup_iff (loaded : Schema.load text = .ok s)
    (done : s.patched options = .ok t) (m : Mapper) :
    Module.body m t .objects = renderAll (t.objectDeclarations m) ∧
      Module.body m t .params = renderAll (t.paramsDeclarations m) ∧
      ((declaredNames (t.objectDeclarations m)).Nodup ↔ NamesApart "" t.objectSources) ∧
      ((declaredNames (t.paramsDeclarations m)).Nodup ↔ NamesApart "Params" t.paramsSources) := by
  obtain ⟨methods, objects⟩ := names_of_load loaded
  have methodsApart : (t.methods.map (·.name)).Nodup := by
    rw [eq_amended done, amended_methodNames]
    exact methods
  have objectsApart : (t.objects.map (·.name)).Nodup := by
    rw [eq_amended done]
    exact amended_objectsApart options objects
  refine ⟨Module.body_objects m t, Module.body_params m t, ?_, ?_⟩
  · rw [objectDeclarations_names]
    exact declared_nodup_iff_namesApart (by rw [objectSources_names]; exact objectsApart)
  · rw [paramsDeclarations_names]
    exact declared_nodup_iff_namesApart (methodsApart.sublist (paramsSources_names t))

end Patched

/-- Two objects that differ in the case of a letter only. -/
def Schema.clashing : Schema :=
  forum [⟨"user", "", "", .unknown, none⟩, ⟨"User", "", "", .unknown, none⟩]

theorem Schema.clashing_loads : ∃ text, Schema.load text = .ok clashing := by
  have portable : clashing.Portable := by
    constructor
    · decide
    · decide
    · simp [clashing, forum, fieldTypes, Method.parts, ObjectKind.parts, FieldType.plainString,
        FieldType.plainInteger, FieldType.parts]
    · decide
    · simp [FieldType.FloatsBare, clashing, forum, fieldTypes, Method.parts, ObjectKind.parts,
        FieldType.plainString, FieldType.plainInteger, FieldType.parts]
    · intro v written
      cases written
      decide
  obtain ⟨v, written⟩ := clashing.writable_iff.mpr portable.noExpression
  exact ⟨v.compact, portable.load_compact written⟩

theorem Schema.clashing_declaredNames_nodup_iff :
    ∃ text t, Schema.load text = .ok clashing ∧ clashing.patched ⟨["EUR"]⟩ = .ok t ∧
      Module.body .standard t .objects = renderAll (t.objectDeclarations .standard) ∧
      Module.body .standard t .params = renderAll (t.paramsDeclarations .standard) ∧
      ((declaredNames (t.objectDeclarations .standard)).Nodup ↔ NamesApart "" t.objectSources) ∧
      ((declaredNames (t.paramsDeclarations .standard)).Nodup ↔
        NamesApart "Params" t.paramsSources) := by
  obtain ⟨text, loaded⟩ := clashing_loads
  have done := forum_patched
    [⟨"user", "", "", .unknown, none⟩, ⟨"User", "", "", .unknown, none⟩] "EUR" []
  exact ⟨text, _, loaded, done, declaredNames_nodup_iff loaded done .standard⟩

/-- Loading and patching let the two pass, and one interface name is declared for both. -/
theorem Schema.clashing_declares_twice :
    ∃ text t, Schema.load text = .ok clashing ∧ clashing.patched ⟨["EUR"]⟩ = .ok t ∧
      ¬ ((declaredNames (t.objectDeclarations .standard)).Nodup ∧
        (declaredNames (t.paramsDeclarations .standard)).Nodup) := by
  obtain ⟨text, loaded⟩ := clashing_loads
  have done := forum_patched
    [⟨"user", "", "", .unknown, none⟩, ⟨"User", "", "", .unknown, none⟩] "EUR" []
  refine ⟨text, _, loaded, done, fun apart => ?_⟩
  exact absurd apart.1 (by decide +kernel)

end BotTypings
