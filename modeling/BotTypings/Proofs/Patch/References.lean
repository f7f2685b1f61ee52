import BotTypings.Proofs.Patch.Frame
import BotTypings.Proofs.Patch.Refusals
import BotTypings.Proofs.Schema.Parts

/-! References and the objects that they name. The patches bring four references into a schema. Two of
them name objects that the patches store as well; the other two are left for the description to
resolve, and no patch asks whether it does. -/
namespace BotTypings

/-- The target of a reference without the type arguments that may end it. -/
def referredName (target : String) : String :=
  if target.toList.getLast? = some '>' then String.ofList (target.toList.takeWhile (· != '<'))
  else target

def FieldType.target? : FieldType → Option String
  | .reference target => some target
  | _ => none

def Property.references (p : Property) : List String := p.kind.parts.filterMap FieldType.target?

def Method.references (m : Method) : List String := m.parts.filterMap FieldType.target?

def Object.references (o : Object) : List String := o.kind.parts.filterMap FieldType.target?

/-- The targets of all references, at any depth of any parameter, return type, property or union. -/
def Schema.references (s : Schema) : List String := s.fieldTypes.filterMap FieldType.target?

/-- Every reference names an object. -/
def Schema.ReferenceClosed (s : Schema) : Prop :=
  ∀ target ∈ s.references, referredName target ∈ s.objects.map (·.name)

instance (s : Schema) : Decidable s.ReferenceClosed :=
  inferInstanceAs (Decidable (∀ target ∈ s.references, _))

theorem mem_targets {target : String} {parts : List FieldType} :
    target ∈ parts.filterMap FieldType.target? ↔ .reference target ∈ parts := by
  rw [List.mem_filterMap]
  constructor
  · rintro ⟨part, inside, given⟩
    cases part with
    | reference => exact Option.some.inj given ▸ inside
    | _ => cases given
  · intro inside
    exact ⟨_, inside, rfl⟩

theorem Method.references_eq (m : Method) :
    m.references =
      m.parameters.flatMap Property.references ++ m.returns.parts.filterMap FieldType.target? := by
  rw [references, parts, List.filterMap_append, List.filterMap_flatMap]
  rfl

theorem Schema.references_eq (s : Schema) :
    s.references = s.methods.flatMap Method.references ++ s.objects.flatMap Object.references := by
  rw [references, fieldTypes, List.filterMap_append, List.filterMap_flatMap, List.filterMap_flatMap]
  rfl

section

variable {α : Type} {targets : α → List String} {f : α → α} {brought : List String}

/-- A change that brings some targets into an entry brings no others into the list. -/
theorem modifyFirst_targets (each : ∀ x, targets (f x) ⊆ targets x ++ brought) (p : α → Bool)
    (xs : List α) : (modifyFirst p f xs).flatMap targets ⊆ xs.flatMap targets ++ brought := by
  intro target inside
  obtain ⟨x, mem, given⟩ := List.mem_flatMap.mp inside
  rw [List.mem_append, List.mem_flatMap]
  rcases mem_modifyFirst mem with old | ⟨y, old, rfl⟩
  · exact .inl ⟨x, old, given⟩
  · rcases List.mem_append.mp (each y given) with own | new
    · exact .inl ⟨y, old, own⟩
    · exact .inr new

end

theorem Property.asListedColor_references (p : Property) : p.asListedColor.references = [] := rfl

theorem Method.limitIconColor_references (m : Method) :
    m.limitIconColor.references ⊆ m.references ++ [] := by
  have each (p : Property) : p.asListedColor.references ⊆ p.references ++ [] := by
    simp [Property.asListedColor_references]
  have parameters := modifyFirst_targets each (·.name == iconColorParameter) m.parameters
  rw [references_eq, references_eq]
  intro target inside
  rcases List.mem_append.mp inside with own | returned
  · have old := parameters own
    simp only [List.mem_append, List.append_nil] at old ⊢
    exact .inl old
  · simp only [List.mem_append, List.append_nil]
    exact .inr returned

theorem Method.givingMenuButton_references (m : Method) :
    m.givingMenuButton.references ⊆ m.references ++ ["MenuButton"] := by
  rw [references_eq, references_eq]
  intro target inside
  rcases List.mem_append.mp inside with own | returned
  · exact List.mem_append_left _ (List.mem_append_left _ own)
  · exact List.mem_append_right _ returned

theorem Object.asBlob_references (o : Object) : o.asBlob.references ⊆ o.references ++ [] := by
  have none : o.asBlob.references = [] := rfl
  simp [none]

/-- The objects that patches refer to without storing them. -/
def expectedObjects : List String := ["MenuButton", "ResponseParameters"]

/-- The targets that patches bring in. -/
def broughtTargets : List String :=
  expectedObjects ++ [responseOkObject ++ "<Method>", responseErrorObject]

theorem literals_references (values : List String) :
    (FieldType.partsOfAll (values.map FieldType.literal)).filterMap FieldType.target? = [] := by
  induction values with
  | nil => rfl
  | cons value values ih =>
    rw [List.map_cons, FieldType.partsOfAll, List.filterMap_append, ih]
    rfl

theorem additions_references {target : String} {currencies : List String} {o : Object}
    (added : o ∈ additions currencies) (refers : target ∈ o.references) :
    target ∈ broughtTargets := by
  simp only [additions, List.mem_cons, List.not_mem_nil, or_false] at added
  rcases added with rfl | rfl | rfl | rfl
  · have none : (currencyUnion currencies).references = [] := literals_references _
    rw [none] at refers
    cases refers
  · cases refers
  · have only : errorEnvelope.references = ["ResponseParameters"] := rfl
    rw [only, List.mem_singleton] at refers
    exact refers ▸ by decide
  · have both : eitherEnvelope.references =
        [responseOkObject ++ "<Method>", responseErrorObject] := rfl
    rw [both] at refers
    exact List.mem_append_right expectedObjects refers

theorem Schema.references_amended {options : PatchOptions} {s : Schema} {target : String}
    (inside : target ∈ (s.amended options).references) :
    target ∈ s.references ∨ target ∈ broughtTargets := by
  rw [references_eq, List.mem_append] at inside
  rw [references_eq, List.mem_append]
  rcases inside with ofMethod | ofObject
  · rw [amended_methods] at ofMethod
    have outer := modifyFirst_targets Method.givingMenuButton_references
      (·.name == menuButtonMethod) _ ofMethod
    rcases List.mem_append.mp outer with old | new
    · have inner := modifyFirst_targets Method.limitIconColor_references
        (·.name == iconColorMethod) _ old
      rw [List.append_nil] at inner
      exact .inl (.inl inner)
    · exact .inr (List.mem_singleton.mp new ▸ List.mem_cons_self)
  · rw [amended_objects] at ofObject
    have stored := modifyFirst_targets Object.asBlob_references
      (·.name == inputFileObject) _ ofObject
    rw [List.append_nil] at stored
    obtain ⟨o, mem, refers⟩ := List.mem_flatMap.mp stored
    rcases mem_storeAll mem with old | added
    · exact .inl (.inr (List.mem_flatMap.mpr ⟨o, old, refers⟩))
    · exact .inr (additions_references added refers)

theorem Schema.mem_references_menuButton {options : PatchOptions} {s : Schema}
    (there : menuButtonMethod ∈ s.methods.map (·.name)) :
    "MenuButton" ∈ (s.amended options).references := by
  let limited := modifyFirst (·.name == iconColorMethod) Method.limitIconColor s.methods
  have names : limited.map (·.name) = s.methods.map (·.name) :=
    modifyFirst_map _ Method.limitIconColor_name s.methods
  have still : (limited.find? (·.name == menuButtonMethod)).isSome = true :=
    find?_isSome_iff_names.mpr (names ▸ there)
  obtain ⟨m, found⟩ := Option.isSome_iff_exists.mp still
  have answered := find?_modifyFirst_same Method.name menuButtonMethod Method.givingMenuButton_name
    limited
  rw [found] at answered
  have mem : m.givingMenuButton ∈ (s.amended options).methods := by
    rw [amended_methods]
    exact List.mem_of_find?_eq_some answered
  rw [references_eq, List.mem_append, List.mem_flatMap]
  refine .inl ⟨_, mem, ?_⟩
  rw [Method.references_eq]
  exact List.mem_append_right _ (List.mem_singleton_self _)

theorem Schema.mem_references_responseParameters (options : PatchOptions) (s : Schema) :
    "ResponseParameters" ∈ (s.amended options).references := by
  have stored : (storeAll (additions options.currencies) s.objects).find?
      (·.name == responseErrorObject) = some errorEnvelope := by
    let earlier := store okEnvelope (store (currencyUnion options.currencies) s.objects)
    change (store eitherEnvelope (store errorEnvelope earlier)).find? _ = _
    rw [find?_store, if_neg (by decide), find?_store]
    exact if_pos rfl
  have mem : errorEnvelope ∈ (s.amended options).objects := by
    have kept := find?_modifyFirst_other Object.name inputFileObject responseErrorObject (by decide)
      Object.asBlob_name (storeAll (additions options.currencies) s.objects)
    rw [amended_objects]
    exact List.mem_of_find?_eq_some (kept.trans stored)
  rw [references_eq, List.mem_append]
  exact .inr (List.mem_flatMap.mpr ⟨_, mem, by decide⟩)

theorem expectedObjects_plain : ∀ name ∈ expectedObjects, referredName name = name := by decide

theorem expectedObjects_not_added : ∀ name ∈ expectedObjects, name ∉ addedNames := by decide

/-- A target of a patched schema names an object, unless it is one that patches refer to without
storing it. -/
theorem Schema.resolved_or_expected {options : PatchOptions} {s : Schema}
    (closed : s.ReferenceClosed) {target : String}
    (refers : target ∈ (s.amended options).references) :
    referredName target ∈ (s.amended options).objects.map (·.name) ∨
      target ∈ expectedObjects ∧ target ∉ s.objects.map (·.name) := by
  rw [mem_amended_names]
  rcases references_amended refers with old | new
  · exact .inl (.inl (closed target old))
  · rcases List.mem_append.mp new with expected | stored
    · by_cases there : target ∈ s.objects.map (·.name)
      · rw [expectedObjects_plain target expected]
        exact .inl (.inl there)
      · exact .inr ⟨expected, there⟩
    · have named : ∀ target ∈ [responseOkObject ++ "<Method>", responseErrorObject],
          referredName target ∈ addedNames := by decide
      exact .inl (.inr (named target stored))

theorem Schema.mem_references_expected {options : PatchOptions} {s : Schema}
    (there : menuButtonMethod ∈ s.methods.map (·.name)) :
    ∀ name ∈ expectedObjects, name ∈ (s.amended options).references := by
  intro name expected
  simp only [expectedObjects, List.mem_cons, List.not_mem_nil, or_false] at expected
  rcases expected with rfl | rfl
  · exact mem_references_menuButton there
  · exact mem_references_responseParameters options s

/-- A patched schema is closed exactly when the description holds the objects that patches refer to
without storing them. -/
theorem Schema.amended_referenceClosed_iff {options : PatchOptions} {s : Schema}
    (closed : s.ReferenceClosed) (there : menuButtonMethod ∈ s.methods.map (·.name)) :
    (s.amended options).ReferenceClosed ↔
      ∀ name ∈ expectedObjects, name ∈ s.objects.map (·.name) := by
  constructor
  · intro resolved name expected
    have named := resolved name (mem_references_expected there name expected)
    rw [expectedObjects_plain name expected, mem_amended_names] at named
    exact named.resolve_right (expectedObjects_not_added name expected)
  · intro held target refers
    rcases resolved_or_expected closed refers with resolved | ⟨expected, missing⟩
    · exact resolved
    · exact absurd (held target expected) missing

end BotTypings
