import BotTypings.Declaration.Methods
import BotTypings.Proofs.Patch.Outcome

/-! What a run of patches leaves alone. Methods keep their places, names and parameters; but for one
kind and one return type they are what they were. Objects keep their places as well, and the only
ones that may differ are the uploaded file, in its kind, and those that bore a name under which
patches store. -/
namespace BotTypings

structure Property.SameButKind (p q : Property) : Prop where
  name : q.name = p.name
  description : q.description = p.description
  required : q.required = p.required

/-- The second method is the first one, but for the kind of the first icon colour if its kind may be
limited, and for the return type if that may be set. -/
structure Method.Kept (limited answered : Prop) (m n : Method) : Prop where
  name : n.name = m.name
  description : n.description = m.description
  documentationLink : n.documentationLink = m.documentationLink
  returns : n.returns = m.returns ∨ answered
  count : n.parameters.length = m.parameters.length
  parameter : ∀ (j : Nat) (p : Property), m.parameters[j]? = some p →
    ∃ q, n.parameters[j]? = some q ∧ p.SameButKind q ∧
      (q.kind = p.kind ∨ limited ∧ StandsFirst iconColorParameter (m.parameters.map (·.name)) j)
  shape : n.paramsShape = m.paramsShape

/-- Which parameters are required decides how the params object is passed. -/
theorem Method.paramsShape_congr {m n : Method}
    (same : n.parameters.map (·.required) = m.parameters.map (·.required)) :
    n.paramsShape = m.paramsShape := by
  have shape (k : Method) : k.paramsShape =
      if (k.parameters.map (·.required)).isEmpty then .none
      else if (k.parameters.map (·.required)).any id then .required else .optional := by
    rw [paramsShape, List.isEmpty_map, List.any_map]
    rfl
  rw [shape, shape, same]

theorem Method.kept_refl (limited answered : Prop) (m : Method) : m.Kept limited answered m where
  name := rfl
  description := rfl
  documentationLink := rfl
  returns := .inl rfl
  count := rfl
  parameter _ p here := ⟨p, here, ⟨rfl, rfl, rfl⟩, .inl rfl⟩
  shape := rfl

theorem Method.kept_limitIconColor {limited : Prop} (answered : Prop) (may : limited) (m : Method) :
    m.Kept limited answered m.limitIconColor where
  name := rfl
  description := rfl
  documentationLink := rfl
  returns := .inl rfl
  count := modifyFirst_length _ _ m.parameters
  parameter j p here := by
    obtain ⟨q, there, same | ⟨changed, first⟩⟩ :=
      modifyFirst_at Property.name iconColorParameter (f := Property.asListedColor) here
    · exact ⟨q, there, same ▸ ⟨rfl, rfl, rfl⟩, .inl (same ▸ rfl)⟩
    · exact ⟨q, there, changed ▸ ⟨rfl, rfl, rfl⟩, .inr ⟨may, first⟩⟩
  shape := Method.paramsShape_congr
    (modifyFirst_map (f := Property.asListedColor) _ (fun _ => rfl) m.parameters)

theorem Method.Kept.givingMenuButton {limited answered : Prop} {m n : Method} (may : answered)
    (kept : m.Kept limited answered n) : m.Kept limited answered n.givingMenuButton where
  name := kept.name
  description := kept.description
  documentationLink := kept.documentationLink
  returns := .inr may
  count := kept.count
  parameter := kept.parameter
  shape := kept.shape

structure Object.SameButKind (o p : Object) : Prop where
  name : p.name = o.name
  description : p.description = o.description
  documentationLink : p.documentationLink = o.documentationLink
  typeParameters : p.typeParameters = o.typeParameters

/-- What the patches leave of a schema. -/
structure Schema.Frame (s t : Schema) : Prop where
  version : t.version = s.version
  released : t.released = s.released
  methodNames : t.methods.map (·.name) = s.methods.map (·.name)
  method : ∀ (i : Nat) (m : Method), s.methods[i]? = some m →
    ∃ n, t.methods[i]? = some n ∧
      m.Kept (StandsFirst iconColorMethod (s.methods.map (·.name)) i)
        (StandsFirst menuButtonMethod (s.methods.map (·.name)) i) n
  objectNames : t.objects.map (·.name) =
    s.objects.map (·.name) ++ addedNames.filter (· ∉ s.objects.map (·.name))
  object : ∀ (i : Nat) (o : Object), s.objects[i]? = some o →
    ∃ p, t.objects[i]? = some p ∧
      (p = o ∨ o.SameButKind p ∧ StandsFirst inputFileObject (s.objects.map (·.name)) i ∨
        ∃ n ∈ addedNames, StandsFirst n (s.objects.map (·.name)) i)
  methodsApart : (s.methods.map (·.name)).Nodup → (t.methods.map (·.name)).Nodup
  objectsApart : (s.objects.map (·.name)).Nodup → (t.objects.map (·.name)).Nodup

theorem Schema.amended_methodNames (options : PatchOptions) (s : Schema) :
    (s.amended options).methods.map (·.name) = s.methods.map (·.name) := by
  rw [amended_methods, modifyFirst_map _ Method.givingMenuButton_name,
    modifyFirst_map _ Method.limitIconColor_name]

theorem Schema.amended_objectNames (options : PatchOptions) (s : Schema) :
    (s.amended options).objects.map (·.name) =
      s.objects.map (·.name) ++ addedNames.filter (· ∉ s.objects.map (·.name)) := by
  rw [amended_objects, modifyFirst_map _ Object.asBlob_name,
    storeAll_names (additions_apart options.currencies), additions_names]

theorem Schema.mem_amended_names {options : PatchOptions} {s : Schema} {name : String} :
    name ∈ (s.amended options).objects.map (·.name) ↔
      name ∈ s.objects.map (·.name) ∨ name ∈ addedNames := by
  rw [amended_objectNames, List.mem_append, List.mem_filter]
  by_cases old : name ∈ s.objects.map (·.name)
  · simp only [old, true_or]
  · simp [old]

/-- Stored objects take the place of their namesakes, so no name comes to stand twice. -/
theorem Schema.amended_objectsApart (options : PatchOptions) {s : Schema}
    (apart : (s.objects.map (·.name)).Nodup) :
    ((s.amended options).objects.map (·.name)).Nodup := by
  rw [amended_objectNames, List.nodup_append]
  refine ⟨apart, (show addedNames.Nodup by decide).filter _, ?_⟩
  intro old there new added same
  rw [List.mem_filter] at added
  exact of_decide_eq_true added.2 (same ▸ there)

theorem Schema.amended_method (options : PatchOptions) {s : Schema} {i : Nat} {m : Method}
    (here : s.methods[i]? = some m) :
    ∃ n, (s.amended options).methods[i]? = some n ∧
      m.Kept (StandsFirst iconColorMethod (s.methods.map (·.name)) i)
        (StandsFirst menuButtonMethod (s.methods.map (·.name)) i) n := by
  obtain ⟨limited, there, limitedOnly⟩ :=
    modifyFirst_at Method.name iconColorMethod (f := Method.limitIconColor) here
  obtain ⟨n, last, answeredOnly⟩ :=
    modifyFirst_at Method.name menuButtonMethod (f := Method.givingMenuButton) there
  rw [modifyFirst_map _ Method.limitIconColor_name] at answeredOnly
  have kept : m.Kept (StandsFirst iconColorMethod (s.methods.map (·.name)) i)
      (StandsFirst menuButtonMethod (s.methods.map (·.name)) i) limited := by
    rcases limitedOnly with rfl | ⟨rfl, first⟩
    · exact Method.kept_refl _ _ limited
    · exact Method.kept_limitIconColor _ first m
  refine ⟨n, ?_, ?_⟩
  · rw [amended_methods]
    exact last
  · rcases answeredOnly with rfl | ⟨rfl, first⟩
    · exact kept
    · exact kept.givingMenuButton first

theorem Schema.amended_object (options : PatchOptions) {s : Schema} {i : Nat} {o : Object}
    (here : s.objects[i]? = some o) :
    ∃ p, (s.amended options).objects[i]? = some p ∧
      (p = o ∨ o.SameButKind p ∧ StandsFirst inputFileObject (s.objects.map (·.name)) i ∨
        ∃ n ∈ addedNames, StandsFirst n (s.objects.map (·.name)) i) := by
  have inside : i < s.objects.length := (List.getElem?_eq_some_iff.mp here).1
  by_cases replaced : ∃ n ∈ addedNames, StandsFirst n (s.objects.map (·.name)) i
  · have longer : s.objects.length ≤ (s.amended options).objects.length := by
      have names := congrArg List.length (s.amended_objectNames options)
      rw [List.length_append, List.length_map, List.length_map] at names
      omega
    exact ⟨_, List.getElem?_eq_getElem (Nat.lt_of_lt_of_le inside longer), .inr (.inr replaced)⟩
  · have others : ∀ n ∈ (additions options.currencies).map (·.name),
        ¬ StandsFirst n (s.objects.map (·.name)) i :=
      fun n mem first => replaced ⟨n, mem, first⟩
    have stays := (getElem?_storeAll_other inside others).trans here
    obtain ⟨p, there, blobOnly⟩ :=
      modifyFirst_at Object.name inputFileObject (f := Object.asBlob) stays
    refine ⟨p, ?_, ?_⟩
    · rw [amended_objects]
      exact there
    · rcases blobOnly with same | ⟨rfl, first⟩
      · exact .inl same
      · rw [storeAll_names (additions_apart options.currencies),
          standsFirst_append (by rw [List.length_map]; exact inside)] at first
        exact .inr (.inl ⟨⟨rfl, rfl, rfl, rfl⟩, first⟩)

/-- Patches add their own objects behind those of the schema, correct three entries, and leave
everything else as it is. -/
theorem Schema.patched_frame {options : PatchOptions} {s t : Schema}
    (done : s.patched options = .ok t) : s.Frame t := by
  rw [eq_amended done]
  constructor
  · rw [amended_eq]
  · rw [amended_eq]
  · exact s.amended_methodNames options
  · exact fun i m here => amended_method options here
  · exact s.amended_objectNames options
  · exact fun i o here => amended_object options here
  · intro apart
    rw [amended_methodNames]
    exact apart
  · exact amended_objectsApart options

/-- Three names are there already, one of them twice: only the fourth is added. -/
theorem Schema.forum_frame :
    ∃ s t : Schema, s.patched ⟨["EUR"]⟩ = .ok t ∧ s.Frame t ∧
      t.objects.map (·.name) =
        ["InputFile", "APIResponse", "Currencies", "APIResponse", "APIResponseOk",
          "APIResponseError"] := by
  have done := forum_patched
    [⟨responseObject, "", "", .unknown, none⟩, ⟨currenciesObject, "", "", .unknown, none⟩,
      ⟨responseObject, "", "", .unknown, none⟩, ⟨responseOkObject, "", "", .unknown, none⟩]
    "EUR" []
  exact ⟨_, _, done, patched_frame done, rfl⟩

end BotTypings
