import BotTypings.Patch.Pipeline
import BotTypings.Proofs.Patch.Entries

/-! What a run of patches comes to. Each patch asks one thing of a schema and makes one change to
it, and no change touches what any patch asks. So the schema at the start decides whether a run
succeeds and with which error it fails, and a run that succeeds is its changes one after the other.
-/
namespace BotTypings

/-- The colours that the description of the icon colour lists, if it is there. -/
def Schema.iconColors (s : Schema) : Except PatchError (List Int64) :=
  match s.method? iconColorMethod with
  | none => .error (.missingMethod iconColorMethod)
  | some m =>
    match m.parameter? iconColorParameter with
    | none => .error (.missingParameter iconColorMethod iconColorParameter)
    | some p => .ok (Color.scrape p.description.toList)

/-- All that patches ask of a schema. -/
structure Findings where
  inputFile : Bool
  iconColors : Except PatchError (List Int64)
  menuButton : Bool

def Schema.findings (s : Schema) : Findings where
  inputFile := (s.object? inputFileObject).isSome
  iconColors := s.iconColors
  menuButton := (s.method? menuButtonMethod).isSome

/-- A patch taken apart: when it refuses a schema, and what it makes of one otherwise. -/
structure Amendment where
  name : String
  refusal? : PatchOptions → Findings → Option PatchError
  change : PatchOptions → Schema → Schema

def Amendment.patch (a : Amendment) : Patch where
  name := a.name
  run options s :=
    match a.refusal? options s.findings with
    | some e => .error e
    | none => .ok (a.change options s)

def Object.asBlob (o : Object) : Object :=
  { o with kind := .anyOf [.expression "Blob", .expression "Promise<Blob>"] }

def Property.asListedColor (p : Property) : Property :=
  { p with kind := .integer (Color.scrape p.description.toList) none none none }

def Method.limitIconColor (m : Method) : Method :=
  m.modifyParameter iconColorParameter Property.asListedColor

def Method.givingMenuButton (m : Method) : Method := { m with returns := .reference "MenuButton" }

@[simp] theorem Object.asBlob_name (o : Object) : o.asBlob.name = o.name := rfl

@[simp] theorem Property.asListedColor_name (p : Property) : p.asListedColor.name = p.name := rfl

@[simp] theorem Method.limitIconColor_name (m : Method) : m.limitIconColor.name = m.name := rfl

@[simp] theorem Method.givingMenuButton_name (m : Method) : m.givingMenuButton.name = m.name := rfl

namespace Amendment

def currencies : Amendment where
  name := "currencies"
  refusal? options _ := if options.currencies = [] then some .noCurrencies else none
  change options s := s.upsertObject (currencyUnion options.currencies)

def envelopes : Amendment where
  name := "response_envelopes"
  refusal? _ _ := none
  change _ s := ((s.upsertObject okEnvelope).upsertObject errorEnvelope).upsertObject eitherEnvelope

def inputFile : Amendment where
  name := "input_file"
  refusal? _ found := if found.inputFile then none else some (.missingObject inputFileObject)
  change _ s := s.modifyObject inputFileObject Object.asBlob

def iconColor : Amendment where
  name := "icon_color"
  refusal? _ found :=
    match found.iconColors with
    | .error e => some e
    | .ok [] => some (.patternNotFound (iconColorMethod ++ "." ++ iconColorParameter) Color.pattern)
    | .ok (_ :: _) => none
  change _ s := s.modifyMethod iconColorMethod Method.limitIconColor

def returnTypes : Amendment where
  name := "return_types"
  refusal? _ found := if found.menuButton then none else some (.missingMethod menuButtonMethod)
  change _ s := s.modifyMethod menuButtonMethod Method.givingMenuButton

def all : List Amendment := [currencies, envelopes, inputFile, iconColor, returnTypes]

end Amendment

/-- A change matters at the entry that is found, and nowhere else. -/
theorem modifyFirst_congr {α : Type} {p : α → Bool} {f g : α → α} {x : α} {xs : List α}
    (found : xs.find? p = some x) (same : f x = g x) : modifyFirst p f xs = modifyFirst p g xs := by
  induction xs with
  | nil => rfl
  | cons y ys ih =>
    by_cases hit : p y = true
    · have first : y = x := by
        rw [List.find?_cons_of_pos hit] at found
        exact Option.some.inj found
      rw [modifyFirst, if_pos hit, modifyFirst, if_pos hit, first, same]
    · rw [List.find?_cons_of_neg hit] at found
      rw [modifyFirst, if_neg hit, modifyFirst, if_neg hit, ih found]

theorem Patch.eq_of_run {p q : Patch} (name : p.name = q.name)
    (run : ∀ options s, p.run options s = q.run options s) : p = q := by
  obtain ⟨_, p⟩ := p
  obtain ⟨_, q⟩ := q
  cases name
  have same : p = q := funext fun options => funext fun s => run options s
  rw [same]

theorem correctIconColor_run (options : PatchOptions) (s : Schema) :
    correctIconColor.run options s = Amendment.iconColor.patch.run options s := by
  simp only [correctIconColor, Amendment.patch, Amendment.iconColor, Schema.findings,
    Schema.iconColors]
  cases method : s.method? iconColorMethod with
  | none => rfl
  | some m =>
    cases parameter : m.parameter? iconColorParameter with
    | none => simp only [parameter]
    | some p =>
      simp only [parameter]
      cases colors : Color.scrape p.description.toList with
      | nil => rfl
      | cons first others =>
        have parameters : modifyFirst (·.name == iconColorParameter)
            (fun p => { p with kind := .integer (first :: others) none none none }) m.parameters =
              modifyFirst (·.name == iconColorParameter) Property.asListedColor m.parameters := by
          refine modifyFirst_congr parameter ?_
          rw [Property.asListedColor, colors]
        have same : m.modifyParameter iconColorParameter
            (fun p => { p with kind := .integer (first :: others) none none none }) =
              m.limitIconColor := by
          rw [Method.modifyParameter, parameters]
          rfl
        have methods := modifyFirst_congr method same
        exact congrArg (fun methods => Except.ok { s with methods := methods }) methods

theorem patches_eq : patches = Amendment.all.map Amendment.patch := by
  have currencies : addCurrencies = Amendment.currencies.patch := by
    refine Patch.eq_of_run rfl fun options s => ?_
    simp only [addCurrencies, Amendment.patch, Amendment.currencies]
    cases options.currencies <;> rfl
  have inputFile : correctInputFile = Amendment.inputFile.patch := by
    refine Patch.eq_of_run rfl fun options s => ?_
    simp only [correctInputFile, Amendment.patch, Amendment.inputFile, Schema.findings]
    cases s.object? inputFileObject <;> rfl
  have returnTypes : correctReturnTypes = Amendment.returnTypes.patch := by
    refine Patch.eq_of_run rfl fun options s => ?_
    simp only [correctReturnTypes, Amendment.patch, Amendment.returnTypes, Schema.findings]
    cases s.method? menuButtonMethod <;> rfl
  have iconColor : correctIconColor = Amendment.iconColor.patch :=
    Patch.eq_of_run rfl correctIconColor_run
  rw [patches, currencies, inputFile, iconColor, returnTypes]
  rfl

theorem findings_upsertObject {o : Object} (other : inputFileObject ≠ o.name) (s : Schema) :
    (s.upsertObject o).findings = s.findings := by
  have found : (s.upsertObject o).object? inputFileObject = s.object? inputFileObject := by
    rw [Schema.upsertObject_eq]
    exact (find?_store o inputFileObject s.objects).trans (if_neg other)
  rw [Schema.findings, found, Schema.upsertObject_eq]
  rfl

theorem findings_asBlob (s : Schema) :
    (s.modifyObject inputFileObject Object.asBlob).findings = s.findings := by
  have found : (s.modifyObject inputFileObject Object.asBlob).object? inputFileObject =
      (s.object? inputFileObject).map Object.asBlob :=
    find?_modifyFirst_same Object.name inputFileObject Object.asBlob_name s.objects
  rw [Schema.findings, found, Option.isSome_map]
  rfl

theorem findings_limitIconColor (s : Schema) :
    (s.modifyMethod iconColorMethod Method.limitIconColor).findings = s.findings := by
  have method : (s.modifyMethod iconColorMethod Method.limitIconColor).method? iconColorMethod =
      (s.method? iconColorMethod).map Method.limitIconColor :=
    find?_modifyFirst_same Method.name iconColorMethod Method.limitIconColor_name s.methods
  have menu : (s.modifyMethod iconColorMethod Method.limitIconColor).method? menuButtonMethod =
      s.method? menuButtonMethod :=
    find?_modifyFirst_other Method.name iconColorMethod menuButtonMethod (by decide)
      Method.limitIconColor_name s.methods
  have colors :
      (s.modifyMethod iconColorMethod Method.limitIconColor).iconColors = s.iconColors := by
    rw [Schema.iconColors, Schema.iconColors, method]
    cases s.method? iconColorMethod with
    | none => rfl
    | some m =>
      have parameter : m.limitIconColor.parameter? iconColorParameter =
          (m.parameter? iconColorParameter).map Property.asListedColor :=
        find?_modifyFirst_same Property.name iconColorParameter Property.asListedColor_name
          m.parameters
      simp only [Option.map_some, parameter]
      cases m.parameter? iconColorParameter <;> rfl
  rw [Schema.findings, menu, colors]
  rfl

theorem findings_givingMenuButton (s : Schema) :
    (s.modifyMethod menuButtonMethod Method.givingMenuButton).findings = s.findings := by
  have method : (s.modifyMethod menuButtonMethod Method.givingMenuButton).method? iconColorMethod =
      s.method? iconColorMethod :=
    find?_modifyFirst_other Method.name menuButtonMethod iconColorMethod (by decide)
      Method.givingMenuButton_name s.methods
  have menu : (s.modifyMethod menuButtonMethod Method.givingMenuButton).method? menuButtonMethod =
      (s.method? menuButtonMethod).map Method.givingMenuButton :=
    find?_modifyFirst_same Method.name menuButtonMethod Method.givingMenuButton_name s.methods
  rw [Schema.findings, Schema.iconColors, method, menu, Option.isSome_map]
  rfl

/-- No patch changes what another one, or itself, asks of the schema. -/
theorem Amendment.findings_change (a : Amendment) (mem : a ∈ all) (options : PatchOptions)
    (s : Schema) :
    (a.change options s).findings = s.findings := by
  simp only [all, List.mem_cons, List.not_mem_nil, or_false] at mem
  rcases mem with rfl | rfl | rfl | rfl | rfl
  · have other : inputFileObject ≠ (currencyUnion options.currencies).name :=
      (by decide : inputFileObject ≠ currenciesObject)
    exact findings_upsertObject other s
  · change (((s.upsertObject okEnvelope).upsertObject errorEnvelope).upsertObject
      eitherEnvelope).findings = _
    rw [findings_upsertObject (by decide), findings_upsertObject (by decide),
      findings_upsertObject (by decide)]
  · exact findings_asBlob s
  · exact findings_limitIconColor s
  · exact findings_givingMenuButton s

/-- The error of the first patch that refuses. -/
def refusalOf? (options : PatchOptions) (as : List Amendment) (found : Findings) :
    Option PatchError :=
  as.findSome? fun a => (a.refusal? options found).map (.step a.name)

def changed (options : PatchOptions) (as : List Amendment) (s : Schema) : Schema :=
  as.foldl (fun s a => a.change options s) s

theorem runPatches_eq (options : PatchOptions) {as : List Amendment}
    (known : ∀ a ∈ as, a ∈ Amendment.all) (s : Schema) :
    runPatches options (as.map Amendment.patch) s =
      match refusalOf? options as s.findings with
      | some e => .error e
      | none => .ok (changed options as s) := by
  induction as generalizing s with
  | nil => rfl
  | cons a as ih =>
    obtain ⟨here, behind⟩ := List.forall_mem_cons.mp known
    rw [List.map_cons, runPatches, refusalOf?, List.findSome?_cons]
    simp only [Amendment.patch]
    cases refused : a.refusal? options s.findings with
    | some e => rfl
    | none =>
      have rest := ih behind (a.change options s)
      rw [Amendment.findings_change a here] at rest
      exact rest

theorem findings_changed (options : PatchOptions) {as : List Amendment}
    (known : ∀ a ∈ as, a ∈ Amendment.all) (s : Schema) :
    (changed options as s).findings = s.findings := by
  induction as generalizing s with
  | nil => rfl
  | cons a as ih =>
    obtain ⟨here, behind⟩ := List.forall_mem_cons.mp known
    change (changed options as (a.change options s)).findings = _
    rw [ih behind, Amendment.findings_change a here]

/-- The schema after all patches, whether or not they would run. -/
def Schema.amended (options : PatchOptions) (s : Schema) : Schema := changed options Amendment.all s

theorem Schema.findings_amended (options : PatchOptions) (s : Schema) :
    (s.amended options).findings = s.findings :=
  findings_changed options (fun _ mem => mem) s

theorem Schema.patched_eq (options : PatchOptions) (s : Schema) :
    s.patched options =
      match refusalOf? options Amendment.all s.findings with
      | some e => .error e
      | none => .ok (s.amended options) := by
  rw [Schema.patched, patches_eq]
  exact runPatches_eq options (fun _ mem => mem) s

theorem Schema.eq_amended {options : PatchOptions} {s t : Schema}
    (done : s.patched options = .ok t) : t = s.amended options := by
  rw [patched_eq] at done
  split at done
  · cases done
  · exact (Except.ok.inj done).symm

/-- The objects that patches store, in their order. -/
def additions (currencies : List String) : List Object :=
  [currencyUnion currencies, okEnvelope, errorEnvelope, eitherEnvelope]

/-- The names under which patches store objects. -/
def addedNames : List String :=
  [currenciesObject, responseOkObject, responseErrorObject, responseObject]

theorem additions_names (currencies : List String) :
    (additions currencies).map (·.name) = addedNames := rfl

theorem additions_apart (currencies : List String) :
    ((additions currencies).map (·.name)).Nodup := by
  rw [additions_names]
  decide

theorem Amendment.stored (options : PatchOptions) (s : Schema) :
    envelopes.change options (currencies.change options s) =
      { s with objects := storeAll (additions options.currencies) s.objects } := by
  change (((s.upsertObject (currencyUnion options.currencies)).upsertObject okEnvelope).upsertObject
    errorEnvelope).upsertObject eitherEnvelope = _
  rw [Schema.upsertObject_eq, Schema.upsertObject_eq, Schema.upsertObject_eq, Schema.upsertObject_eq]
  rfl

/-- All changes at once. -/
theorem Schema.amended_eq (options : PatchOptions) (s : Schema) :
    s.amended options =
      { s with
        methods := modifyFirst (·.name == menuButtonMethod) Method.givingMenuButton
          (modifyFirst (·.name == iconColorMethod) Method.limitIconColor s.methods)
        objects := modifyFirst (·.name == inputFileObject) Object.asBlob
          (storeAll (additions options.currencies) s.objects) } := by
  change Amendment.returnTypes.change options (Amendment.iconColor.change options
    (Amendment.inputFile.change options
      (Amendment.envelopes.change options (Amendment.currencies.change options s)))) = _
  rw [Amendment.stored]
  rfl

theorem Schema.amended_objects (options : PatchOptions) (s : Schema) :
    (s.amended options).objects =
      modifyFirst (·.name == inputFileObject) Object.asBlob
        (storeAll (additions options.currencies) s.objects) := by
  rw [amended_eq]

theorem Schema.amended_methods (options : PatchOptions) (s : Schema) :
    (s.amended options).methods =
      modifyFirst (·.name == menuButtonMethod) Method.givingMenuButton
        (modifyFirst (·.name == iconColorMethod) Method.limitIconColor s.methods) := by
  rw [amended_eq]

/-- The least that all patches ask for, with further objects behind the uploaded file. -/
def Schema.forum (objects : List Object) : Schema where
  version := ⟨9, 1, 0⟩
  released := ⟨2025, 7, 3⟩
  methods := [
    ⟨iconColorMethod, "", "", [⟨"name", "", true, .plainString⟩,
      ⟨iconColorParameter, "One of 7322096 (0x6FB9F0)", false, .plainInteger⟩],
        .reference "ForumTopic"⟩,
    ⟨menuButtonMethod, "", "", [], .bool (some true)⟩]
  objects := ⟨inputFileObject, "", "", .unknown, none⟩ :: objects

theorem Schema.forum_patched (objects : List Object) (code : String) (codes : List String) :
    (forum objects).patched ⟨code :: codes⟩ = .ok ((forum objects).amended ⟨code :: codes⟩) := by
  have colors : (forum objects).iconColors = .ok [7322096] := by
    change Except.ok (Color.scrape "One of 7322096 (0x6FB9F0)".toList) = _
    rw [show Color.scrape "One of 7322096 (0x6FB9F0)".toList = [7322096] by decide +kernel]
  have findings : (forum objects).findings = ⟨true, .ok [7322096], true⟩ := by
    rw [Schema.findings, colors]
    rfl
  rw [patched_eq, findings]
  rfl

end BotTypings
