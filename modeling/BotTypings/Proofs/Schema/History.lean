import BotTypings.Proofs.Patch.Edits
import BotTypings.Proofs.Patch.Outcome
import BotTypings.Proofs.Schema.Unwritable
import Mathlib.Data.List.Induction
import Mathlib.Data.List.Nodup

/-! A schema under a long history of changes. Whatever is stored, patched and edited, and whichever
patches fail on the way, its objects behave as a map that remembers in which order its names came: no
name comes to stand twice, new names go to the end, and under each name is what was left there last. -/
namespace BotTypings

/-- One thing done to a schema. What is edited keeps its name. -/
inductive Step where
  | store (o : Object)
  | patch (p : Patch) (known : p ∈ patches) (options : PatchOptions)
  | editObject (name : String) (edit : Object → Object) (kept : ∀ o, (edit o).name = o.name)
  | editMethod (name : String) (edit : Method → Method) (kept : ∀ m, (edit m).name = m.name)
  | editParameter (method parameter : String) (edit : Property → Property)

def Step.apply (s : Schema) : Step → Schema
  | store o => s.upsertObject o
  | patch p _ options => (p.call options s).1
  | editObject name edit _ => s.modifyObject name edit
  | editMethod name edit _ => s.modifyMethod name edit
  | editParameter method parameter edit => s.modifyMethod method (Method.modifyParameter parameter edit)

def Schema.after (s : Schema) (steps : List Step) : Schema := steps.foldl Step.apply s

/-- The objects that a patch stores; none where it fails. -/
def Patch.stored (p : Patch) (options : PatchOptions) : List Object :=
  if p.name = addCurrencies.name then
    if options.currencies = [] then [] else [currencyUnion options.currencies]
  else if p.name = addEnvelopes.name then [okEnvelope, errorEnvelope, eitherEnvelope]
  else []

def Step.stored : Step → List Object
  | store o => [o]
  | patch p _ options => p.stored options
  | editObject .. | editMethod .. | editParameter .. => []

/-- The name under which a step looks for an object to edit, with the edit. -/
def Step.edit? : Step → Option (String × (Object → Object))
  | patch p _ _ =>
    if p.name = correctInputFile.name then some (inputFileObject, Object.asBlob) else none
  | editObject name edit _ => some (name, edit)
  | store _ | editMethod .. | editParameter .. => none

/-- The step leaves the object under its name: it stores it, or found one there and edited that. -/
inductive Step.Leaves (s : Schema) (step : Step) : Object → Prop
  | stored {o : Object} (mem : o ∈ step.stored) : Leaves s step o
  | edited {name : String} {edit : Object → Object} {o : Object}
    (edits : step.edit? = some (name, edit)) (found : s.object? name = some o) :
    Leaves s step (edit o)

/-- What was left under a name by the last step that left anything there, or else by the schema. -/
inductive LastLeft (s : Schema) (name : String) : List Step → Option Object → Prop
  | start : LastLeft s name [] (s.object? name)
  | left {steps : List Step} {step : Step} {o : Object} (leaves : step.Leaves (s.after steps) o)
    (named : o.name = name) : LastLeft s name (steps ++ [step]) (some o)
  | kept {steps : List Step} {step : Step} {found : Option Object}
    (earlier : LastLeft s name steps found)
    (other : ∀ o, step.Leaves (s.after steps) o → o.name ≠ name) :
    LastLeft s name (steps ++ [step]) found

/-- A schema and what a history makes of it. -/
structure Schema.Remembers (s : Schema) (steps : List Step) (t : Schema) : Prop where
  apart : (t.objects.map (·.name)).Nodup
  methodNames : t.methods.map (·.name) = s.methods.map (·.name)
  objectNames : t.objects.map (·.name) = s.objects.map (·.name) ++
    (((steps.flatMap Step.stored).map (·.name)).filter (· ∉ s.objects.map (·.name))).eraseDups
  object : ∀ name found, LastLeft s name steps found ↔ t.object? name = found

namespace Step

variable (s : Schema) (step : Step)

theorem edit_keeps_name {name : String} {edit : Object → Object}
    (edits : step.edit? = some (name, edit)) (o : Object) : (edit o).name = o.name := by
  cases step with
  | patch p known options =>
    rw [edit?] at edits
    split at edits
    · cases edits
      rfl
    · cases edits
  | editObject name edit kept =>
    cases edits
    exact kept o
  | store | editMethod | editParameter => cases edits

theorem stored_apart : (step.stored.map (·.name)).Nodup := by
  cases step with
  | store o => exact List.nodup_singleton o.name
  | patch p known options =>
    rw [stored, Patch.stored]
    split
    · split
      · exact .nil
      · exact List.nodup_singleton _
    · split
      · decide
      · exact .nil
  | editObject | editMethod | editParameter => exact .nil

/-- The objects after the one edit that a step may make. -/
def editedObjects : List Object :=
  match step.edit? with
  | some (name, edit) => modifyFirst (·.name == name) edit s.objects
  | none => s.objects

theorem call_amendment (a : Amendment) (options : PatchOptions) :
    (a.patch.call options s).1 =
      match a.refusal? options s.findings with
      | some _ => s
      | none => a.change options s := by
  simp only [Patch.call, Amendment.patch]
  cases a.refusal? options s.findings <;> rfl

theorem patch_objects {p : Patch} (known : p ∈ patches) (options : PatchOptions) :
    (p.call options s).1.objects =
      storeAll (p.stored options) (editedObjects s (.patch p known options)) := by
  have listed := known
  rw [patches_eq] at listed
  obtain ⟨a, mem, rfl⟩ := List.mem_map.mp listed
  rw [call_amendment]
  simp only [Amendment.all, List.mem_cons, List.not_mem_nil, or_false] at mem
  rcases mem with rfl | rfl | rfl | rfl | rfl
  · change _ = storeAll (if options.currencies = [] then [] else _) s.objects
    by_cases none : options.currencies = []
    · simp [Amendment.currencies, none, storeAll]
    · simp [Amendment.currencies, none, storeAll, Schema.upsertObject_eq]
  · change (((s.upsertObject okEnvelope).upsertObject errorEnvelope).upsertObject
      eitherEnvelope).objects = _
    simp only [Schema.upsertObject_eq]
    rfl
  · change _ = modifyFirst (·.name == inputFileObject) Object.asBlob s.objects
    cases found : s.objects.find? (·.name == inputFileObject) with
    | none =>
      rw [modifyFirst_absent found]
      simp [Amendment.inputFile, Schema.findings, Schema.object?, found]
    | some o =>
      simp [Amendment.inputFile, Schema.findings, Schema.object?, found, Schema.modifyObject]
  · change _ = s.objects
    cases Amendment.iconColor.refusal? options s.findings <;> rfl
  · change _ = s.objects
    cases Amendment.returnTypes.refusal? options s.findings <;> rfl

theorem apply_objects :
    (step.apply s).objects = storeAll step.stored (editedObjects s step) := by
  cases step with
  | store o => exact congrArg Schema.objects (s.upsertObject_eq o)
  | patch p known options => exact patch_objects s known options
  | editObject | editMethod | editParameter => rfl

theorem editedObjects_names :
    (editedObjects s step).map (·.name) = s.objects.map (·.name) := by
  rw [editedObjects]
  split
  · rename_i name edit edits
    exact modifyFirst_map _ (step.edit_keeps_name edits) s.objects
  · rfl

theorem apply_objectNames :
    (step.apply s).objects.map (·.name) = s.objects.map (·.name) ++
      (step.stored.map (·.name)).filter (· ∉ s.objects.map (·.name)) := by
  rw [apply_objects, storeAll_names step.stored_apart, editedObjects_names]

theorem change_methodNames {a : Amendment} (mem : a ∈ Amendment.all) (options : PatchOptions) :
    (a.change options s).methods.map (·.name) = s.methods.map (·.name) := by
  simp only [Amendment.all, List.mem_cons, List.not_mem_nil, or_false] at mem
  rcases mem with rfl | rfl | rfl | rfl | rfl
  · exact congrArg (fun t => t.methods.map (·.name)) (s.upsertObject_eq _)
  · change (((s.upsertObject okEnvelope).upsertObject errorEnvelope).upsertObject
      eitherEnvelope).methods.map (·.name) = _
    simp only [Schema.upsertObject_eq]
  · rfl
  · exact modifyFirst_map _ Method.limitIconColor_name s.methods
  · exact modifyFirst_map _ Method.givingMenuButton_name s.methods

theorem apply_apart (apart : (s.objects.map (·.name)).Nodup) :
    ((step.apply s).objects.map (·.name)).Nodup := by
  rw [apply_objectNames, List.nodup_append]
  refine ⟨apart, step.stored_apart.filter _, ?_⟩
  rintro old there _ new rfl
  exact of_decide_eq_true (List.mem_filter.mp new).2 there

theorem apply_methodNames : (step.apply s).methods.map (·.name) = s.methods.map (·.name) := by
  cases step with
  | store o => exact congrArg (fun t => t.methods.map (·.name)) (s.upsertObject_eq o)
  | patch p known options =>
    have listed := known
    rw [patches_eq] at listed
    obtain ⟨a, mem, rfl⟩ := List.mem_map.mp listed
    rw [apply, call_amendment]
    cases a.refusal? options s.findings with
    | some e => rfl
    | none => exact change_methodNames s mem options
  | editObject name edit kept => rfl
  | editMethod name edit kept => exact modifyFirst_map _ kept s.methods
  | editParameter method parameter edit =>
    exact modifyFirst_map (f := Method.modifyParameter parameter edit) _ (fun _ => rfl) s.methods

theorem object?_apply (name : String) :
    (step.apply s).object? name =
      (step.stored.find? (·.name == name)).or ((editedObjects s step).find? (·.name == name)) := by
  rw [Schema.object?, apply_objects, find?_storeAll step.stored_apart]

theorem find?_editedObjects (name : String) :
    (editedObjects s step).find? (·.name == name) =
      match step.edit? with
      | some (edited, edit) =>
        if edited = name then (s.object? name).map edit else s.object? name
      | none => s.object? name := by
  rw [editedObjects]
  split
  · rename_i edited edit edits
    have kept := step.edit_keeps_name edits
    split
    case isTrue same =>
      subst same
      exact find?_modifyFirst_same Object.name edited kept s.objects
    case isFalse other => exact find?_modifyFirst_other Object.name edited name other kept s.objects
  · rfl

/-- A step that edits an object stores none. -/
theorem stored_of_edit {name : String} {edit : Object → Object}
    (edits : step.edit? = some (name, edit)) : step.stored = [] := by
  cases step with
  | patch p known options =>
    rw [edit?] at edits
    split at edits
    · rename_i named
      simp [stored, Patch.stored, named, correctInputFile, addCurrencies, addEnvelopes]
    · cases edits
  | editObject => rfl
  | store | editMethod | editParameter => cases edits

/-- What a step leaves under a name is found there. -/
theorem Leaves.found {s : Schema} {step : Step} {o : Object} (leaves : step.Leaves s o) :
    (step.apply s).object? o.name = some o := by
  rw [object?_apply]
  cases leaves with
  | stored mem =>
    rw [(find?_eq_some_iff_of_nodup step.stored_apart).mpr ⟨mem, rfl⟩]
    rfl
  | @edited name edit old edits found =>
    have oldName : old.name = name := key_of_find? found
    rw [step.stored_of_edit edits, find?_editedObjects, edits, step.edit_keeps_name edits]
    simp only [oldName, found, if_true, List.find?_nil, Option.map_some, Option.none_or]

/-- Under every name a step leaves an object of its own, or what was there. -/
theorem leaves_or_keeps (name : String) :
    (∃ o, step.Leaves s o ∧ o.name = name ∧ (step.apply s).object? name = some o) ∨
      (∀ o, step.Leaves s o → o.name ≠ name) ∧ (step.apply s).object? name = s.object? name := by
  rw [object?_apply]
  cases stored : step.stored.find? (·.name == name) with
  | some o =>
    have named : o.name = name := key_of_find? stored
    exact .inl ⟨o, .stored (List.mem_of_find?_eq_some stored), named, rfl⟩
  | none =>
    rw [Option.none_or, find?_editedObjects]
    have notStored : ∀ o ∈ step.stored, o.name ≠ name := by
      intro o mem same
      exact List.find?_eq_none.mp stored o mem (beq_iff_eq.mpr same)
    -- What is edited was found under the name that the step looks for.
    have leaves : ∀ o, step.Leaves s o → o.name = name →
        ∃ edit old, step.edit? = some (name, edit) ∧ s.object? name = some old := by
      rintro _ (mem | @⟨edited, edit, old, edits, found⟩) named
      · exact absurd named (notStored _ mem)
      · have oldName : old.name = edited := key_of_find? found
        rw [step.edit_keeps_name edits, oldName] at named
        exact ⟨edit, old, named ▸ edits, named ▸ found⟩
    split
    · rename_i edited edit edits
      split
      case isTrue same =>
        subst same
        cases found : s.object? edited with
        | some old =>
          have oldName : old.name = edited := key_of_find? found
          have named := (step.edit_keeps_name edits old).trans oldName
          exact .inl ⟨edit old, .edited edits found, named, rfl⟩
        | none =>
          refine .inr ⟨fun o left named => ?_, rfl⟩
          obtain ⟨_, old, _, there⟩ := leaves o left named
          cases found.symm.trans there
      case isFalse other =>
        refine .inr ⟨fun o left named => ?_, rfl⟩
        obtain ⟨_, _, looks, _⟩ := leaves o left named
        cases edits.symm.trans looks
        exact other rfl
    · rename_i edits
      refine .inr ⟨fun o left named => ?_, rfl⟩
      obtain ⟨_, _, looks, _⟩ := leaves o left named
      cases edits.symm.trans looks

end Step

theorem Schema.after_append (s : Schema) (steps : List Step) (step : Step) :
    s.after (steps ++ [step]) = step.apply (s.after steps) :=
  List.foldl_append

theorem eraseDups_of_nodup {names : List String} (apart : names.Nodup) : names.eraseDups = names := by
  induction names with
  | nil => rfl
  | cons n ns ih =>
    obtain ⟨new, rest⟩ := List.nodup_cons.mp apart
    have others : ns.filter (fun m => !m == n) = ns := by
      rw [List.filter_eq_self]
      intro m mem
      have other : m ≠ n := fun same => new (same ▸ mem)
      simpa using other
    rw [List.eraseDups_cons, others, ih rest]

/-- New names behind the ones that are there, one batch after another. -/
theorem newNames_append {more : List String} (old earlier : List String) (apart : more.Nodup) :
    (old ++ (earlier.filter (· ∉ old)).eraseDups) ++
        more.filter (· ∉ old ++ (earlier.filter (· ∉ old)).eraseDups) =
      old ++ ((earlier ++ more).filter (· ∉ old)).eraseDups := by
  have fresh : more.filter (· ∉ old ++ (earlier.filter (· ∉ old)).eraseDups) =
      (more.filter (· ∉ old)).removeAll (earlier.filter (· ∉ old)) := by
    rw [List.removeAll, List.filter_filter]
    refine List.filter_congr fun n _ => ?_
    by_cases known : n ∈ old <;> simp [known, List.mem_eraseDups]
  have freshApart : ((more.filter (· ∉ old)).removeAll (earlier.filter (· ∉ old))).Nodup :=
    (apart.filter _).filter _
  rw [List.filter_append, List.eraseDups_append, fresh, eraseDups_of_nodup freshApart,
    List.append_assoc]

theorem Schema.after_objectNames (s : Schema) (steps : List Step) :
    (s.after steps).objects.map (·.name) = s.objects.map (·.name) ++
      (((steps.flatMap Step.stored).map (·.name)).filter
        (· ∉ s.objects.map (·.name))).eraseDups := by
  induction steps using List.reverseRecOn with
  | nil => exact (List.append_nil _).symm
  | append_singleton steps step ih =>
    rw [after_append, Step.apply_objectNames, ih, newNames_append _ _ step.stored_apart,
      List.flatMap_append, List.map_append, List.flatMap_singleton]

theorem Schema.after_apart {s : Schema} (apart : (s.objects.map (·.name)).Nodup)
    (steps : List Step) : ((s.after steps).objects.map (·.name)).Nodup := by
  induction steps using List.reverseRecOn with
  | nil => exact apart
  | append_singleton steps step ih =>
    rw [after_append]
    exact step.apply_apart _ ih

theorem Schema.after_methodNames (s : Schema) (steps : List Step) :
    (s.after steps).methods.map (·.name) = s.methods.map (·.name) := by
  induction steps using List.reverseRecOn with
  | nil => rfl
  | append_singleton steps step ih => rw [after_append, Step.apply_methodNames, ih]

theorem Schema.after_object (s : Schema) (steps : List Step) (name : String) :
    LastLeft s name steps ((s.after steps).object? name) := by
  induction steps using List.reverseRecOn with
  | nil => exact .start
  | append_singleton steps step ih =>
    rw [after_append]
    rcases step.leaves_or_keeps (s.after steps) name with ⟨o, leaves, named, found⟩ | ⟨other, same⟩
    · rw [found]
      exact .left leaves named
    · rw [same]
      exact .kept ih other

/-- No two answers: what was left last is what is found. -/
theorem LastLeft.found {s : Schema} {name : String} {steps : List Step} {found : Option Object}
    (last : LastLeft s name steps found) : (s.after steps).object? name = found := by
  induction last with
  | start => rfl
  | left leaves named =>
    rw [Schema.after_append, ← named]
    exact leaves.found
  | @kept steps step _ _ other ih =>
    rw [Schema.after_append, ← ih]
    rcases step.leaves_or_keeps (s.after steps) name with ⟨o, leaves, named, _⟩ | ⟨_, same⟩
    · exact absurd named (other o leaves)
    · exact same

/-- The objects of a loaded schema are a map in order of insertion, through any history. -/
theorem Schema.after_remembers {text : String} {s : Schema} (loaded : Schema.load text = .ok s)
    (steps : List Step) : s.Remembers steps (s.after steps) where
  apart := after_apart (Schema.names_of_load loaded).2 steps
  methodNames := s.after_methodNames steps
  objectNames := s.after_objectNames steps
  object := fun name _ => ⟨LastLeft.found, fun found => found ▸ s.after_object steps name⟩

/-- A history in which one patch fails for want of currencies, a stored object is replaced where it
stands, and objects, a method and a parameter are edited. -/
theorem Schema.forum_remembers :
    ∃ text steps, Schema.load text = .ok (forum []) ∧
      (forum []).Remembers steps ((forum []).after steps) ∧
      ((forum []).after steps).objects.map (·.name) = ["InputFile", "Sticker", "Currencies"] ∧
      LastLeft (forum []) "Sticker" steps (some ⟨"Sticker", "edited", "", .unknown, none⟩) := by
  obtain ⟨text, _, loaded⟩ := forum_loaded
  have known : addCurrencies ∈ patches ∧ correctInputFile ∈ patches := by
    simp [patches]
  let steps : List Step :=
    [.store ⟨"Sticker", "", "", .unknown, none⟩,
      .patch addCurrencies known.1 ⟨[]⟩,
      .patch addCurrencies known.1 ⟨["EUR"]⟩,
      .editMethod iconColorMethod (fun m => { m with description := "" }) fun _ => rfl,
      .editParameter iconColorMethod iconColorParameter fun p => { p with required := false },
      .store ⟨inputFileObject, "", "", .unknown, none⟩,
      .patch correctInputFile known.2 ⟨[]⟩,
      .editObject "Sticker" (fun o => { o with description := "edited" }) fun _ => rfl]
  have remembers := after_remembers loaded steps
  exact ⟨text, steps, loaded, remembers, rfl, (remembers.object _ _).mpr rfl⟩

end BotTypings
