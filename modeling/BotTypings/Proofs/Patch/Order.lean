import BotTypings.Proofs.Patch.Edits
import BotTypings.Proofs.Patch.Outcome

/-! The patches in another order. What they ask for is decided by the schema at the start, so a run
succeeds in every order or in none; and they are edits of different names, so all that the order can
change is how the appended objects follow one another. -/
namespace BotTypings

/-- A patch with the edits that it is made of. -/
structure PatchEdits where
  amendment : Amendment
  methods : List (Edit Method.name)
  objects : List (Edit Object.name)

def patchEdits (options : PatchOptions) : List PatchEdits :=
  [⟨.currencies, [], [.store (currencyUnion options.currencies)]⟩,
   ⟨.envelopes, [], [.store okEnvelope, .store errorEnvelope, .store eitherEnvelope]⟩,
   ⟨.inputFile, [], [.change inputFileObject Object.asBlob Object.asBlob_name]⟩,
   ⟨.iconColor, [.change iconColorMethod Method.limitIconColor Method.limitIconColor_name], []⟩,
   ⟨.returnTypes, [.change menuButtonMethod Method.givingMenuButton Method.givingMenuButton_name], []⟩]

theorem patchEdits_amendments (options : PatchOptions) :
    (patchEdits options).map (·.amendment) = Amendment.all := rfl

section

variable {options : PatchOptions}

theorem PatchEdits.change_eq {q : PatchEdits} (mem : q ∈ patchEdits options) (s : Schema) :
    q.amendment.change options s =
      { s with methods := runEdits q.methods s.methods
               objects := runEdits q.objects s.objects } := by
  simp only [patchEdits, List.mem_cons, List.not_mem_nil, or_false] at mem
  rcases mem with rfl | rfl | rfl | rfl | rfl
  · change s.upsertObject (currencyUnion options.currencies) = _
    rw [Schema.upsertObject_eq, ← Edit.store_run]
    rfl
  · change ((s.upsertObject okEnvelope).upsertObject errorEnvelope).upsertObject eitherEnvelope = _
    simp only [Schema.upsertObject_eq, ← Edit.store_run]
    rfl
  · change s.modifyObject inputFileObject Object.asBlob = _
    rw [Schema.modifyObject, ← Edit.change_run inputFileObject Object.asBlob Object.asBlob_name]
    rfl
  · change s.modifyMethod iconColorMethod Method.limitIconColor = _
    rw [Schema.modifyMethod,
      ← Edit.change_run iconColorMethod Method.limitIconColor Method.limitIconColor_name]
    rfl
  · change s.modifyMethod menuButtonMethod Method.givingMenuButton = _
    rw [Schema.modifyMethod,
      ← Edit.change_run menuButtonMethod Method.givingMenuButton Method.givingMenuButton_name]
    rfl

theorem changed_eq_edits {qs : List PatchEdits} (known : ∀ q ∈ qs, q ∈ patchEdits options)
    (s : Schema) :
    changed options (qs.map (·.amendment)) s =
      { s with methods := runEdits (qs.flatMap (·.methods)) s.methods
               objects := runEdits (qs.flatMap (·.objects)) s.objects } := by
  induction qs generalizing s with
  | nil => rfl
  | cons q qs ih =>
    obtain ⟨here, behind⟩ := List.forall_mem_cons.mp known
    change changed options (qs.map (·.amendment)) (q.amendment.change options s) = _
    rw [ih behind, PatchEdits.change_eq here, List.flatMap_cons, List.flatMap_cons,
      runEdits_append, runEdits_append]

theorem methodEdits_apart : (((patchEdits options).flatMap (·.methods)).map (·.name)).Nodup :=
  (by decide : [iconColorMethod, menuButtonMethod].Nodup)

theorem objectEdits_apart : (((patchEdits options).flatMap (·.objects)).map (·.name)).Nodup :=
  (by decide : [currenciesObject, responseOkObject, responseErrorObject, responseObject,
    inputFileObject].Nodup)

theorem methodEdits_absent : ∀ e ∈ (patchEdits options).flatMap (·.methods), e.absent = none := by
  simp [patchEdits, Edit.change]

/-- Two outcomes for a schema of so many objects, the same but for the order of appended objects. -/
structure Schema.SameButAppended (n : Nat) (t u : Schema) : Prop where
  version : t.version = u.version
  released : t.released = u.released
  methods : t.methods = u.methods
  original : ∀ i < n, t.objects[i]? = u.objects[i]?
  appended : (t.objects.drop n).Perm (u.objects.drop n)
  lookup : ∀ name, t.object? name = u.object? name

/-- Another order of a mapped list is the map of another order. -/
theorem exists_map_of_perm {α β : Type} {f : α → β} {xs : List α} {ys : List β}
    (order : ys.Perm (xs.map f)) : ∃ zs : List α, zs.Perm xs ∧ ys = zs.map f := by
  have listed := List.mem_permutations.mpr order
  rw [← List.map_permutations] at listed
  obtain ⟨zs, permuted, rfl⟩ := List.mem_map.mp listed
  exact ⟨zs, List.mem_permutations.mp permuted, rfl⟩

theorem changed_perm {as : List Amendment} (order : as.Perm Amendment.all) (s : Schema) :
    (changed options as s).SameButAppended s.objects.length (s.amended options) := by
  rw [← patchEdits_amendments options] at order
  -- The edits come along with the patches that they belong to.
  obtain ⟨qs, ordered, rfl⟩ := exists_map_of_perm order
  have first := changed_eq_edits (fun q mem => ordered.subset mem) s
  have second : s.amended options = _ := changed_eq_edits (fun q mem => mem) s
  have methodOrder := ordered.flatMap_right (·.methods)
  have objectOrder := ordered.flatMap_right (·.objects)
  have methods := runEdits_perm_eq methodEdits_apart methodOrder.symm methodEdits_absent s.methods
  have objects := runEdits_perm objectEdits_apart objectOrder.symm s.objects
  rw [first, second]
  constructor
  · rfl
  · rfl
  · exact methods.symm
  · intro i inside
    have kept := congrArg (·[i]?) objects.kept
    rw [List.getElem?_take_of_lt inside, List.getElem?_take_of_lt inside] at kept
    exact kept.symm
  · exact objects.added.symm
  · exact fun name => (objects.find? name).symm

theorem refusalOf?_eq_none_iff {as : List Amendment} {found : Findings} :
    refusalOf? options as found = none ↔ ∀ a ∈ as, a.refusal? options found = none := by
  simp [refusalOf?, List.findSome?_eq_none_iff]

theorem eq_changed {as : List Amendment} (known : ∀ a ∈ as, a ∈ Amendment.all) {s t : Schema}
    (done : runPatches options (as.map Amendment.patch) s = .ok t) : t = changed options as s := by
  rw [runPatches_eq options known] at done
  split at done
  · cases done
  · exact (Except.ok.inj done).symm

theorem exists_runPatches_eq_ok_iff {as : List Amendment} (known : ∀ a ∈ as, a ∈ Amendment.all)
    (s : Schema) :
    (∃ t, runPatches options (as.map Amendment.patch) s = .ok t) ↔
      ∀ a ∈ as, a.refusal? options s.findings = none := by
  rw [runPatches_eq options known, ← refusalOf?_eq_none_iff]
  cases refusalOf? options as s.findings <;> simp

/-- The patches in any order succeed on the same schemas, and leave the same behind but for the order
of the objects that they append. -/
theorem Schema.patched_perm {ps : List Patch} (order : ps.Perm patches) (options : PatchOptions)
    (s : Schema) :
    ((∃ t, runPatches options ps s = .ok t) ↔ ∃ u, s.patched options = .ok u) ∧
      ∀ t u, runPatches options ps s = .ok t → s.patched options = .ok u →
        t.SameButAppended s.objects.length u := by
  rw [patches_eq] at order
  obtain ⟨as, ordered, rfl⟩ := exists_map_of_perm order
  have known : ∀ a ∈ as, a ∈ Amendment.all := fun a mem => ordered.subset mem
  constructor
  · rw [Schema.patched, patches_eq, exists_runPatches_eq_ok_iff known,
      exists_runPatches_eq_ok_iff fun _ mem => mem]
    simp only [ordered.mem_iff]
  · intro t u done standard
    rw [eq_changed known done, eq_amended standard]
    exact changed_perm ordered s

end

/-- All patches from the last to the first, on a schema that holds two namesakes of an envelope. -/
theorem Schema.forum_perm :
    ∃ s t u : Schema,
      runPatches ⟨["EUR"]⟩ patches.reverse s = .ok t ∧ s.patched ⟨["EUR"]⟩ = .ok u ∧
      t.SameButAppended s.objects.length u ∧
      t.objects.map (·.name) =
        ["InputFile", "APIResponse", "APIResponse", "APIResponseOk", "APIResponseError",
          "Currencies"] ∧
      u.objects.map (·.name) =
        ["InputFile", "APIResponse", "APIResponse", "Currencies", "APIResponseOk",
          "APIResponseError"] := by
  let namesake : Object := ⟨responseObject, "", "", .unknown, none⟩
  have known : ∀ a ∈ Amendment.all.reverse, a ∈ Amendment.all := fun a => List.mem_reverse.mp
  have standard := forum_patched [namesake, namesake] "EUR" []
  have same := patched_perm (List.reverse_perm patches) ⟨["EUR"]⟩ (forum [namesake, namesake])
  obtain ⟨t, reversed⟩ := same.1.mpr ⟨_, standard⟩
  refine ⟨_, t, _, reversed, standard, same.2 t _ reversed standard, ?_, rfl⟩
  rw [patches_eq, ← List.map_reverse] at reversed
  rw [eq_changed known reversed]
  rfl

end BotTypings
