import BotTypings.Proofs.Patch.Outcome

/-! A later run of the patches wins completely. The objects that the earlier run stored are found
under their names and replaced where they stand, the entries it set right are set right again, and
the colours come from a description that no patch touches. -/
namespace BotTypings

theorem Method.limitIconColor_twice (m : Method) :
    m.limitIconColor.limitIconColor = m.limitIconColor := by
  have parameters := modifyFirst_twice Property.name iconColorParameter (g := Property.asListedColor)
    Property.asListedColor_name m.parameters
  exact congrArg (fun ps => { m with parameters := ps }) parameters

/-- Both corrections of methods, made twice. -/
theorem amended_methods_twice (ms : List Method) :
    modifyFirst (·.name == menuButtonMethod) Method.givingMenuButton
      (modifyFirst (·.name == iconColorMethod) Method.limitIconColor
        (modifyFirst (·.name == menuButtonMethod) Method.givingMenuButton
          (modifyFirst (·.name == iconColorMethod) Method.limitIconColor ms))) =
      modifyFirst (·.name == menuButtonMethod) Method.givingMenuButton
        (modifyFirst (·.name == iconColorMethod) Method.limitIconColor ms) := by
  have limited : Method.limitIconColor ∘ Method.limitIconColor = Method.limitIconColor :=
    funext Method.limitIconColor_twice
  have giving : Method.givingMenuButton ∘ Method.givingMenuButton = Method.givingMenuButton := rfl
  rw [modifyFirst_comm Method.name iconColorMethod menuButtonMethod (by decide)
      Method.limitIconColor_name Method.givingMenuButton_name,
    modifyFirst_twice Method.name menuButtonMethod Method.givingMenuButton_name,
    modifyFirst_twice Method.name iconColorMethod Method.limitIconColor_name, limited, giving]

/-- The objects of two runs are those of the second. -/
theorem amended_objects_twice (first second : List String) (os : List Object) :
    modifyFirst (·.name == inputFileObject) Object.asBlob
      (storeAll (additions second) (modifyFirst (·.name == inputFileObject) Object.asBlob
        (storeAll (additions first) os))) =
      modifyFirst (·.name == inputFileObject) Object.asBlob (storeAll (additions second) os) := by
  have other (currencies : List String) :
      inputFileObject ∉ (additions currencies).map (·.name) := by
    rw [additions_names]
    decide
  have same : (additions first).map (·.name) = (additions second).map (·.name) := rfl
  have blob : Object.asBlob ∘ Object.asBlob = Object.asBlob := rfl
  rw [← modifyFirst_storeAll (other second) Object.asBlob_name,
    modifyFirst_twice Object.name inputFileObject Object.asBlob_name, blob,
    storeAll_storeAll same (additions_apart first)]

theorem Schema.amended_amended (first second : PatchOptions) (s : Schema) :
    (s.amended first).amended second = s.amended second := by
  rw [amended_eq, amended_eq, amended_eq]
  simp only [amended_methods_twice, amended_objects_twice]

/-- Once a schema has been patched, patching it again comes to what patching the original comes to:
the same schema, or the same error. -/
theorem Schema.patched_again {s t : Schema} {first : PatchOptions} (done : s.patched first = .ok t)
    (second : PatchOptions) : t.patched second = s.patched second := by
  rw [eq_amended done, patched_eq, patched_eq, findings_amended, amended_amended]

/-- A second run over a schema that bears every name twice. -/
theorem Schema.forum_patched_again :
    ∃ s t : Schema,
      s.objects.map (·.name) = ["InputFile", "Currencies", "InputFile", "Currencies"] ∧
      s.patched ⟨["EUR"]⟩ = .ok t ∧
      t.patched ⟨["USD", "XTR"]⟩ = s.patched ⟨["USD", "XTR"]⟩ ∧
      t.patched ⟨[]⟩ = s.patched ⟨[]⟩ := by
  have done := forum_patched
    [⟨currenciesObject, "", "", .unknown, none⟩, ⟨inputFileObject, "", "", .unknown, none⟩,
      ⟨currenciesObject, "", "", .unknown, none⟩] "EUR" []
  exact ⟨_, _, rfl, done, patched_again done ⟨["USD", "XTR"]⟩, patched_again done ⟨[]⟩⟩

end BotTypings
