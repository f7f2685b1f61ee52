import BotTypings.Proofs.Patch.Colors
import BotTypings.Proofs.Patch.Outcome

/-! When a run of the patches fails, and with which error. The conditions are those of the schema that
the run is given, one after the other in the order of the patches; an earlier change never makes or
meets a later one. -/
namespace BotTypings

/-- The description of the icon colour shows a colour. A name stands for the first entry that bears
it. -/
structure Schema.ShowsColor (s : Schema) (m : Method) (p : Property) (n : Nat) : Prop where
  method : s.method? "createForumTopic" = some m
  parameter : m.parameter? "icon_color" = some p
  shown : Color.Shown p.description.toList n

/-- The schema and the options are refused with the error. -/
inductive Schema.Refuses (options : PatchOptions) (s : Schema) : PatchError → Prop
  | noCurrencies (none : options.currencies = []) :
    Refuses options s (.step "currencies" .noCurrencies)
  | noInputFile (given : options.currencies ≠ []) (missing : "InputFile" ∉ s.objects.map (·.name)) :
    Refuses options s (.step "input_file" (.missingObject "InputFile"))
  | noColorMethod (given : options.currencies ≠ []) (file : "InputFile" ∈ s.objects.map (·.name))
    (missing : "createForumTopic" ∉ s.methods.map (·.name)) :
    Refuses options s (.step "icon_color" (.missingMethod "createForumTopic"))
  | noColorParameter (given : options.currencies ≠ []) (file : "InputFile" ∈ s.objects.map (·.name))
    {m : Method} (method : s.method? "createForumTopic" = some m)
    (missing : "icon_color" ∉ m.parameters.map (·.name)) :
    Refuses options s (.step "icon_color" (.missingParameter "createForumTopic" "icon_color"))
  | noColor (given : options.currencies ≠ []) (file : "InputFile" ∈ s.objects.map (·.name))
    {m : Method} (method : s.method? "createForumTopic" = some m)
    {p : Property} (parameter : m.parameter? "icon_color" = some p)
    (missing : ∀ n, ¬ Color.Shown p.description.toList n) :
    Refuses options s
      (.step "icon_color" (.patternNotFound "createForumTopic.icon_color" Color.pattern))
  | noMenuButton (given : options.currencies ≠ []) (file : "InputFile" ∈ s.objects.map (·.name))
    {m : Method} {p : Property} {n : Nat} (colors : s.ShowsColor m p n)
    (missing : "getChatMenuButton" ∉ s.methods.map (·.name)) :
    Refuses options s (.step "return_types" (.missingMethod "getChatMenuButton"))

/-- The schema and the options have all that the patches ask for. -/
structure Schema.Meets (options : PatchOptions) (s : Schema) : Prop where
  given : options.currencies ≠ []
  file : "InputFile" ∈ s.objects.map (·.name)
  colors : ∃ m p n, s.ShowsColor m p n
  menuButton : "getChatMenuButton" ∈ s.methods.map (·.name)

section

variable {options : PatchOptions} {s : Schema}

theorem Schema.findings_inputFile :
    s.findings.inputFile = true ↔ "InputFile" ∈ s.objects.map (·.name) :=
  find?_isSome_iff_names

theorem Schema.findings_menuButton :
    s.findings.menuButton = true ↔ "getChatMenuButton" ∈ s.methods.map (·.name) :=
  find?_isSome_iff_names

theorem Schema.iconColors_of_parameter {m : Method} {p : Property}
    (method : s.method? "createForumTopic" = some m)
    (parameter : m.parameter? "icon_color" = some p) :
    s.iconColors = .ok (Color.scrape p.description.toList) := by
  simp only [iconColors, iconColorMethod, method, iconColorParameter, parameter]

theorem Schema.ShowsColor.iconColors {m : Method} {p : Property} {n : Nat}
    (colors : s.ShowsColor m p n) :
    ∃ color others, s.findings.iconColors = .ok (color :: others) := by
  have listed := Schema.iconColors_of_parameter colors.method colors.parameter
  cases scraped : Color.scrape p.description.toList with
  | nil => exact absurd colors.shown (Color.scrape_eq_nil_iff.mp scraped n)
  | cons color others =>
    rw [scraped] at listed
    exact ⟨color, others, listed⟩

/-- The refusals of the five patches in their order. -/
theorem refusalOf?_all (found : Findings) :
    refusalOf? options Amendment.all found =
      if options.currencies = [] then some (.step "currencies" .noCurrencies)
      else if found.inputFile = false then
        some (.step "input_file" (.missingObject "InputFile"))
      else match found.iconColors with
        | .error e => some (.step "icon_color" e)
        | .ok [] =>
          some (.step "icon_color" (.patternNotFound "createForumTopic.icon_color" Color.pattern))
        | .ok (_ :: _) =>
          if found.menuButton then none
          else some (.step "return_types" (.missingMethod "getChatMenuButton")) := by
  simp only [refusalOf?, Amendment.all, List.findSome?_cons, List.findSome?_nil,
    Amendment.currencies, Amendment.envelopes, Amendment.inputFile, Amendment.iconColor,
    Amendment.returnTypes]
  by_cases none : options.currencies = []
  · simp [none]
  · cases found.inputFile with
    | false => simp [none, inputFileObject]
    | true =>
      cases found.iconColors with
      | error e => simp [none]
      | ok colors =>
        cases colors with
        | nil => simp [none]; decide
        | cons => cases found.menuButton <;> simp [none, menuButtonMethod]

theorem Schema.patched_eq_error {e : PatchError}
    (refused : refusalOf? options Amendment.all s.findings = some e) :
    s.patched options = .error e := by
  rw [patched_eq, refused]

theorem Schema.Refuses.patched {e : PatchError} (refused : s.Refuses options e) :
    s.patched options = .error e := by
  apply Schema.patched_eq_error
  rw [refusalOf?_all]
  cases refused with
  | noCurrencies none => rw [if_pos none]
  | noInputFile given missing =>
    have absent := Bool.eq_false_iff.mpr fun found => missing (Schema.findings_inputFile.mp found)
    rw [if_neg given, if_pos absent]
  | noColorMethod given file missing =>
    have found : s.findings.iconColors = .error (.missingMethod "createForumTopic") := by
      have none : s.method? "createForumTopic" = none := find?_eq_none_iff_names.mpr missing
      simp only [Schema.findings, Schema.iconColors, iconColorMethod, none]
    simp [given, Schema.findings_inputFile.mpr file, found]
  | noColorParameter given file method missing =>
    have found : s.findings.iconColors =
        .error (.missingParameter "createForumTopic" "icon_color") := by
      have none := find?_eq_none_iff_names.mpr missing
      simp only [Schema.findings, Schema.iconColors, iconColorMethod, method, Method.parameter?,
        iconColorParameter, none]
    simp [given, Schema.findings_inputFile.mpr file, found]
  | noColor given file method parameter missing =>
    have found : s.findings.iconColors = .ok [] := by
      have listed := Schema.iconColors_of_parameter method parameter
      rw [Color.scrape_eq_nil_iff.mpr missing] at listed
      exact listed
    simp [given, Schema.findings_inputFile.mpr file, found]
  | noMenuButton given file colors missing =>
    obtain ⟨color, others, found⟩ := colors.iconColors
    have absent := Bool.eq_false_iff.mpr fun there => missing (Schema.findings_menuButton.mp there)
    simp [given, Schema.findings_inputFile.mpr file, found, absent]

theorem Schema.Meets.patched (met : s.Meets options) : ∃ t, s.patched options = .ok t := by
  obtain ⟨m, p, n, shows⟩ := met.colors
  obtain ⟨color, others, found⟩ := shows.iconColors
  refine ⟨s.amended options, ?_⟩
  rw [patched_eq, refusalOf?_all]
  simp [met.given, Schema.findings_inputFile.mpr met.file, found,
    Schema.findings_menuButton.mpr met.menuButton]

/-- The conditions leave nothing out: they are asked one after the other. -/
theorem Schema.refuses_or_meets (options : PatchOptions) (s : Schema) :
    (∃ e, s.Refuses options e) ∨ s.Meets options := by
  by_cases given : options.currencies = []
  · exact .inl ⟨_, .noCurrencies given⟩
  by_cases file : "InputFile" ∈ s.objects.map (·.name)
  swap
  · exact .inl ⟨_, .noInputFile given file⟩
  cases method : s.method? "createForumTopic" with
  | none => exact .inl ⟨_, .noColorMethod given file (find?_eq_none_iff_names.mp method)⟩
  | some m =>
    cases parameter : m.parameter? "icon_color" with
    | none =>
      exact .inl ⟨_, .noColorParameter given file method (find?_eq_none_iff_names.mp parameter)⟩
    | some p =>
      by_cases shown : ∃ n, Color.Shown p.description.toList n
      swap
      · exact .inl ⟨_, .noColor given file method parameter (not_exists.mp shown)⟩
      obtain ⟨n, shown⟩ := shown
      by_cases menuButton : "getChatMenuButton" ∈ s.methods.map (·.name)
      · exact .inr ⟨given, file, ⟨m, p, n, method, parameter, shown⟩, menuButton⟩
      · exact .inl ⟨_, .noMenuButton given file ⟨method, parameter, shown⟩ menuButton⟩

theorem Schema.refuses_of_patched {e : PatchError} (result : s.patched options = .error e) :
    s.Refuses options e := by
  rcases s.refuses_or_meets options with ⟨e', refused⟩ | met
  · have same := refused.patched.symm.trans result
    exact Except.error.inj same ▸ refused
  · obtain ⟨t, done⟩ := met.patched
    cases done.symm.trans result

theorem Schema.meets_of_patched {t : Schema} (done : s.patched options = .ok t) :
    s.Meets options := by
  rcases s.refuses_or_meets options with ⟨e, refused⟩ | met
  · cases refused.patched.symm.trans done
  · exact met

/-- An error of a run names a patch of it, and behind it is what that patch itself says. -/
theorem Schema.Refuses.step {e : PatchError} (refused : s.Refuses options e) :
    ∃ patch ∈ patches.map (·.name), ∃ source, e = .step patch source ∧
      ∀ inner cause, source ≠ .step inner cause := by
  cases refused with
  | noCurrencies => exact ⟨"currencies", by decide, .noCurrencies, rfl, nofun⟩
  | noInputFile => exact ⟨"input_file", by decide, .missingObject _, rfl, nofun⟩
  | noColorMethod => exact ⟨"icon_color", by decide, .missingMethod _, rfl, nofun⟩
  | noColorParameter => exact ⟨"icon_color", by decide, .missingParameter _ _, rfl, nofun⟩
  | noColor => exact ⟨"icon_color", by decide, .patternNotFound _ _, rfl, nofun⟩
  | noMenuButton => exact ⟨"return_types", by decide, .missingMethod _, rfl, nofun⟩

end

/-- Whether a run succeeds, and with which error it fails, is read off the schema that it starts from. -/
theorem Schema.patched_decided (options : PatchOptions) (s : Schema) :
    (∀ e, s.patched options = .error e ↔ s.Refuses options e) ∧
      ((∃ t, s.patched options = .ok t) ↔ s.Meets options) ∧
      ∀ e, s.patched options = .error e →
        ∃ patch ∈ patches.map (·.name), ∃ source, e = .step patch source ∧
          ∀ inner cause, source ≠ .step inner cause := by
  refine ⟨fun e => ⟨refuses_of_patched, Refuses.patched⟩, ⟨?_, Meets.patched⟩, ?_⟩
  · rintro ⟨t, done⟩
    exact meets_of_patched done
  · exact fun e result => (refuses_of_patched result).step

end BotTypings
