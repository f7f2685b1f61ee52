import BotTypings.Proofs.Command.Steps
import BotTypings.Proofs.Patch.Currencies
import BotTypings.Proofs.Schema.Unwritable

/-! Validating and inspecting a description foretell what comes of generating from it. The first two run
the patches with a list of codes of their own; since no list that holds a code changes what the patches
find, only the description decides, as long as everything else that generating needs is in order. -/
namespace BotTypings.Command

open BotTypings.Text

/-- The lines say the reason, each behind a mark or an indentation. -/
def Tells (reason : String) (lines : List String) : Prop :=
  List.Forall₂ (fun piece line => ∃ lead, line = lead ++ piece) (textLines reason) lines

theorem markedLines_tells (mark indent reason : String) :
    Tells reason (markedLines mark indent reason) := by
  have pieces : (pieces '\n' reason.toList).map String.ofList = textLines reason := rfl
  rw [Tells, markedLines, pieces]
  cases cut : textLines reason with
  | nil => exact absurd cut (textLines_ne_nil reason)
  | cons piece others =>
    refine .cons ⟨mark, rfl⟩ ?_
    rw [List.forall₂_map_right_iff, List.forall₂_same]
    exact fun other _ => ⟨indent, rfl⟩

theorem numberedLines_tell (n : Nat) (reasons : List String) :
    ∃ told, List.Forall₂ Tells reasons told ∧ numberedLines n reasons = told.flatten := by
  induction reasons generalizing n with
  | nil => exact ⟨[], .nil, rfl⟩
  | cons reason rest ih =>
    obtain ⟨told, each, lines⟩ := ih (n + 1)
    have own := markedLines_tells (numberMark n) "       " reason
    exact ⟨_ :: told, .cons own each, by rw [numberedLines, lines, List.flatten_cons]⟩

theorem causeLines_tell (reasons : List String) :
    ∃ told, List.Forall₂ Tells reasons told ∧
      causeLines reasons = (if told.isEmpty then [] else ["", "Caused by:"]) ++ told.flatten := by
  cases reasons with
  | nil => exact ⟨[], .nil, rfl⟩
  | cons reason rest =>
    cases rest with
    | nil =>
      have own := markedLines_tells "    " "    " reason
      exact ⟨[_], .cons own .nil, by simp [causeLines]⟩
    | cons next rest =>
      obtain ⟨told, each, lines⟩ := numberedLines_tell 0 (reason :: next :: rest)
      refine ⟨told, each, ?_⟩
      cases each
      rw [← lines]
      rfl

theorem Failure.reasons_ne_nil (f : Failure) : f.reasons ≠ [] := by
  cases f with
  | patch e => cases e <;> simp [reasons, PatchError.reasons]
  | _ => simp [reasons]

/-- What is printed about a failure says all of its reasons, one after the other. -/
theorem Failure.report_tells (f : Failure) :
    ∃ first causes, List.Forall₂ Tells f.reasons (first :: causes) ∧
      f.report = first ++ (if causes.isEmpty then [] else ["", "Caused by:"]) ++ causes.flatten := by
  obtain ⟨reason, rest, reasons⟩ := List.exists_cons_of_ne_nil f.reasons_ne_nil
  obtain ⟨causes, each, lines⟩ := causeLines_tell rest
  refine ⟨markedLines "Error: " "" reason, causes, ?_, ?_⟩
  · rw [reasons]
    exact .cons (markedLines_tells _ _ reason) each
  · rw [report, reasons, List.append_assoc, ← lines]

/-- There is no configuration, or there is one that can be read. -/
inductive Configured (t : FileTree) : Config → Prop
  | absent (missing : t.pathExists ⟨Config.fileName⟩ = false) : Configured t .standard
  | valid {text : String} {config : Config} (there : t.pathExists ⟨Config.fileName⟩ = true)
    (read : t.readText ⟨Config.fileName⟩ = .ok text) (valid : Config.ofText text = .ok config) :
    Configured t config

/-- The directory is there or can be made, and then every module can be written into it. -/
def TakesModules (t : FileTree) (directory : Path) : Prop :=
  ∃ made, t.createDirectories directory = (made, .ok ()) ∧
    ∀ module : Module, made.Writable (directory.child module.fileName)

/-- Nothing but the description at the path can keep the modules from being generated. -/
structure Ready (t : FileTree) (path : String) (input output currencies : Option String)
    (config : Config) (codes : List String) : Prop where
  configured : Configured t config
  described : input.getD config.input = path
  listed : ∃ file text, (currencies.orElse fun _ => config.currencies.file) = some file ∧
    t.readText ⟨file⟩ = .ok text ∧ readCurrencies text = .ok codes
  given : codes ≠ []
  directory : TakesModules t ⟨output.getD config.output⟩

theorem Configured.configOf {t : FileTree} {config : Config} (configured : Configured t config) :
    configOf t = .ok config := by
  unfold Command.configOf
  cases configured with
  | absent missing => simp [missing]
  | valid there read valid =>
    simp only [there, read, valid, if_true]
    rfl

/-- What validating says of a description before it tries the patches. -/
def introduction (s : Schema) : List String :=
  ["Valid Bot API schema v" ++ s.version.text ++ " (" ++ s.released.text ++ ")",
    "  Methods: " ++ toString s.methods.length, "  Objects: " ++ toString s.objects.length]

/-- What a description is refused for, and what validating has said by then. -/
inductive Refused (t : FileTree) (path : String) : Failure → List String → Prop
  | unreadable {e : FileError} (read : t.readText ⟨path⟩ = .error e) :
    Refused t path (.reading path e) []
  | unloadable {text : String} {e : LoadError} (read : t.readText ⟨path⟩ = .ok text)
    (load : Schema.load text = .error e) : Refused t path (.schema path e) []
  | unpatchable {text : String} {s : Schema} {e : PatchError} (read : t.readText ⟨path⟩ = .ok text)
    (load : Schema.load text = .ok s) (patch : s.patched sampleOptions = .error e) :
    Refused t path (.patch e) (introduction s)

/-- A description is refused in one way at most. -/
theorem Refused.unique {t : FileTree} {path : String} {f g : Failure} {told said : List String}
    (refused : Refused t path f told) (refusedToo : Refused t path g said) : f = g := by
  cases refused <;> cases refusedToo <;> simp_all

theorem schemaAt_error {t : FileTree} {path : String} {f : Failure}
    (failed : schemaAt t path = .error f) : Refused t path f [] := by
  unfold schemaAt at failed
  split at failed
  · rename_i read
    cases failed
    exact .unreadable read
  · rename_i text read
    cases load : Schema.load text with
    | error e =>
      rw [load] at failed
      cases failed
      exact .unloadable read load
    | ok s =>
      rw [load] at failed
      cases failed

theorem schemaAt_ok {t : FileTree} {path : String} {s : Schema} (loaded : schemaAt t path = .ok s) :
    ∃ text, t.readText ⟨path⟩ = .ok text ∧ Schema.load text = .ok s := by
  unfold schemaAt at loaded
  split at loaded
  · cases loaded
  · rename_i text read
    exact ⟨text, read, mapError_eq_ok.mp loaded⟩

section

variable {path : String} {s : Schema} {w : World}

theorem perform_unloaded {f : Failure} (failed : schemaAt w.tree path = .error f) :
    perform (readSchema World.host path) w = (.error f, w) := by
  rw [perform_readSchema, failed]

theorem perform_loaded (loaded : schemaAt w.tree path = .ok s) :
    perform (readSchema World.host path) w = (.ok s, w) := by
  rw [perform_readSchema, loaded]

theorem perform_validate_unloaded {f : Failure} (failed : schemaAt w.tree path = .error f) :
    perform (runValidate World.host path) w = (.error f, w) :=
  perform_bind_error (perform_unloaded failed)

theorem perform_validate (loaded : schemaAt w.tree path = .ok s) :
    perform (runValidate World.host path) w =
      match s.patched sampleOptions with
      | .error e => (.error (.patch e), w.noting (introduction s))
      | .ok t => (.ok (), w.noting (introduction s ++
          ["  Objects after patches: " ++ toString t.objects.length, "Validation successful."])) := by
  unfold runValidate
  rw [perform_bind_ok (perform_loaded loaded), perform_bind_ok (perform_note _ _),
    perform_bind_ok (perform_note _ _), perform_bind_ok (perform_note _ _), ← World.noting_append,
    ← World.noting_append]
  cases patched : s.patched sampleOptions with
  | error e => rfl
  | ok t =>
    rw [perform_bind_ok (perform_given_ok rfl _ _), perform_bind_ok (perform_note _ _), perform_note,
      ← World.noting_append, ← World.noting_append]
    rfl

theorem perform_inspect_unloaded {f : Failure} (failed : schemaAt w.tree path = .error f)
    (format : SummaryFormat) : perform (runInspect World.host path format) w = (.error f, w) :=
  perform_bind_error (perform_unloaded failed)

theorem perform_inspect (loaded : schemaAt w.tree path = .ok s) (format : SummaryFormat) :
    perform (runInspect World.host path format) w =
      match s.patched sampleOptions with
      | .error e => (.error (.patch e), w)
      | .ok t => (.ok (), { w with output := w.output ++ t.summaryText format }) := by
  unfold runInspect
  rw [perform_bind_ok (perform_loaded loaded)]
  cases s.patched sampleOptions <;> rfl

variable {input output currencies : Option String} {config : Config} {codes : List String}

theorem Ready.readConfig (ready : Ready w.tree path input output currencies config codes) :
    perform (readConfig World.host) w = (.ok config, w) := by
  rw [perform_readConfig, ready.configured.configOf]

theorem Ready.readCodes (ready : Ready w.tree path input output currencies config codes) :
    perform (readCodes World.host currencies config.currencies) w = (.ok codes, w) := by
  obtain ⟨file, text, located, read, listed⟩ := ready.listed
  rw [perform_readCodes located]
  simp only [codesAt, read, listed]
  rfl

theorem perform_generate_unloaded
    (ready : Ready w.tree path input output currencies config codes) {f : Failure}
    (failed : schemaAt w.tree path = .error f) (noFormat : Bool) :
    perform (runGenerate World.host input output currencies noFormat) w = (.error f, w) := by
  unfold runGenerate
  rw [perform_bind_ok ready.readConfig, ready.described]
  exact perform_bind_error (perform_unloaded failed)

theorem perform_generate_refused
    (ready : Ready w.tree path input output currencies config codes)
    (loaded : schemaAt w.tree path = .ok s) {e : PatchError}
    (refused : s.patched ⟨codes⟩ = .error e) (noFormat : Bool) :
    perform (runGenerate World.host input output currencies noFormat) w = (.error (.patch e), w) := by
  unfold runGenerate
  rw [perform_bind_ok ready.readConfig, ready.described, perform_bind_ok (perform_loaded loaded),
    perform_bind_ok ready.readCodes]
  exact perform_bind_error (perform_given_error refused .patch w)

theorem perform_formatFiles (directory : Path) (w : World) :
    ∃ w', perform (formatFiles World.host directory) w = (.ok (), w') := by
  unfold formatFiles
  have asked : perform (liftM (World.host.format directory)) w =
      (.ok (World.host.format directory w).1, w) := rfl
  rw [perform_bind_ok asked]
  cases (World.host.format directory w).1 <;> exact ⟨_, perform_note _ _⟩

theorem perform_generate_done
    (ready : Ready w.tree path input output currencies config codes)
    (loaded : schemaAt w.tree path = .ok s) {t : Schema}
    (patched : s.patched ⟨codes⟩ = .ok t) (noFormat : Bool) :
    ∃ w', perform (runGenerate World.host input output currencies noFormat) w = (.ok (), w') := by
  unfold runGenerate
  rw [perform_bind_ok ready.readConfig, ready.described, perform_bind_ok (perform_loaded loaded),
    perform_bind_ok ready.readCodes, perform_bind_ok (perform_given_ok patched .patch w),
    perform_bind_ok (perform_note _ _)]
  obtain ⟨made, created, writable⟩ := ready.directory
  let w := w.noting
    ["Generating Bot API v" ++ t.version.text ++ " types → " ++ output.getD config.output]
  have now : perform (liftM World.host.now) w = (.ok w.time, w) := rfl
  have create := perform_createDirectories (w := w) created
    (.outputDirectory (output.getD config.output))
  have each : ∀ file ∈ generate t (some w.time),
      made.Writable ((⟨output.getD config.output⟩ : Path).child file.path) := by
    intro file mem
    obtain ⟨module, _, rfl⟩ := List.mem_map.mp mem
    exact writable module
  obtain ⟨w', wrote⟩ := perform_writeFiles (w := { w with tree := made })
    (FileTree.hasDirectory_of_created created) each
  rw [perform_bind_ok now, perform_bind_ok create, perform_bind_ok wrote]
  cases config.format && !noFormat with
  | false => exact ⟨_, perform_note _ _⟩
  | true =>
    obtain ⟨w'', formatted⟩ := perform_formatFiles ⟨output.getD config.output⟩ w'
    exact ⟨_, (perform_bind_ok formatted).trans (perform_note _ _)⟩

end

/-- The same exit codes, and the same report of what is wrong with the description. -/
structure Agree (w : World) (path : String) (validated inspected generated : UInt32 × World) :
    Prop where
  inspects : validated.1 = 0 ↔ inspected.1 = 0
  generates : inspected.1 = 0 ↔ generated.1 = 0
  reports : validated.1 ≠ 0 → ∃ failure told, Refused w.tree path failure told ∧
    validated = (1, w.noting (told ++ failure.report)) ∧
    inspected = (1, w.noting failure.report) ∧ generated = (1, w.noting failure.report)

theorem Agree.success {w : World} {path : String} {validated inspected generated : UInt32 × World}
    (validates : validated.1 = 0) (inspects : inspected.1 = 0) (generates : generated.1 = 0) :
    Agree w path validated inspected generated := by
  refine ⟨by simp [validates, inspects], by simp [inspects, generates], ?_⟩
  exact fun failed => absurd validates failed

theorem Agree.failure {w : World} {path : String} {failure : Failure} {told : List String}
    (refused : Refused w.tree path failure told) :
    Agree w path (1, w.noting (told ++ failure.report)) (1, w.noting failure.report)
      (1, w.noting failure.report) :=
  ⟨by simp, by simp, fun _ => ⟨failure, told, refused, rfl, rfl, rfl⟩⟩

/-- Which codes the currencies are does not matter to what the patches do elsewhere. So validating,
inspecting and generating come to the same verdict on every description, as long as nothing else is in
the way of generating. -/
theorem verdicts_agree :
    (∀ (s : Schema) (first second : List String), first ≠ [] → second ≠ [] →
      AgreeButCurrencies (s.patched ⟨first⟩) (s.patched ⟨second⟩)) ∧
    ∀ (w : World) (path : String) (format : SummaryFormat)
      (input output currencies : Option String) (noFormat : Bool)
      (validateLine inspectLine generateLine : List String) (config : Config) (codes : List String),
      Request.ofArguments validateLine = some (.validate path) →
      Request.ofArguments inspectLine = some (.inspect path format) →
      Request.ofArguments generateLine = some (.generate input output currencies noFormat) →
      Ready w.tree path input output currencies config codes →
      Agree w path (run World.host validateLine w) (run World.host inspectLine w)
        (run World.host generateLine w) := by
  refine ⟨fun s first second given givenToo => s.patched_agree given givenToo, ?_⟩
  intro w path format input output currencies noFormat validateLine inspectLine generateLine config
    codes validate inspect generate ready
  cases loaded : schemaAt w.tree path with
  | error f =>
    rw [run_error validate (perform_validate_unloaded loaded),
      run_error inspect (perform_inspect_unloaded loaded format),
      run_error generate (perform_generate_unloaded ready loaded noFormat)]
    exact .failure (schemaAt_error loaded)
  | ok s =>
    obtain ⟨text, read, load⟩ := schemaAt_ok loaded
    have validated := perform_validate loaded
    have inspected := perform_inspect loaded format
    -- Generating patches with other codes than the two other commands.
    have agree : AgreeButCurrencies (s.patched sampleOptions) (s.patched ⟨codes⟩) :=
      s.patched_agree (List.cons_ne_nil starsCurrency []) ready.given
    cases sample : s.patched sampleOptions with
    | error e =>
      rw [sample] at validated inspected agree
      have generated := perform_generate_refused ready loaded agree.error noFormat
      rw [run_error validate validated, run_error inspect inspected, run_error generate generated,
        ← World.noting_append]
      exact .failure (.unpatchable read load sample)
    | ok t =>
      rw [sample] at validated inspected agree
      obtain ⟨u, patched⟩ := agree.ok
      obtain ⟨w', generated⟩ := perform_generate_done ready loaded patched noFormat
      rw [run_ok validate validated, run_ok inspect inspected, run_ok generate generated]
      exact .success rfl rfl rfl

/-- A working directory that holds a description and a list of codes. -/
def deskTree (description : String) : FileTree :=
  { FileTree.empty with
    entries := FileTree.empty.entries ++
      [(["tmp", "work", "bot-api.json"], .file description.toUTF8.data),
       (["tmp", "work", "codes.json"], .file "[\"EUR\"]".toUTF8.data)] }

theorem deskTree_ready (description : String) :
    Ready (deskTree description) "bot-api.json" none none (some "codes.json") .standard ["EUR"] where
  configured := .absent rfl
  described := rfl
  listed := by
    have read : (deskTree description).readText ⟨"codes.json"⟩ = .ok "[\"EUR\"]" :=
      FileTree.readText_file (l := ["tmp", "work", "codes.json"]) rfl rfl rfl
    exact ⟨"codes.json", _, rfl, read, by decide +kernel⟩
  given := by simp
  directory := by
    let made := (deskTree description).set ["tmp", "work", "out"] .directory
    refine ⟨made, rfl, fun module => ?_⟩
    apply FileTree.writable_iff.mpr
    refine ⟨["tmp", "work", "out", module.fileName], ?_⟩
    cases module <;> exact ⟨rfl, rfl, nofun⟩

theorem deskTree_readText (description : String) :
    (deskTree description).readText ⟨"bot-api.json"⟩ = .ok description :=
  FileTree.readText_file (l := ["tmp", "work", "bot-api.json"]) rfl rfl rfl

theorem deskTree_schemaAt {description : String} {s : Schema}
    (load : Schema.load description = .ok s) :
    schemaAt (deskTree description) "bot-api.json" = .ok s := by
  unfold schemaAt
  simp only [deskTree_readText, load]
  rfl

/-- A schema that lacks the object which the patches set right. -/
def bareSchema : Schema where
  version := ⟨9, 1, 0⟩
  released := ⟨2025, 7, 3⟩
  methods := []
  objects := []

theorem bareSchema_loaded : ∃ text, Schema.load text = .ok bareSchema := by
  have portable : bareSchema.Portable := by
    constructor
    · decide
    · decide
    · simp [bareSchema, Schema.fieldTypes]
    · simp [bareSchema]
    · simp [FieldType.FloatsBare, bareSchema, Schema.fieldTypes]
    · intro v written
      cases written
      decide
  obtain ⟨v, written⟩ := bareSchema.writable_iff.mpr portable.noExpression
  exact ⟨v.compact, portable.load_compact written⟩

/-- One description that is in order, and one that a patch refuses. -/
theorem verdicts_agree_forum :
    ∃ (description : String) (w : World), w.tree = deskTree description ∧
      Schema.load description = .ok (Schema.forum []) ∧
      Agree w "bot-api.json" (run World.host ["validate", "--input", "bot-api.json"] w)
        (run World.host ["inspect", "-i", "bot-api.json", "--format=json"] w)
        (run World.host ["generate", "--currencies", "codes.json"] w) ∧
      (run World.host ["generate", "--currencies", "codes.json"] w).1 = 0 ∧
      AgreeButCurrencies ((Schema.forum []).patched ⟨["EUR"]⟩)
        ((Schema.forum []).patched ⟨["USD", "EUR"]⟩) ∧
      ∃ (bare : String) (v : World), v.tree = deskTree bare ∧ Schema.load bare = .ok bareSchema ∧
        Agree v "bot-api.json" (run World.host ["validate", "--input", "bot-api.json"] v)
          (run World.host ["inspect", "-i", "bot-api.json", "--format=json"] v)
          (run World.host ["generate", "--currencies", "codes.json"] v) ∧
        run World.host ["generate", "--currencies", "codes.json"] v = (1, v.noting
          ["Error: patch `input_file` failed: object not found in schema: InputFile", "",
            "Caused by:", "    object not found in schema: InputFile"]) := by
  obtain ⟨description, _, load⟩ := Schema.forum_loaded
  obtain ⟨bare, loadBare⟩ := bareSchema_loaded
  let desk (text : String) := World.start (deskTree text) .unavailable "2025-07-03T00:00:00Z"
  have validate : Request.ofArguments ["validate", "--input", "bot-api.json"] =
      some (.validate "bot-api.json") := by decide
  have agree (text : String) := verdicts_agree.2 (desk text) "bot-api.json" .json none none
    (some "codes.json") false ["validate", "--input", "bot-api.json"]
    ["inspect", "-i", "bot-api.json", "--format=json"] ["generate", "--currencies", "codes.json"]
    .standard ["EUR"] validate (by decide) (by decide) (deskTree_ready text)
  have validates :
      (run World.host ["validate", "--input", "bot-api.json"] (desk description)).1 = 0 := by
    have patched := Schema.forum_patched [] starsCurrency []
    have done := perform_validate (w := desk description) (deskTree_schemaAt load)
    rw [sampleOptions, patched] at done
    rw [run_ok validate done]
  have refused : bareSchema.patched sampleOptions =
      .error (.step "input_file" (.missingObject "InputFile")) := by decide +kernel
  refine ⟨description, desk description, rfl, load, agree description, ?_, ?_,
    bare, desk bare, rfl, loadBare, agree bare, ?_⟩
  · exact (agree description).generates.mp ((agree description).inspects.mp validates)
  · exact verdicts_agree.1 (Schema.forum []) ["EUR"] ["USD", "EUR"] (by simp) (by simp)
  · have failed : (run World.host ["validate", "--input", "bot-api.json"] (desk bare)).1 ≠ 0 := by
      have done := perform_validate (w := desk bare) (deskTree_schemaAt loadBare)
      rw [refused] at done
      rw [run_error validate done]
      exact (by decide : (1 : UInt32) ≠ 0)
    obtain ⟨failure, told, given, _, _, generated⟩ := (agree bare).reports failed
    have own : failure = .patch (.step "input_file" (.missingObject "InputFile")) :=
      given.unique (.unpatchable (deskTree_readText bare) loadBare refused)
    rw [generated, own]
    rfl

end BotTypings.Command
