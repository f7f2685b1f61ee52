import BotTypings.Proofs.Command.Verdicts
import BotTypings.Proofs.FileTree.Directories

/-! What generating leaves on disk. Whatever stands in the way, every file is as it was but the first
few modules, and these are whole; the exit code tells whether they are all there. A formatter has no
say in either: it runs last, on what was left, and how it ends is not asked for. -/
namespace BotTypings.Command

open FileTree

/-- What a place holds when a text is written to it. -/
def overwritten : Option Entry → String → Entry
  | some .sink, _ => .sink
  | _, text => .file text.toUTF8.data

/-- What differs is that the files are in the directory, and nothing else does. -/
structure Leaves (made : FileTree) (directory : Path) (files : List GeneratedFile)
    (left : FileTree) : Prop where
  working : left.working = made.working
  written : ∀ file ∈ files, ∃ l, left.locate (directory.child file.path) = .ok l ∧
    made.entry? l ≠ some .directory ∧
    left.entry? l = some (overwritten (made.entry? l) file.content)
  others : ∀ l, (∀ file ∈ files, left.locate (directory.child file.path) ≠ .ok l) →
    left.entry? l = made.entry? l

section

variable {made left left' : FileTree} {directory : Path}

theorem leaves_nothing (made : FileTree) (directory : Path) : Leaves made directory [] made :=
  ⟨rfl, nofun, fun _ _ => rfl⟩

/-- A text that is written is all that a place holds, and no other place notices. -/
theorem write_eq_ok {p : Path} {text : String} (written : left.write p text = .ok left') :
    ∃ l, left.locate p = .ok l ∧ left.entry? l ≠ some .directory ∧
      left'.entry? l = some (overwritten (left.entry? l) text) ∧
      ∀ m, m ≠ l → left'.entry? m = left.entry? m := by
  obtain ⟨l, located, _⟩ := bind_eq_ok.mp written
  rw [write_of_located located (plain_of_write written)] at written
  refine ⟨l, located, ?_⟩
  have replaced (free : left.entry? l ≠ some .directory) (e : Entry) :
      entry? (left.set l e) l = some e ∧ ∀ m, m ≠ l → entry? (left.set l e) m = left.entry? m := by
    have inner : l ≠ [] := fun root => free (root ▸ left.entry_root)
    refine ⟨by rw [entry_set inner, if_pos rfl], fun m other => ?_⟩
    rw [entry_set inner, if_neg other]
  cases there : left.entry? l with
  | none =>
    simp only [there] at written
    cases written
    exact ⟨nofun, replaced (by simp [there]) _⟩
  | some e =>
    simp only [there] at written
    cases e with
    | directory => cases written
    | sink =>
      cases written
      exact ⟨nofun, there, fun _ _ => rfl⟩
    | file content =>
      cases written
      exact ⟨nofun, replaced (by simp [there]) _⟩

/-- One more file. -/
theorem Leaves.write {files : List GeneratedFile} (leaves : Leaves made directory files left)
    {file : GeneratedFile} (plain : PlainName file.path) (plains : ∀ f ∈ files, PlainName f.path)
    (new : ∀ f ∈ files, f.path ≠ file.path)
    (written : left.write (directory.child file.path) file.content = .ok left') :
    Leaves made directory (files ++ [file]) left' := by
  have same := sameDirectories_write written
  obtain ⟨here, located, free, holds, elsewhere⟩ := write_eq_ok written
  have apart : ∀ f ∈ files, left.locate (directory.child f.path) ≠ .ok here := by
    intro f mem there
    exact new f mem (locate_child_apart (plains f mem) plain there located)
  have before : left.entry? here = made.entry? here := leaves.others here apart
  refine ⟨same.working.trans leaves.working, fun f mem => ?_, fun l away => ?_⟩
  · rcases List.mem_append.mp mem with earlier | last
    · obtain ⟨l, there, unmade, content⟩ := leaves.written f earlier
      have other : l ≠ here := fun same => apart f earlier (same ▸ there)
      exact ⟨l, same.locate there, unmade, (elsewhere l other).trans content⟩
    · rw [List.mem_singleton.mp last]
      exact ⟨here, same.locate located, before ▸ free, before ▸ holds⟩
  · have other : l ≠ here := by
      intro same'
      exact away file (List.mem_append_right _ List.mem_cons_self) (same' ▸ same.locate located)
    rw [elsewhere l other]
    refine leaves.others l fun f mem there => ?_
    exact away f (List.mem_append_left _ mem) (same.locate there)

/-- Files are written until one of them cannot be. -/
theorem perform_writeFiles_cases {before files : List GeneratedFile} {w : World}
    (settled : w.tree.HasDirectory directory) (leaves : Leaves made directory before w.tree)
    (plains : ∀ f ∈ before ++ files, PlainName f.path)
    (apart : ((before ++ files).map (·.path)).Nodup) :
    (∃ w', perform (writeFiles World.host directory files) w = (.ok (), w') ∧
      Leaves made directory (before ++ files) w'.tree) ∨
    ∃ written file rest e w', files = written ++ file :: rest ∧
      perform (writeFiles World.host directory files) w =
        (.error (.writing (directory.child file.path).text e), w') ∧
      w'.tree.write (directory.child file.path) file.content = .error e ∧
      Leaves made directory (before ++ written) w'.tree := by
  induction files generalizing before w with
  | nil => exact .inl ⟨w, rfl, by rwa [List.append_nil]⟩
  | cons file rest ih =>
    rw [writeFiles]
    cases wrote : w.tree.write (directory.child file.path) file.content with
    | error e =>
      have failed : perform (orFail (.writing (directory.child file.path).text)
          (World.host.write (directory.child file.path) file.content)) w =
          (.error (.writing (directory.child file.path).text e), w) := by
        simp only [perform_orFail, World.host, World.update, wrote]
        rfl
      refine .inr ⟨[], file, rest, e, w, rfl, ?_, wrote, by rwa [List.append_nil]⟩
      rw [perform_bind_ok (perform_settled settled _), perform_bind_error failed]
    | ok next =>
      let told := World.noting { w with tree := next }
        ["  wrote " ++ (directory.child file.path).text]
      have shift : before ++ file :: rest = before ++ [file] ++ rest := by simp
      rw [shift] at plains apart
      have more : Leaves made directory (before ++ [file]) told.tree := by
        refine leaves.write (plains file (by simp)) (fun f mem => plains f (by simp [mem])) ?_ wrote
        intro f mem same
        rw [List.map_append, List.map_append, List.nodup_append, List.nodup_append] at apart
        exact apart.1.2.2 f.path (List.mem_map_of_mem mem) file.path (by simp) same
      rw [perform_bind_ok (perform_settled settled _), perform_bind_ok (perform_write wrote _),
        perform_bind_ok (perform_note _ _), shift]
      have still := (sameDirectories_write wrote).hasDirectory settled
      rcases ih (w := told) still more plains apart with
        done | ⟨written, last, others, e, w', order, failed, refused, left⟩
      · exact .inl done
      · refine .inr ⟨file :: written, last, others, e, w', by rw [order]; rfl, failed, refused, ?_⟩
        rwa [List.append_assoc, List.singleton_append] at left

end

/-- The currency codes that are asked for. There is no network to ask. -/
def codesOf (t : FileTree) (file : Option String) (config : CurrencyConfig) :
    Except Failure (List String) :=
  match file.orElse fun _ => config.file with
  | some path => codesAt t path
  | none => .error (.fetching config.url ["io: failed to lookup address information"])

/-- The configuration and the patched description: what has to be in order before a file is touched. -/
def prepare (t : FileTree) (input currencies : Option String) : Except Failure (Config × Schema) := do
  let config ← configOf t
  let s ← schemaAt t (input.getD config.input)
  let codes ← codesOf t currencies config.currencies
  let patched ← (s.patched ⟨codes⟩).mapError .patch
  return (config, patched)

/-- Surroundings as a value, with a formatter that does whatever it does. -/
def World.hostWith (format : Path → StateM World Formatting) : Host (StateM World) :=
  { World.host with format }

/-- What is done once everything is read and patched. -/
def finish {m : Type → Type} [Monad m] (host : Host m) (directory : Path)
    (files : List GeneratedFile) (formats : Bool) : Action m Unit := do
  orFail (.outputDirectory directory.text) (host.createDirectories directory)
  writeFiles host directory files
  if formats then formatFiles host directory
  host.note ("Generated " ++ toString files.length ++ " files in " ++ directory.text)

section

variable {format : Path → StateM World Formatting} {input output currencies : Option String}
  {w : World}

theorem perform_readCodes_of (config : CurrencyConfig) :
    perform (readCodes (World.hostWith format) currencies config) w =
      (codesOf w.tree currencies config, w) := by
  unfold codesOf
  split
  · rename_i path located
    exact perform_readCodes located w
  · rename_i missing
    unfold readCodes
    rw [missing]
    rfl

theorem perform_generate_unprepared {f : Failure} (noFormat : Bool)
    (failed : prepare w.tree input currencies = .error f) :
    perform (runGenerate (World.hostWith format) input output currencies noFormat) w =
      (.error f, w) := by
  unfold runGenerate
  have configured : perform (readConfig (World.hostWith format)) w = (configOf w.tree, w) :=
    perform_readConfig w
  rcases bind_eq_error.mp failed with noConfig | ⟨config, isConfig, more⟩
  · exact perform_bind_error (by rw [configured, noConfig])
  rw [isConfig] at configured
  rw [perform_bind_ok configured]
  have described : perform (readSchema (World.hostWith format) (input.getD config.input)) w =
      (schemaAt w.tree (input.getD config.input), w) := perform_readSchema _ w
  rcases bind_eq_error.mp more with noSchema | ⟨s, isSchema, more⟩
  · exact perform_bind_error (by rw [described, noSchema])
  rw [isSchema] at described
  rw [perform_bind_ok described]
  have listed : perform (readCodes (World.hostWith format) currencies config.currencies) w =
      (codesOf w.tree currencies config.currencies, w) := perform_readCodes_of config.currencies
  rcases bind_eq_error.mp more with noCodes | ⟨codes, isCodes, more⟩
  · exact perform_bind_error (by rw [listed, noCodes])
  rw [isCodes] at listed
  rw [perform_bind_ok listed]
  rcases bind_eq_error.mp more with noPatch | ⟨patched, _, impossible⟩
  · exact perform_bind_error (by rw [perform_given, noPatch])
  · cases impossible

theorem perform_generate_prepared {config : Config} {s : Schema} (output : Option String)
    (noFormat : Bool) (format : Path → StateM World Formatting)
    (prepared : prepare w.tree input currencies = .ok (config, s)) :
    perform (runGenerate (World.hostWith format) input output currencies noFormat) w =
      perform (finish (World.hostWith format) ⟨output.getD config.output⟩ (generate s (some w.time))
          (config.format && !noFormat))
        (w.noting ["Generating Bot API v" ++ s.version.text ++ " types → " ++
          output.getD config.output]) := by
  obtain ⟨config', isConfig, more⟩ := bind_eq_ok.mp prepared
  obtain ⟨described, isSchema, more⟩ := bind_eq_ok.mp more
  obtain ⟨codes, isCodes, more⟩ := bind_eq_ok.mp more
  obtain ⟨patched, isPatched, same⟩ := bind_eq_ok.mp more
  cases same
  unfold runGenerate
  have configured : perform (readConfig (World.hostWith format)) w = (.ok config, w) :=
    (perform_readConfig w).trans (by rw [isConfig])
  have loaded : perform (readSchema (World.hostWith format) (input.getD config.input)) w =
      (.ok described, w) := (perform_readSchema _ w).trans (by rw [isSchema])
  have listed : perform (readCodes (World.hostWith format) currencies config.currencies) w =
      (.ok codes, w) := by rw [perform_readCodes_of, isCodes]
  have patches : perform (given .patch (described.patched ⟨codes⟩)) w = (.ok s, w) := by
    rw [perform_given, isPatched]
  rw [perform_bind_ok configured, perform_bind_ok loaded, perform_bind_ok listed,
    perform_bind_ok patches]
  have noted (line : String) : perform (liftM ((World.hostWith format).note line)) w =
      (.ok (), w.noting [line]) := perform_note line w
  have now (w : World) : perform (liftM (World.hostWith format).now) w = (.ok w.time, w) := rfl
  rw [perform_bind_ok (noted _), perform_bind_ok (now _)]
  rfl

/-- The formatter works on what it finds, and nothing is done after it. -/
theorem perform_formatFiles_tree (format : Path → StateM World Formatting) (directory : Path)
    (w : World) :
    ∃ w', perform (formatFiles (World.hostWith format) directory) w = (.ok (), w') ∧
      w'.tree = (format directory w).2.tree := by
  unfold formatFiles
  have asked : perform (liftM ((World.hostWith format).format directory)) w =
      (.ok (format directory w).1, (format directory w).2) := rfl
  rw [perform_bind_ok asked]
  cases (format directory w).1 <;> exact ⟨_, perform_note _ _, rfl⟩

end

def moduleFile (s : Schema) (time : String) (module : Module) : GeneratedFile :=
  ⟨module.fileName, module.content .standard s (some time)⟩

/-- How generating ends, and why: the modules that it wrote, the exit code, and the files as it
leaves them. -/
inductive Outcome (t : FileTree) (time : String) (input output currencies : Option String) :
    List Module → UInt32 → FileTree → Prop
  | unprepared {f : Failure} (failed : prepare t input currencies = .error f) :
    Outcome t time input output currencies [] 1 t
  | noDirectory {config : Config} {s : Schema} {e : FileError} {left : FileTree}
    (prepared : prepare t input currencies = .ok (config, s))
    (failed : t.createDirectories ⟨output.getD config.output⟩ = (left, .error e))
    (makes : t.MakesDirectories left) : Outcome t time input output currencies [] 1 left
  | interrupted {config : Config} {s : Schema} {made left : FileTree} {written rest : List Module}
    {module : Module} {e : FileError} (prepared : prepare t input currencies = .ok (config, s))
    (created : t.createDirectories ⟨output.getD config.output⟩ = (made, .ok ()))
    (makes : t.MakesDirectories made) (order : Module.all = written ++ module :: rest)
    (leaves : Leaves made ⟨output.getD config.output⟩ (written.map (moduleFile s time)) left)
    (failed : left.write (Path.child ⟨output.getD config.output⟩ module.fileName)
      (module.content .standard s (some time)) = .error e) :
    Outcome t time input output currencies written 1 left
  | complete {config : Config} {s : Schema} {made left : FileTree}
    (prepared : prepare t input currencies = .ok (config, s))
    (created : t.createDirectories ⟨output.getD config.output⟩ = (made, .ok ()))
    (makes : t.MakesDirectories made)
    (leaves : Leaves made ⟨output.getD config.output⟩ (Module.all.map (moduleFile s time)) left) :
    Outcome t time input output currencies Module.all 0 left

theorem Outcome.code_eq_zero_iff {t left : FileTree} {time : String}
    {input output currencies : Option String} {written : List Module} {code : UInt32}
    (outcome : Outcome t time input output currencies written code left) :
    code = 0 ↔ written = Module.all := by
  cases outcome with
  | unprepared | noDirectory => exact ⟨nofun, nofun⟩
  | interrupted _ _ _ order =>
    refine ⟨nofun, fun all => ?_⟩
    rw [all, List.self_eq_append_right] at order
    cases order
  | complete => exact ⟨fun _ => rfl, fun _ => rfl⟩

theorem moduleFile_plain (s : Schema) (time : String) (module : Module) :
    PlainName (moduleFile s time module).path := by
  change PlainName module.fileName
  cases module <;> exact ⟨by decide, by decide, by decide, by decide⟩

theorem moduleFiles_apart (s : Schema) (time : String) :
    ((Module.all.map (moduleFile s time)).map (·.path)).Nodup := by
  change (Module.all.map Module.fileName).Nodup
  decide

/-- A run that ended with the code, where the formatter had the last word on the files that were left,
if any. One that changes nothing, since it is missing or fails, say, leaves them like that. -/
structure Ended (format : Path → StateM World Formatting) (code : UInt32) (left : FileTree)
    (ended : UInt32 × World) : Prop where
  exit : ended.1 = code
  files : ended.2.tree = left ∨ code = 0 ∧ ∃ p w, w.tree = left ∧ ended.2.tree = (format p w).2.tree
  spared : (∀ p w, (format p w).2.tree = w.tree) → ended.2.tree = left

section

variable {format : Path → StateM World Formatting} {directory : Path} {formats : Bool}
  {files : List GeneratedFile} {args : List String} {request : Request} {w w' : World}

theorem ended_failed {f : Failure} (asked : Request.ofArguments args = some request)
    (failed : perform (runRequest (World.hostWith format) request) w = (.error f, w')) :
    Ended format 1 w'.tree (run (World.hostWith format) args w) := by
  have notes : (World.hostWith format).note = World.host.note := rfl
  rw [run_error_of notes asked failed]
  exact ⟨rfl, .inl rfl, fun _ => rfl⟩

theorem ended_done {left : FileTree} (asked : Request.ofArguments args = some request)
    (done : perform (runRequest (World.hostWith format) request) w = (.ok (), w'))
    (files : w'.tree = left ∨ ∃ p v, v.tree = left ∧ w'.tree = (format p v).2.tree) :
    Ended format 0 left (run (World.hostWith format) args w) := by
  rw [run_ok asked done]
  refine ⟨rfl, ?_, fun spares => ?_⟩
  · rcases files with same | formatted
    · exact .inl same
    · exact .inr ⟨rfl, formatted⟩
  · rcases files with same | ⟨p, v, on, formatted⟩
    · exact same
    · exact formatted.trans ((spares p v).trans on)

theorem writeFiles_hostWith (directory : Path) (files : List GeneratedFile) :
    writeFiles (World.hostWith format) directory files = writeFiles World.host directory files := by
  induction files with
  | nil => rfl
  | cons file rest ih =>
    rw [writeFiles, writeFiles, ih]
    rfl

theorem perform_finish_noDirectory {made : FileTree} {e : FileError}
    (failed : w.tree.createDirectories directory = (made, .error e)) :
    perform (finish (World.hostWith format) directory files formats) w =
      (.error (.outputDirectory directory.text e), { w with tree := made }) := by
  refine perform_bind_error ?_
  simp only [perform_orFail, World.hostWith, World.host, failed]
  rfl

theorem perform_finish_interrupted {made : FileTree} {f : Failure}
    (created : w.tree.createDirectories directory = (made, .ok ()))
    (failed : perform (writeFiles World.host directory files) { w with tree := made } =
      (.error f, w')) :
    perform (finish (World.hostWith format) directory files formats) w = (.error f, w') := by
  have create : perform (orFail (.outputDirectory directory.text)
      ((World.hostWith format).createDirectories directory)) w = (.ok (), { w with tree := made }) :=
    perform_createDirectories created _
  unfold finish
  rw [perform_bind_ok create, writeFiles_hostWith]
  exact perform_bind_error failed

/-- Nothing happens behind the modules but that a formatter may work on what was left. -/
theorem perform_finish_written {made : FileTree}
    (created : w.tree.createDirectories directory = (made, .ok ()))
    (wrote : perform (writeFiles World.host directory files) { w with tree := made } = (.ok (), w')) :
    ∃ w'', perform (finish (World.hostWith format) directory files formats) w = (.ok (), w'') ∧
      (w''.tree = w'.tree ∨ ∃ p v, v.tree = w'.tree ∧ w''.tree = (format p v).2.tree) := by
  have create : perform (orFail (.outputDirectory directory.text)
      ((World.hostWith format).createDirectories directory)) w = (.ok (), { w with tree := made }) :=
    perform_createDirectories created _
  unfold finish
  rw [perform_bind_ok create, writeFiles_hostWith, perform_bind_ok wrote]
  cases formats with
  | false => exact ⟨_, perform_note _ _, .inl rfl⟩
  | true =>
    obtain ⟨w'', formatted, same⟩ := perform_formatFiles_tree format directory w'
    exact ⟨_, (perform_bind_ok formatted).trans (perform_note _ _), .inr ⟨directory, w', rfl, same⟩⟩

end

section

variable {args : List String} {input output currencies : Option String} {noFormat : Bool} {w : World}

theorem ended_prepared {config : Config} {s : Schema}
    (asked : Request.ofArguments args = some (.generate input output currencies noFormat))
    (prepared : prepare w.tree input currencies = .ok (config, s)) :
    ∃ written code left, Outcome w.tree w.time input output currencies written code left ∧
      ∀ format, Ended format code left (run (World.hostWith format) args w) := by
  let directory : Path := ⟨output.getD config.output⟩
  let told := w.noting
    ["Generating Bot API v" ++ s.version.text ++ " types → " ++ output.getD config.output]
  have begins (format : Path → StateM World Formatting) :=
    perform_generate_prepared output noFormat format prepared
  have makes := w.tree.createDirectories_makes directory
  rcases created : w.tree.createDirectories directory with ⟨made, e | _⟩
  · rw [created] at makes
    refine ⟨[], 1, made, .noDirectory prepared created makes, fun format => ?_⟩
    exact ended_failed asked ((begins format).trans (perform_finish_noDirectory created))
  · rw [created] at makes
    have plains : ∀ f ∈ [] ++ generate s (some w.time), PlainName f.path := by
      intro f mem
      obtain ⟨module, _, rfl⟩ := List.mem_map.mp mem
      exact moduleFile_plain s w.time module
    have settled := hasDirectory_of_created created
    rcases perform_writeFiles_cases (w := { told with tree := made }) settled
        (leaves_nothing made directory) plains (moduleFiles_apart s w.time) with
      ⟨w', done, leaves⟩ | ⟨files, last, rest, e, w', order, failed, refused, leaves⟩
    · refine ⟨Module.all, 0, w'.tree, .complete prepared created makes leaves, fun format => ?_⟩
      obtain ⟨w'', finished, same⟩ := perform_finish_written (w := told) created done
      exact ended_done asked ((begins format).trans finished) same
    · obtain ⟨written, others, split, rfl, more⟩ := List.map_eq_append_iff.mp order
      obtain ⟨module, behind, rfl, rfl, rfl⟩ := List.map_eq_cons_iff.mp more
      refine ⟨written, 1, w'.tree, .interrupted prepared created makes split leaves refused,
        fun format => ?_⟩
      exact ended_failed asked
        ((begins format).trans (perform_finish_interrupted (w := told) created failed))

/-- However generating ends, the files are as they were but for the first modules, each of them whole,
and the exit code is zero exactly when these are all modules. No formatter has a say in that. -/
theorem generate_leaves
    (asked : Request.ofArguments args = some (.generate input output currencies noFormat))
    (w : World) :
    ∃ written code left, Outcome w.tree w.time input output currencies written code left ∧
      (code = 0 ↔ written = Module.all) ∧
      ∀ format, Ended format code left (run (World.hostWith format) args w) := by
  suffices ending : ∃ written code left,
      Outcome w.tree w.time input output currencies written code left ∧
        ∀ format, Ended format code left (run (World.hostWith format) args w) by
    obtain ⟨written, code, left, outcome, ended⟩ := ending
    exact ⟨written, code, left, outcome, outcome.code_eq_zero_iff, ended⟩
  cases prepared : prepare w.tree input currencies with
  | error f =>
    refine ⟨[], 1, w.tree, .unprepared prepared, fun format => ?_⟩
    exact ended_failed asked (perform_generate_unprepared noFormat prepared)
  | ok ready => exact ended_prepared asked prepared

end

/-- Everything is in order at the desk. -/
theorem generate_leaves_desk :
    ∃ (description : String) (w : World) (left : FileTree), w.tree = deskTree description ∧
      Schema.load description = .ok (Schema.forum []) ∧
      Outcome w.tree w.time none none (some "codes.json") Module.all 0 left ∧
      ∀ format, Ended format 0 left
        (run (World.hostWith format) ["generate", "--currencies", "codes.json"] w) := by
  obtain ⟨description, _, load⟩ := Schema.forum_loaded
  let w := World.start (deskTree description) .unavailable "2025-07-03T00:00:00Z"
  have asked : Request.ofArguments ["generate", "--currencies", "codes.json"] =
      some (.generate none none (some "codes.json") false) := by decide
  obtain ⟨w', done⟩ := perform_generate_done (w := w) (deskTree_ready description)
    (deskTree_schemaAt load) (Schema.forum_patched [] "EUR" []) false
  have succeeded : run World.host ["generate", "--currencies", "codes.json"] w = (0, w') :=
    run_ok asked done
  obtain ⟨written, code, left, outcome, whole, ended⟩ := generate_leaves asked w
  have zero : code = 0 := by
    have usual : World.hostWith World.host.format = World.host := rfl
    rw [← (ended World.host.format).exit, usual, succeeded]
  subst zero
  obtain rfl := whole.mp rfl
  exact ⟨description, w, left, rfl, load, outcome, ended⟩

end BotTypings.Command
