import BotTypings.Command.Run
import BotTypings.Proofs.FileTree.Directories
import BotTypings.Proofs.Text.Lines

/-! What the steps of a command do in surroundings that are a value. What a command reads is a function
of the files alone and changes nothing; what it says is added to the notes. -/
namespace BotTypings.Command

open BotTypings.Text

/-- What an action gives in the surroundings, and the surroundings that it leaves. -/
def perform {α : Type} (action : Action (StateM World) α) (w : World) :
    Except Failure α × World :=
  action.run w

section

variable {α β : Type} {action : Action (StateM World) α} {next : α → Action (StateM World) β}
  {w w' : World}

theorem perform_bind (action : Action (StateM World) α) (next : α → Action (StateM World) β)
    (w : World) :
    perform (action >>= next) w =
      match perform action w with
      | (.ok x, w') => perform (next x) w'
      | (.error f, w') => (.error f, w') := by
  change ExceptT.bindCont next (perform action w).1 (perform action w).2 = _
  cases perform action w with
  | mk result w' => cases result <;> rfl

theorem perform_bind_ok {x : α} (done : perform action w = (.ok x, w')) :
    perform (action >>= next) w = perform (next x) w' := by
  rw [perform_bind, done]

theorem perform_bind_error {f : Failure} (failed : perform action w = (.error f, w')) :
    perform (action >>= next) w = (.error f, w') := by
  rw [perform_bind, failed]

theorem perform_orFail {ε : Type} (fail : ε → Failure) (step : StateM World (Except ε α))
    (w : World) : perform (orFail fail step) w = ((step w).1.mapError fail, (step w).2) := rfl

theorem perform_given {ε : Type} (fail : ε → Failure) (result : Except ε α) (w : World) :
    perform (given fail result) w = (result.mapError fail, w) := rfl

theorem perform_given_ok {ε : Type} {result : Except ε α} {x : α} (done : result = .ok x)
    (fail : ε → Failure) (w : World) : perform (given fail result) w = (.ok x, w) := by
  rw [perform_given, done]
  rfl

theorem perform_given_error {ε : Type} {result : Except ε α} {e : ε} (failed : result = .error e)
    (fail : ε → Failure) (w : World) : perform (given fail result) w = (.error (fail e), w) := by
  rw [perform_given, failed]
  rfl

theorem perform_lift (step : StateM World α) (w : World) :
    perform (liftM step) w = (.ok (step w).1, (step w).2) := rfl

end

/-- The configuration that a command goes by. -/
def configOf (t : FileTree) : Except Failure Config :=
  if t.pathExists ⟨Config.fileName⟩ then
    match t.readText ⟨Config.fileName⟩ with
    | .error e => .error (.config (.unreadable e.message))
    | .ok text => (Config.ofText text).mapError .config
  else .ok .standard

/-- The description at a path. -/
def schemaAt (t : FileTree) (path : String) : Except Failure Schema :=
  match t.readText ⟨path⟩ with
  | .error e => .error (.reading path e)
  | .ok text => (Schema.load text).mapError (.schema path)

/-- The currency codes in a file. -/
def codesAt (t : FileTree) (path : String) : Except Failure (List String) :=
  match t.readText ⟨path⟩ with
  | .error e => .error (.reading path e)
  | .ok text => (readCurrencies text).mapError .currencies

theorem perform_readConfig (w : World) : perform (readConfig World.host) w = (configOf w.tree, w) := by
  unfold readConfig configOf
  have asked : perform (liftM (World.host.pathExists ⟨Config.fileName⟩)) w =
      (.ok (w.tree.pathExists ⟨Config.fileName⟩), w) := rfl
  rw [perform_bind_ok asked]
  cases w.tree.pathExists ⟨Config.fileName⟩ with
  | false => rfl
  | true =>
    simp only [if_true, perform_bind, perform_orFail, perform_given, World.host]
    cases w.tree.readText ⟨Config.fileName⟩ <;> rfl

theorem perform_readSchema (path : String) (w : World) :
    perform (readSchema World.host path) w = (schemaAt w.tree path, w) := by
  simp only [readSchema, schemaAt, perform_bind, perform_orFail, perform_given, World.host]
  cases w.tree.readText ⟨path⟩ <;> rfl

theorem perform_readCodes {file : Option String} {config : CurrencyConfig} {path : String}
    (located : (file.orElse fun _ => config.file) = some path) (w : World) :
    perform (readCodes World.host file config) w = (codesAt w.tree path, w) := by
  simp only [readCodes, codesAt, located, perform_bind, perform_orFail, perform_given, World.host]
  cases w.tree.readText ⟨path⟩ <;> rfl

/-- The surroundings after some more lines are noted. -/
def World.noting (w : World) (lines : List String) : World :=
  { w with notes := w.notes ++ laidOut lines }

theorem World.noting_nil (w : World) : w.noting [] = w := by
  simp [noting, laidOut]

theorem World.noting_append (w : World) (lines more : List String) :
    w.noting (lines ++ more) = (w.noting lines).noting more := by
  simp [noting, laidOut, String.append_assoc]

theorem note_eq (line : String) (w : World) : World.host.note line w = ((), w.noting [line]) := by
  simp [World.host, World.noting, laidOut, String.append_assoc]

theorem forM_note (lines : List String) (w : World) :
    lines.forM World.host.note w = ((), w.noting lines) := by
  induction lines generalizing w with
  | nil => rw [World.noting_nil]; rfl
  | cons line lines ih =>
    change lines.forM World.host.note (World.host.note line w).2 = _
    rw [ih, note_eq, ← World.noting_append]
    rfl

theorem perform_note (line : String) (w : World) :
    perform (liftM (World.host.note line)) w = (.ok (), w.noting [line]) := by
  rw [perform_lift, note_eq]

theorem perform_write {p : Path} {text : String} {w : World} {t : FileTree}
    (written : w.tree.write p text = .ok t) (fail : FileError → Failure) :
    perform (orFail fail (World.host.write p text)) w = (.ok (), { w with tree := t }) := by
  simp only [perform_orFail, World.host, World.update, written]
  rfl

theorem perform_createDirectories {p : Path} {w : World} {t : FileTree}
    (created : w.tree.createDirectories p = (t, .ok ())) (fail : FileError → Failure) :
    perform (orFail fail (World.host.createDirectories p)) w = (.ok (), { w with tree := t }) := by
  simp only [perform_orFail, World.host, created]
  rfl

theorem perform_settled {p : Path} {w : World} (settled : w.tree.HasDirectory p)
    (fail : FileError → Failure) :
    perform (orFail fail (World.host.createDirectories p)) w = (.ok (), w) :=
  perform_createDirectories settled.createDirectories fail

/-- A file that is written leaves room for the ones behind it. -/
theorem perform_writeFiles {directory : Path} {files : List GeneratedFile} {w : World}
    (settled : w.tree.HasDirectory directory)
    (writable : ∀ file ∈ files, w.tree.Writable (directory.child file.path)) :
    ∃ w', perform (writeFiles World.host directory files) w = (.ok (), w') := by
  induction files generalizing w with
  | nil => exact ⟨w, rfl⟩
  | cons file rest ih =>
    obtain ⟨here, behind⟩ := List.forall_mem_cons.mp writable
    obtain ⟨t, written⟩ := here file.content
    have same := FileTree.sameDirectories_write written
    let told := World.noting { w with tree := t } ["  wrote " ++ (directory.child file.path).text]
    -- The paths of the other files lead where they led before the first one was written.
    have still : ∀ file ∈ rest, told.tree.Writable (directory.child file.path) :=
      fun file mem => same.writable (behind file mem)
    obtain ⟨w', done⟩ := ih (w := told) (same.hasDirectory settled) still
    refine ⟨w', ?_⟩
    rw [writeFiles, perform_bind_ok (perform_settled settled _),
      perform_bind_ok (perform_write written _), perform_bind_ok (perform_note _ _)]
    exact done

theorem bind_apply {α β : Type} (step : StateM World α) (next : α → StateM World β) (w : World) :
    (step >>= next) w = next (step w).1 (step w).2 := rfl

section

variable {args : List String} {request : Request} {host : Host (StateM World)} {w w' : World}

theorem run_ok (asked : Request.ofArguments args = some request)
    (done : perform (runRequest host request) w = (.ok (), w')) : run host args w = (0, w') := by
  have result : (runRequest host request).run w = (.ok (), w') := done
  unfold run
  simp only [asked]
  rw [bind_apply, result]
  rfl

/-- Wherever lines are noted as usual. -/
theorem run_error_of {failure : Failure} (notes : host.note = World.host.note)
    (asked : Request.ofArguments args = some request)
    (failed : perform (runRequest host request) w = (.error failure, w')) :
    run host args w = (1, w'.noting failure.report) := by
  have result : (runRequest host request).run w = (.error failure, w') := failed
  unfold run
  simp only [asked]
  rw [bind_apply, result]
  change (failure.report.forM host.note >>= fun _ => pure 1) w' = _
  rw [bind_apply, notes, forM_note]
  rfl

theorem run_error {failure : Failure} (asked : Request.ofArguments args = some request)
    (failed : perform (runRequest World.host request) w = (.error failure, w')) :
    run World.host args w = (1, w'.noting failure.report) :=
  run_error_of rfl asked failed

end

end BotTypings.Command
