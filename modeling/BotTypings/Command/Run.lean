import BotTypings.Command.Completions
import BotTypings.Command.Failure
import BotTypings.Command.Host
import BotTypings.Declaration.Module
import BotTypings.Patch.Pipeline

/-! The commands. Everything is read and checked before anything is written, and modules are written one
after the other, so a failure leaves either no module or the first few of them. -/
namespace BotTypings.Command

abbrev Action (m : Type → Type) := ExceptT Failure m

section

variable {m : Type → Type} [Monad m] (host : Host m)

def orFail {ε α : Type} (fail : ε → Failure) (step : m (Except ε α)) : Action m α :=
  ExceptT.mk (do return (← step).mapError fail)

def given {ε α : Type} (fail : ε → Failure) (result : Except ε α) : Action m α :=
  orFail fail (pure result)

def readConfig : Action m Config := do
  let path : Path := ⟨Config.fileName⟩
  if ← host.pathExists path then
    let text ← orFail (fun e => .config (.unreadable e.message)) (host.readText path)
    given .config (Config.ofText text)
  else return .standard

def readSchema (path : String) : Action m Schema := do
  let text ← orFail (.reading path) (host.readText ⟨path⟩)
  given (.schema path) (Schema.load text)

/-- The currency codes of a file if one is given or configured, of the configured address otherwise. -/
def readCodes (file : Option String) (config : CurrencyConfig) : Action m (List String) := do
  let text ← match file.orElse fun _ => config.file with
    | some path => orFail (.reading path) (host.readText ⟨path⟩)
    | none => orFail (.fetching config.url) (host.fetch config.url)
  given .currencies (readCurrencies text)

/-- Writes files into a directory, which is made again for each of them should it be gone. -/
def writeFiles (directory : Path) : List GeneratedFile → Action m Unit
  | [] => return ()
  | file :: rest => do
    let path := directory.child file.path
    orFail (.directory directory.text) (host.createDirectories directory)
    orFail (.writing path.text) (host.write path file.content)
    host.note ("  wrote " ++ path.text)
    writeFiles directory rest

/-- Formats a directory. What comes of it is told, but never fails the command. -/
def formatFiles (directory : Path) : Action m Unit := do
  match ← host.format directory with
  | .done => host.note "  formatted with biome"
  | .issues =>
    host.note "  warning: biome formatting had issues (non-zero exit), output may need manual formatting"
  | .unavailable =>
    host.note ("  note: biome not found, run `npx @biomejs/biome format --write .` in " ++
      directory.text ++ " to format")

def runGenerate (input output currencies : Option String) (noFormat : Bool) : Action m Unit := do
  let config ← readConfig host
  let directory : Path := ⟨output.getD config.output⟩
  let schema ← readSchema host (input.getD config.input)
  let codes ← readCodes host currencies config.currencies
  let schema ← given .patch (schema.patched ⟨codes⟩)
  host.note ("Generating Bot API v" ++ schema.version.text ++ " types → " ++ directory.text)
  let files := generate schema (some (← host.now))
  orFail (.outputDirectory directory.text) (host.createDirectories directory)
  writeFiles host directory files
  if config.format && !noFormat then formatFiles host directory
  host.note ("Generated " ++ toString files.length ++ " files in " ++ directory.text)

/-- Patches need some currency code; which one does not matter to what they check. -/
def sampleOptions : PatchOptions := ⟨[starsCurrency]⟩

def runValidate (input : String) : Action m Unit := do
  let schema ← readSchema host input
  host.note ("Valid Bot API schema v" ++ schema.version.text ++ " (" ++ schema.released.text ++ ")")
  host.note ("  Methods: " ++ toString schema.methods.length)
  host.note ("  Objects: " ++ toString schema.objects.length)
  let patched ← given .patch (schema.patched sampleOptions)
  host.note ("  Objects after patches: " ++ toString patched.objects.length)
  host.note "Validation successful."

def runInspect (input : String) (format : SummaryFormat) : Action m Unit := do
  let schema ← readSchema host input
  let patched ← given .patch (schema.patched sampleOptions)
  host.print (patched.summaryText format)

def runInit (force : Bool) : Action m Unit := do
  let path : Path := ⟨Config.fileName⟩
  if (← host.pathExists path) && !force then throw .configExists
  orFail .configUnwritable (host.write path Config.template)
  host.note ("Created " ++ path.text)

def versionText : String := "tgt 0.3.0"

def runRequest : Request → Action m Unit
  | .generate input output currencies noFormat => runGenerate host input output currencies noFormat
  | .validate input => runValidate host input
  | .inspect input format => runInspect host input format
  | .init force => runInit host force
  | .completions shell => host.print shell.script
  | .help => host.print usage
  | .version => host.print (versionText ++ "\n")

/-- Runs a command line and gives the exit code: zero, one for a failure, two for a command line that
makes no sense. -/
def run (args : List String) : m UInt32 := do
  match Request.ofArguments args with
  | none =>
    host.note "error: invalid arguments"
    return 2
  | some request =>
    match ← (runRequest host request).run with
    | .ok () => return 0
    | .error failure =>
      failure.report.forM host.note
      return 1

end

end BotTypings.Command
