import BotTypings.Command.Run
import BotTypings.Timestamp
import Std.Time

/-! The command line program. Only this module touches the real file system, the clock and the standard
streams. Addresses are not fetched from here, and the formatter is left to be run by hand. -/
namespace BotTypings.Command

def fileError (e : IO.Error) : FileError :=
  match e with
  | .noFileOrDirectory .. => .notFound
  | .alreadyExists .. => .alreadyExists
  | .inappropriateType .. => .isDirectory
  | e => .other e.toString

def attempt {α : Type} (action : IO α) : IO (Except FileError α) := do
  match ← action.toBaseIO with
  | .ok x => return .ok x
  | .error e => return .error (fileError e)

def readFileText (p : Path) : IO (Except FileError String) := do
  match ← attempt (IO.FS.readBinFile p.text) with
  | .error e => return .error e
  | .ok bytes =>
    match String.fromUTF8? bytes with
    | some text => return .ok text
    | none => return .error .notText

def processHost : Host IO where
  pathExists p := do
    match ← (IO.FS.Handle.mk p.text .read).toBaseIO with
    | .ok _ => return true
    | .error (.noFileOrDirectory ..) => return false
    | .error _ => return true
  readText := readFileText
  write p text := attempt (IO.FS.writeFile p.text text)
  createDirectories p := attempt (if p.text = "" then pure () else IO.FS.createDirAll p.text)
  fetch _ := return .error ["fetching is not available"]
  format _ := return .unavailable
  now := do
    let time ← Std.Time.Timestamp.now
    return timestamp time.toSecondsSinceUnixEpoch.val.toNat
  print text := do
    let stream ← IO.getStdout
    stream.putStr text
  note line := do
    let stream ← IO.getStderr
    stream.putStrLn line

end BotTypings.Command

def main (args : List String) : IO UInt32 :=
  BotTypings.Command.run BotTypings.Command.processHost args
