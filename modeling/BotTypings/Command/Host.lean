import BotTypings.FileTree.Basic

/-! What a command needs from its surroundings, and surroundings that are a value: a tree of files, a
formatter that does what is known beforehand, and the text printed so far. -/
namespace BotTypings.Command

inductive Formatting where
  | done
  | issues
  | unavailable
  deriving DecidableEq, Repr

structure Host (m : Type → Type) where
  pathExists : Path → m Bool
  readText : Path → m (Except FileError String)
  write : Path → String → m (Except FileError Unit)
  createDirectories : Path → m (Except FileError Unit)
  fetch : String → m (Except (List String) String)
  format : Path → m Formatting
  now : m String
  print : String → m Unit
  note : String → m Unit

structure World where
  tree : FileTree
  formatter : Formatting
  time : String
  output : String
  notes : String

namespace World

def start (tree : FileTree) (formatter : Formatting) (time : String) : World :=
  ⟨tree, formatter, time, "", ""⟩

def update (step : FileTree → Except FileError FileTree) :
    StateM World (Except FileError Unit) := fun w =>
  match step w.tree with
  | .ok tree => (.ok (), { w with tree })
  | .error e => (.error e, w)

/-- There is no network, and the formatter cannot run in a directory without a name. -/
def host : Host (StateM World) where
  pathExists p w := (w.tree.pathExists p, w)
  readText p w := (w.tree.readText p, w)
  write p text := update fun t => t.write p text
  createDirectories p w :=
    let (tree, result) := w.tree.createDirectories p
    (result, { w with tree })
  fetch _ w := (.error ["io: failed to lookup address information"], w)
  format p w := (if p.text = "" then .unavailable else w.formatter, w)
  now w := (w.time, w)
  print text w := ((), { w with output := w.output ++ text })
  note line w := ((), { w with notes := w.notes ++ line ++ "\n" })

end World

end BotTypings.Command
