import BotTypings.Text.Blank

/-! A tree of files with the directory from which relative paths start, and what can go wrong with a path
in it. A path is followed step by step, so every directory on its way has to be there. -/
namespace BotTypings

open BotTypings.Text

inductive FileError where
  | notFound
  | notDirectory
  | isDirectory
  | alreadyExists
  | nameTooLong
  | nullInName
  | notText
  | other (reason : String)
  deriving DecidableEq, Repr

def FileError.message : FileError → String
  | notFound => "No such file or directory (os error 2)"
  | notDirectory => "Not a directory (os error 20)"
  | isDirectory => "Is a directory (os error 21)"
  | alreadyExists => "File exists (os error 17)"
  | nameTooLong => "File name too long (os error 36)"
  | nullInName => "file name contained an unexpected NUL byte"
  | notText => "stream did not contain valid UTF-8"
  | other reason => reason

inductive Entry where
  | file (content : Array UInt8)
  | directory
  /-- A device that is always empty and forgets what is written to it. -/
  | sink
  deriving DecidableEq

abbrev Location := List String

structure FileTree where
  entries : List (Location × Entry)
  working : Location
  deriving DecidableEq

namespace FileTree

def systemDirectories : List String :=
  ["bin", "boot", "dev", "etc", "home", "lib", "media", "mnt", "opt", "proc", "root", "run", "sbin",
   "srv", "sys", "tmp", "usr", "var"]

def empty : FileTree where
  entries := systemDirectories.map (fun name => ([name], .directory)) ++
    [(["dev", "null"], .sink), (["tmp", "work"], .directory)]
  working := ["tmp", "work"]

/-- What is at a location. The root itself is always there. -/
def entry? (t : FileTree) (l : Location) : Option Entry :=
  if l = [] then some .directory else (t.entries.find? (·.1 == l)).map (·.2)

def inside? (t : FileTree) (l : Location) : Option (List String) :=
  if t.working.isPrefixOf l then some (l.drop t.working.length) else none

def set (t : FileTree) (l : Location) (e : Entry) : FileTree :=
  if t.entries.any (·.1 == l) then
    { t with entries := t.entries.map fun old => if old.1 == l then (l, e) else old }
  else { t with entries := t.entries ++ [(l, e)] }

def isDirectory (t : FileTree) (l : Location) : Bool := t.entry? l == some .directory

/-- Bytes that one name, and one path, may have at most. -/
def longestName : Nat := 255
def longestPath : Nat := 4095

/-- One step from a location that has to be a directory. -/
def step (t : FileTree) (l : Location) (name : String) : Except FileError Location :=
  match t.entry? l with
  | none => .error .notFound
  | some (.file _) | some .sink => .error .notDirectory
  | some .directory =>
    if name = "." then .ok l
    else if name = ".." then .ok l.dropLast
    else if longestName < name.utf8ByteSize then .error .nameTooLong
    else .ok (l ++ [name])

def follow (t : FileTree) (l : Location) : List String → Except FileError Location
  | [] => .ok l
  | name :: names => do
    let next ← t.step l name
    t.follow next names

end FileTree

structure Path where
  text : String
  deriving DecidableEq, Repr

namespace Path

def chars (p : Path) : List Char := p.text.toList

def isAbsolute (p : Path) : Bool := p.chars.head? == some '/'

def asksDirectory (p : Path) : Bool := p.chars.getLast? == some '/'

def names (p : Path) : List String :=
  ((pieces '/' p.chars).filter (!·.isEmpty)).map String.ofList

def child (p : Path) (name : String) : Path :=
  if p.text = "" ∨ p.asksDirectory then ⟨p.text ++ name⟩ else ⟨p.text ++ "/" ++ name⟩

def check (p : Path) : Except FileError Unit :=
  if p.chars.any (·.toNat == 0) then .error .nullInName
  else if p.text = "" then .error .notFound
  else if FileTree.longestPath < p.text.utf8ByteSize then .error .nameTooLong
  else .ok ()

end Path

namespace FileTree

def origin (t : FileTree) (p : Path) : Location := if p.isAbsolute then [] else t.working

def locate (t : FileTree) (p : Path) : Except FileError Location := do
  p.check
  t.follow (t.origin p) p.names

def pathExists (t : FileTree) (p : Path) : Bool :=
  match t.locate p with
  | .ok l =>
    match t.entry? l with
    | some (.file _) | some .sink => !p.asksDirectory
    | some .directory => true
    | none => false
  | .error _ => false

def readText (t : FileTree) (p : Path) : Except FileError String := do
  let l ← t.locate p
  match t.entry? l with
  | none => throw .notFound
  | some .directory => throw .isDirectory
  | some .sink => if p.asksDirectory then throw .notDirectory else return ""
  | some (.file content) =>
    if p.asksDirectory then throw .notDirectory
    match String.fromUTF8? ⟨content⟩ with
    | some text => return text
    | none => throw .notText

def write (t : FileTree) (p : Path) (text : String) : Except FileError FileTree := do
  let l ← t.locate p
  if p.asksDirectory then throw .isDirectory
  match t.entry? l with
  | some .directory => throw .isDirectory
  | some .sink => return t
  | some (.file _) | none => return t.set l (.file text.toUTF8.data)

def makeDirectory (t : FileTree) (start : Location) (names : List String) :
    Except FileError FileTree := do
  let l ← t.follow start names
  match t.entry? l with
  | some _ => throw .alreadyExists
  | none => return t.set l .directory

def leadsToDirectory (t : FileTree) (start : Location) (names : List String) : Bool :=
  match t.follow start names with
  | .ok l => t.isDirectory l
  | .error _ => false

/-- Makes a directory, after the step that makes those above it if one of them is missing. A directory
that is there already is as good as a new one. Directories made before something fails stay. -/
def makeAfter (outer : FileTree → FileTree × Except FileError Unit) (start : Location)
    (names : List String) (t : FileTree) : FileTree × Except FileError Unit :=
  let settle (t : FileTree) (e : FileError) : FileTree × Except FileError Unit :=
    (t, if t.leadsToDirectory start names then .ok () else .error e)
  match t.makeDirectory start names with
  | .ok made => (made, .ok ())
  | .error .notFound =>
    match outer t with
    | (t, .error e) => (t, .error e)
    | (t, .ok ()) =>
      match t.makeDirectory start names with
      | .ok made => (made, .ok ())
      | .error e => settle t e
  | .error e => settle t e

def makeDirectories (start : Location) : List String → FileTree → FileTree × Except FileError Unit
  | [], t => (t, .ok ())
  | name :: outer, t => t.makeAfter (makeDirectories start outer) start (name :: outer).reverse

def namesAbove (p : Path) : List String :=
  match p.names with
  | [] => []
  | name :: rest => (name :: rest.filter (· != ".")).dropLast

/-- Makes the directory of a path and those above it. The empty path is there already. -/
def createDirectories (t : FileTree) (p : Path) : FileTree × Except FileError Unit :=
  if p.text = "" then (t, .ok ())
  else match p.check with
    | .error e => (t, .error e)
    | .ok () =>
      let start := t.origin p
      t.makeAfter (makeDirectories start (namesAbove p).reverse) start p.names

end FileTree

end BotTypings
