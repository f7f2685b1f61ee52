import BotTypings.Summary
import BotTypings.Text.Blank

/-! What a command line asks for. Arguments are read from left to right, and the first one that decides
the outcome ends the reading: a call for help or a mistake. -/
namespace BotTypings.Command

open BotTypings.Text

inductive Shell where
  | bash
  | elvish
  | fish
  | powershell
  | zsh
  deriving DecidableEq, Repr

inductive Request where
  | generate (input output currencies : Option String) (noFormat : Bool)
  | validate (input : String)
  | inspect (input : String) (format : SummaryFormat)
  | init (force : Bool)
  | completions (shell : Shell)
  | help
  | version
  deriving DecidableEq, Repr

inductive Stop where
  | help
  | version
  | mistake
  deriving DecidableEq, Repr

structure Flag where
  name : String
  letter : Option Char
  accepts : Option (String → Bool)

structure Grammar where
  flags : List Flag
  alone : List (String → Bool)

structure Reading where
  options : List (String × String)
  alone : List String
  pending : Option Flag

def Reading.start : Reading := ⟨[], [], none⟩

def Reading.value? (r : Reading) (name : String) : Option String :=
  (r.options.find? (·.1 == name)).map (·.2)

def Reading.has (r : Reading) (name : String) : Bool := (r.value? name).isSome

/-- Records an option, which may come once and only with a value that it accepts. -/
def Reading.record (r : Reading) (f : Flag) (value : String) : Except Stop Reading :=
  if r.has f.name || f.accepts.any (!· value) then .error .mistake
  else .ok { r with options := r.options ++ [(f.name, value)], pending := none }

def Reading.recordAlone (r : Reading) (g : Grammar) (value : String) : Except Stop Reading :=
  match g.alone[r.alone.length]? with
  | some accepts =>
    if accepts value then .ok { r with alone := r.alone ++ [value] } else .error .mistake
  | none => .error .mistake

def Reading.long (r : Reading) (g : Grammar) (name : String) (value : Option String) :
    Except Stop Reading :=
  if name = "help" then .error (if value.isNone then .help else .mistake)
  else match g.flags.find? (·.name == name) with
    | none => .error .mistake
    | some f =>
      match f.accepts, value with
      | some _, some v => r.record f v
      | some _, none => .ok { r with pending := some f }
      | none, none => r.record f ""
      | none, some _ => .error .mistake

/-- Options by their letters. What follows the letter of one with a value is its value, an equals sign
left out. -/
def Reading.short (r : Reading) (g : Grammar) : List Char → Except Stop Reading
  | [] => .ok r
  | c :: cs =>
    if c = 'h' then .error .help
    else match g.flags.find? (·.letter == some c) with
      | none => .error .mistake
      | some f =>
        if f.accepts.isSome then
          match cs with
          | [] => .ok { r with pending := some f }
          | '=' :: value => r.record f (String.ofList value)
          | value => r.record f (String.ofList value)
        else do
          let r ← r.record f ""
          r.short g cs

def cutValue (cs : List Char) : String × Option String :=
  let name := String.ofList (cs.takeWhile (· != '='))
  match cs.dropWhile (· != '=') with
  | [] => (name, none)
  | _ :: value => (name, some (String.ofList value))

/-- Reads the arguments of a command. Two dashes end the options. -/
def Reading.all (g : Grammar) (onlyValues : Bool) (r : Reading) : List String → Except Stop Reading
  | [] => if r.pending.isSome then .error .mistake else .ok r
  | a :: rest =>
    if onlyValues then do
      let r ← r.recordAlone g a
      Reading.all g true r rest
    else match r.pending, a.toList with
      | some _, '-' :: _ :: _ => .error .mistake
      | some f, _ => do
        let r ← r.record f a
        Reading.all g false r rest
      | none, ['-', '-'] => Reading.all g true r rest
      | none, '-' :: '-' :: cs => do
        let (name, value) := cutValue cs
        let r ← r.long g name value
        Reading.all g false r rest
      | none, '-' :: c :: cs => do
        let r ← r.short g (c :: cs)
        Reading.all g false r rest
      | none, _ => do
        let r ← r.recordAlone g a
        Reading.all g false r rest

def isPath (s : String) : Bool := s != ""

def inputFlag : Flag := ⟨"input", some 'i', some isPath⟩

def summaryFormat? (s : String) : Option SummaryFormat :=
  if s = "yaml" then some .yaml else if s = "json" then some .json else none

def shell? (s : String) : Option Shell :=
  if s = "bash" then some .bash
  else if s = "elvish" then some .elvish
  else if s = "fish" then some .fish
  else if s = "powershell" then some .powershell
  else if s = "zsh" then some .zsh
  else none

def needed {α : Type} : Option α → Except Stop α
  | some x => .ok x
  | none => .error .mistake

def generateRequest (args : List String) : Except Stop Request := do
  let flags :=
    [inputFlag, ⟨"output", some 'o', some isPath⟩, ⟨"currencies", none, some isPath⟩,
     ⟨"no-format", none, none⟩]
  let r ← Reading.all ⟨flags, []⟩ false .start args
  return .generate (r.value? "input") (r.value? "output") (r.value? "currencies")
    (r.has "no-format")

def validateRequest (args : List String) : Except Stop Request := do
  let r ← Reading.all ⟨[inputFlag], []⟩ false .start args
  return .validate (← needed (r.value? "input"))

def inspectRequest (args : List String) : Except Stop Request := do
  let formatFlag : Flag := ⟨"format", none, some fun s => (summaryFormat? s).isSome⟩
  let r ← Reading.all ⟨[inputFlag, formatFlag], []⟩ false .start args
  let input ← needed (r.value? "input")
  return .inspect input (((r.value? "format").bind summaryFormat?).getD .yaml)

def initRequest (args : List String) : Except Stop Request := do
  let r ← Reading.all ⟨[⟨"force", none, none⟩], []⟩ false .start args
  return .init (r.has "force")

def completionsRequest (args : List String) : Except Stop Request := do
  let r ← Reading.all ⟨[], [fun s => (shell? s).isSome]⟩ false .start args
  return .completions (← needed (r.alone.head?.bind shell?))

def commands : List (String × (List String → Except Stop Request)) :=
  [("generate", generateRequest), ("validate", validateRequest), ("inspect", inspectRequest),
   ("init", initRequest), ("completions", completionsRequest)]

def isCommand (name : String) : Bool := name == "help" || commands.any (·.1 == name)

def helpRequest : List String → Except Stop Request
  | [] => .ok .help
  | [name] => if isCommand name then .ok .help else .error .mistake
  | _ => .error .mistake

def readArguments : List String → Except Stop Request
  | [] => .error .mistake
  | a :: rest =>
    if a = "--help" then .error .help
    else if a = "--version" then .error .version
    else if a = "help" then helpRequest rest
    else match a.toList, commands.find? (·.1 == a) with
      | '-' :: 'h' :: _, _ => .error .help
      | '-' :: 'V' :: _, _ => .error .version
      | _, some (_, read) => read rest
      | _, none => .error .mistake

/-- The request of a command line; nothing when there is a mistake in it. -/
def Request.ofArguments (args : List String) : Option Request :=
  match readArguments args with
  | .ok r => some r
  | .error .help => some .help
  | .error .version => some .version
  | .error .mistake => none

end BotTypings.Command
