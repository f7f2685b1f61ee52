import BotTypings.Schema.Reading

/-! Loading a schema: reading it, then refusing repeated names. Names become identifier fragments, so
methods among themselves and objects among themselves must differ; a method and an object may share
one. -/
namespace BotTypings

open BotTypings.Json

inductive NameKind where
  | method
  | object
  deriving DecidableEq, Repr

def NameKind.text : NameKind → String
  | method => "method"
  | object => "object"

inductive LoadError where
  | json (e : ReadError)
  | repeatedName (kind : NameKind) (name : String)
  deriving DecidableEq, Repr

def LoadError.message : LoadError → String
  | json e => "failed to parse JSON: " ++ e.message
  | repeatedName kind name => "duplicate " ++ kind.text ++ " name: " ++ name

def firstRepeated (seen : List String) : List String → Option String
  | [] => none
  | name :: rest => if name ∈ seen then some name else firstRepeated (name :: seen) rest

def Schema.checkNames (s : Schema) : Except LoadError Unit :=
  match firstRepeated [] (s.methods.map (·.name)) with
  | some name => .error (.repeatedName .method name)
  | none =>
    match firstRepeated [] (s.objects.map (·.name)) with
    | some name => .error (.repeatedName .object name)
    | none => .ok ()

def Schema.load (text : String) : Except LoadError Schema := do
  let s ← (readText Schema.ofNode text).mapError .json
  s.checkNames
  return s

end BotTypings
