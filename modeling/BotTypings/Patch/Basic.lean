import BotTypings.Schema.Lookup

/-! Patches: what has to be added to a schema or set right in it before types are written. A patch
either gives a schema or names the thing it did not find. -/
namespace BotTypings

inductive PatchError where
  | missingMethod (name : String)
  | missingObject (name : String)
  | missingParameter (method parameter : String)
  | patternNotFound (location pattern : String)
  | noCurrencies
  | step (patch : String) (source : PatchError)
  deriving DecidableEq, Repr

def PatchError.message : PatchError → String
  | missingMethod name => "method not found in schema: " ++ name
  | missingObject name => "object not found in schema: " ++ name
  | missingParameter method parameter =>
    "parameter `" ++ parameter ++ "` not found on method `" ++ method ++ "`"
  | patternNotFound location pattern =>
    "expected pattern not found in " ++ location ++ ": " ++ pattern
  | noCurrencies => "currency list is empty"
  | step patch source => "patch `" ++ patch ++ "` failed: " ++ source.message

/-- What patches need beyond the schema. -/
structure PatchOptions where
  currencies : List String
  deriving DecidableEq, Repr

structure Patch where
  name : String
  run : PatchOptions → Schema → Except PatchError Schema

/-- The schema that a call leaves behind, and the error if it failed. -/
def Patch.call (p : Patch) (options : PatchOptions) (s : Schema) : Schema × Option PatchError :=
  match p.run options s with
  | .ok t => (t, none)
  | .error e => (s, some e)

end BotTypings
