import BotTypings.Patch.Additions
import BotTypings.Patch.Corrections

/-! The patches that stand between a loaded schema and the types written for it. A run stops at the
first patch that fails and says which one it was. -/
namespace BotTypings

def patches : List Patch :=
  [addCurrencies, addEnvelopes, correctInputFile, correctIconColor, correctReturnTypes]

def runPatches (options : PatchOptions) : List Patch → Schema → Except PatchError Schema
  | [], s => .ok s
  | p :: ps, s =>
    match p.run options s with
    | .ok t => runPatches options ps t
    | .error e => .error (.step p.name e)

def Schema.patched (options : PatchOptions) (s : Schema) : Except PatchError Schema :=
  runPatches options patches s

end BotTypings
