import BotTypings.Declaration.Methods
import BotTypings.Json.Printer
import BotTypings.Schema.Basic
import BotTypings.Yaml.Printer

/-! What a schema holds, at a glance: its release, its objects with the number of their members, its
methods with the way their parameters are passed. Keys are in the order of their characters. -/
namespace BotTypings

open BotTypings.Json

def ObjectKind.tag : ObjectKind → String
  | .properties _ => "properties"
  | .anyOf _ => "any_of"
  | .unknown => "unknown"

def ObjectKind.size : ObjectKind → Nat
  | .properties fields => fields.length
  | .anyOf variants => variants.length
  | .unknown => 0

def Object.summary (o : Object) : Value :=
  .record [("kind", .text o.kind.tag), ("members", .integer o.kind.size), ("name", .text o.name)]

def Method.summary (m : Method) : Value :=
  .record
    [("name", .text m.name), ("parameters", .integer m.parameters.length),
     ("params", .text m.paramsShape.text), ("returns", .text m.returns.tag)]

def Schema.summary (s : Schema) : Value :=
  .record
    [("methods", .list (s.methods.map Method.summary)),
     ("objects", .list (s.objects.map Object.summary)),
     ("release_date", .text s.released.text),
     ("version", .text s.version.text)]

inductive SummaryFormat where
  | yaml
  | json
  deriving DecidableEq, Repr

def Schema.summaryText (s : Schema) : SummaryFormat → String
  | .yaml => Yaml.document s.summary
  | .json => s.summary.pretty 0 ++ "\n"

end BotTypings
