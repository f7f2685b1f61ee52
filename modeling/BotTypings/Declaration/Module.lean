import BotTypings.Declaration.Methods
import BotTypings.Declaration.Objects

/-! The five declaration modules. Each is a header that says what the module is for, its imports, and
a body that depends on the schema alone. -/
namespace BotTypings

open BotTypings.Text

inductive Module where
  | objects
  | params
  | methods
  | utils
  | index
  deriving DecidableEq, Repr

namespace Module

def all : List Module := [objects, params, methods, utils, index]

def fileName : Module → String
  | objects => "objects.d.ts"
  | params => "params.d.ts"
  | methods => "methods.d.ts"
  | utils => "utils.d.ts"
  | index => "index.d.ts"

def purpose : Module → List String
  | objects => ["Objects the Telegram Bot API accepts and returns"]
  | params => ["Params objects of the Telegram Bot API methods"]
  | methods =>
    ["The `APIMethods` interface: every Telegram Bot API method", "mapped to its call signature"]
  | utils => ["Helper types for calling Telegram Bot API methods"]
  | index => ["Entry point re-exporting every generated module"]

def usage : Module → List String
  | objects =>
    ["import type \x7b TelegramUser \x7d from \"./objects\"",
     "",
     "const bot: TelegramUser = \x7b id: 1, is_bot: true, first_name: \"Bot\" \x7d"]
  | params =>
    ["import type \x7b SendMessageParams \x7d from \"./params\"",
     "",
     "const params: SendMessageParams = \x7b chat_id: 1, text: \"Hello\" \x7d"]
  | methods =>
    ["import type \x7b APIMethods \x7d from \"./methods\"",
     "",
     "declare const api: APIMethods",
     "const message = await api.sendMessage(\x7b chat_id: 1, text: \"Hello\" \x7d)"]
  | utils =>
    ["import type \x7b APIMethodParams, APIMethodReturn \x7d from \"./utils\"",
     "",
     "type Params = APIMethodParams<\"getUpdates\">",
     "type Updates = APIMethodReturn<\"getUpdates\">"]
  | index =>
    ["import type \x7b APIMethods, TelegramObjects, TelegramParams \x7d from \"./index\"",
     "",
     "type Chat = TelegramObjects.TelegramChat"]

def imports : Module → List String
  | objects =>
    ["import type \x7b APIMethods \x7d from \"./methods\"",
     "import type \x7b APIMethodReturn \x7d from \"./utils\""]
  | params => ["import type * as Objects from \"./objects\""]
  | methods =>
    ["import type * as Objects from \"./objects\"",
     "import type * as Params from \"./params\"",
     "import type \x7b CallAPI, CallAPIWithOptionalParams, CallAPIWithoutParams \x7d from \"./utils\""]
  | utils => ["import type \x7b APIMethods \x7d from \"./methods\""]
  | index => []

end Module

def utilsText : String :=
  joined "\n"
    ["/** A method that must be called with its params object */",
     "export type CallAPI<Params, Result> = (params: Params) => Promise<Result>",
     "",
     "/** A method whose params object may be omitted */",
     "export type CallAPIWithOptionalParams<Params, Result> = (params?: Params) => Promise<Result>",
     "",
     "/** A method that takes no params */",
     "export type CallAPIWithoutParams<Result> = () => Promise<Result>",
     "",
     "/**",
     " * Params object of the given method, `undefined` for methods without params",
     " *",
     " * @example",
     " * ```ts",
     " * type SendMessageParams = APIMethodParams<\"sendMessage\">",
     " * ```",
     " */",
     "export type APIMethodParams<Method extends keyof " ++ methodsInterface ++ "> = Parameters<" ++
       methodsInterface ++ "[Method]>[0]",
     "",
     "/**",
     " * Resolved result of the given method",
     " *",
     " * @example",
     " * ```ts",
     " * type Sent = APIMethodReturn<\"sendMessage\"> // " ++ standardLead ++ "Message",
     " * ```",
     " */",
     "export type APIMethodReturn<Method extends keyof " ++ methodsInterface ++
       "> = Awaited<ReturnType<" ++ methodsInterface ++ "[Method]>>"]

def exportedModules : List String := ["methods", "objects", "params", "utils"]

def indexText : String :=
  String.join (exportedModules.map fun name => "export * from \"./" ++ name ++ "\"\n") ++ "\n" ++
    "export * as " ++ standardLead ++ "Objects from \"./objects\"\n" ++
    "export * as " ++ standardLead ++ "Params from \"./params\""

def Module.body (m : Mapper) (s : Schema) : Module → String
  | objects => objectsText m s.objects
  | params => paramsText m s.methods
  | methods => methodsText m s.methods
  | utils => utilsText
  | index => indexText

def headerLine (line : String) : String := " * " ++ line ++ "\n"

def timeStamp : Option String → String
  | none => ""
  | some time => if time = "" then "" else " *\n" ++ headerLine ("Generated at " ++ time)

def Module.header (s : Schema) (generatedAt : Option String) (module : Module) : String :=
  "/**\n * @module\n *\n" ++ String.join (module.purpose.map headerLine) ++
    " *\n * @example\n * ```ts\n" ++ String.join (module.usage.map headerLine) ++ " * ```\n *\n" ++
    headerLine ("Based on Bot API v" ++ s.version.text ++ " (" ++ s.released.text ++ ")") ++
    timeStamp generatedAt ++ " */\n"

def Module.importBlock (module : Module) : String :=
  match module.imports with
  | [] => ""
  | lines => String.join (lines.map (· ++ "\n")) ++ "\n"

def Module.content (m : Mapper) (s : Schema) (generatedAt : Option String) (module : Module) :
    String :=
  module.header s generatedAt ++ "\n" ++ module.importBlock ++ module.body m s

structure GeneratedFile where
  path : String
  content : String
  deriving DecidableEq, Repr

def generate (s : Schema) (generatedAt : Option String) : List GeneratedFile :=
  Module.all.map fun module => ⟨module.fileName, module.content .standard s generatedAt⟩

end BotTypings
