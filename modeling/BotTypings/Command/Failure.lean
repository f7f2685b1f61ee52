import BotTypings.Config.Reading
import BotTypings.Currency
import BotTypings.FileTree.Basic
import BotTypings.Patch.Basic
import BotTypings.Schema.Loading

/-! Why a command fails, and how the failure is told: the outermost reason first, then what caused it,
step by step. -/
namespace BotTypings

open BotTypings.Text

def PatchError.reasons : PatchError → List String
  | .step patch source => (PatchError.step patch source).message :: source.reasons
  | e => [e.message]

def LoadError.reasons : LoadError → List String
  | .json e => [(LoadError.json e).message, e.message]
  | .repeatedName kind name => [(LoadError.repeatedName kind name).message]

def CurrencyError.reasons : CurrencyError → List String
  | .json f => [(CurrencyError.json f).message, f.message]
  | .unsupportedShape => [CurrencyError.unsupportedShape.message]

namespace Command

inductive Failure where
  | config (e : ConfigError)
  | reading (path : String) (e : FileError)
  | schema (path : String) (e : LoadError)
  | fetching (url : String) (reasons : List String)
  | currencies (e : CurrencyError)
  | patch (e : PatchError)
  | outputDirectory (path : String) (e : FileError)
  | directory (path : String) (e : FileError)
  | writing (path : String) (e : FileError)
  | configExists
  | configUnwritable (e : FileError)
  deriving DecidableEq, Repr

/-- The reasons of a failure, the outermost first. -/
def Failure.reasons : Failure → List String
  | config e => [e.message]
  | reading path e => ["failed to read " ++ path, e.message]
  | schema path e => ("failed to parse schema " ++ path) :: e.reasons
  | fetching url reasons => ("HTTP request to '" ++ url ++ "' failed") :: reasons
  | currencies e => "invalid currency list" :: e.reasons
  | patch e => e.reasons
  | outputDirectory path e => ["failed to create output directory " ++ path, e.message]
  | directory path e => ["failed to create directory " ++ path, e.message]
  | writing path e => ["failed to write " ++ path, e.message]
  | configExists => [Config.fileName ++ " already exists. Use --force to overwrite."]
  | configUnwritable e => [e.message]

def markedLines (mark indent reason : String) : List String :=
  match (pieces '\n' reason.toList).map String.ofList with
  | [] => [mark]
  | line :: lines => (mark ++ line) :: lines.map (indent ++ ·)

def numberMark (n : Nat) : String :=
  let digits := toString n
  String.ofList (List.replicate (5 - digits.length) ' ') ++ digits ++ ": "

def numberedLines (n : Nat) : List String → List String
  | [] => []
  | reason :: rest => markedLines (numberMark n) "       " reason ++ numberedLines (n + 1) rest

/-- The causes below the outermost reason; a single one has no number. -/
def causeLines : List String → List String
  | [] => []
  | [reason] => "" :: "Caused by:" :: markedLines "    " "    " reason
  | reasons => "" :: "Caused by:" :: numberedLines 0 reasons

def Failure.report (f : Failure) : List String :=
  match f.reasons with
  | [] => []
  | reason :: rest => markedLines "Error: " "" reason ++ causeLines rest

end Command

end BotTypings
