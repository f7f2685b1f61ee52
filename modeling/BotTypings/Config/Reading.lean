import BotTypings.Config.Basic
import BotTypings.Decimal.Shortest
import BotTypings.Text.Blank
import BotTypings.Text.Quoted
import BotTypings.Yaml.Value

/-! Reading a configuration. Texts take any scalar as it is written; truth values and the optional file
look at what a plain scalar stands for. Unknown members are passed over, and what is left out or empty
has its default. The first wrong type in reading order is reported with the keys that lead to it. -/
namespace BotTypings

open BotTypings.Text BotTypings.Yaml

inductive ConfigError where
  | unreadable (reason : String)
  | mismatch (path : List String) (message : String)
  | repeatedKey (path : List String) (key : String)
  | broken (cause : Break)
  | moreDocuments
  deriving DecidableEq, Repr

def located (path : List String) (message : String) : String :=
  match path with
  | [] => message
  | keys => joined "." keys ++ ": " ++ message

def ConfigError.message : ConfigError → String
  | unreadable reason => "failed to read config " ++ Config.fileName ++ ": " ++ reason
  | mismatch path text => "failed to parse config " ++ Config.fileName ++ ": " ++ located path text
  | repeatedKey path key =>
    "failed to parse config " ++ Config.fileName ++ ": " ++
      located path ("duplicate field `" ++ key ++ "`")
  | broken .malformed => "failed to parse config " ++ Config.fileName ++ ": malformed document"
  | broken .unknownAnchor => "failed to parse config " ++ Config.fileName ++ ": unknown anchor"
  | moreDocuments =>
    "failed to parse config " ++ Config.fileName ++
      ": deserializing from YAML containing more than one document is not supported"

namespace Config

def describeResolved (text : String) : Resolved → String
  | .null => "unit value"
  | .bool b => "boolean `" ++ (if b then "true" else "false") ++ "`"
  | .integer n => "integer `" ++ toString n ++ "`"
  | .wide n => "integer `" ++ toString n ++ "` as " ++ (if n < 0 then "i128" else "u128")
  | .float x => "floating point `" ++ Decimal.plainText x ++ "`"
  | .text => "string " ++ quoted text

def scalarMismatch (s : Scalar) (wanted : String) : String :=
  match s.meaning with
  | .ok meaning => "invalid type: " ++ describeResolved s.text meaning ++ ", expected " ++ wanted
  | .error promise => "invalid value: string " ++ quoted s.text ++ ", expected " ++ promise

def refuse {α : Type} (d : Document) (path : List String) (wanted : String) :
    Node → Except ConfigError α
  | .scalar _ s => .error (.mismatch path (scalarMismatch s wanted))
  | .list .. => .error (.mismatch path ("invalid type: sequence, expected " ++ wanted))
  | .record .. => .error (.mismatch path ("invalid type: map, expected " ++ wanted))
  | .alias _ | .broken => .error (.broken d.cause)

def readText (d : Document) (path : List String) (wanted : String) (n : Node) :
    Except ConfigError String :=
  match d.resolve n with
  | .scalar _ s => .ok s.text
  | n => refuse d path wanted n

def readBool (d : Document) (path : List String) (n : Node) : Except ConfigError Bool :=
  match d.resolve n with
  | .scalar anchor s =>
    let readable :=
      s.form = .plain ∨ (s.form = .literal ∧ s.tag = some "tag:yaml.org,2002:bool")
    match bool? s.text with
    | some b => if readable then .ok b else refuse d path "a boolean" (.scalar anchor s)
    | none => refuse d path "a boolean" (.scalar anchor s)
  | n => refuse d path "a boolean" n

/-- A text that may be missing. A value tagged as nothing has to be nothing; the record around it is
blamed otherwise. -/
def readOptionalText (d : Document) (outer : List String) (key : String) (n : Node) :
    Except ConfigError (Option String) :=
  match d.resolve n with
  | .scalar _ s =>
    if s.form ≠ .plain then .ok (some s.text)
    else match s.tag with
      | none => .ok (if s.text = "" ∨ isNull s.text then none else some s.text)
      | some tag =>
        if tag ≠ "tag:yaml.org,2002:null" then .ok (some s.text)
        else if isNull s.text then .ok none
        else .error (.mismatch outer ("invalid value: string " ++ quoted s.text ++ ", expected null"))
  | n => refuse d (outer ++ [key]) "a string" n

structure Draft (α : Type) where
  value : α
  seen : List String

/-- Reads the members of a record one after the other. `known` are the keys that count, and `set`
reads the value of one of them, given the name by which a message knows it. -/
def readMembers {α : Type} (d : Document) (path known : List String)
    (set : α → String → String → Node → Except ConfigError α) (draft : Draft α) :
    List (Node × Node) → Except ConfigError α
  | [] => .ok draft.value
  | (k, n) :: rest => do
    let key ← readText d path "field identifier" k
    let shown := match k with
      | .scalar _ s => s.text
      | _ => "?"
    if key ∈ known then
      if key ∈ draft.seen then throw (.repeatedKey path key)
      let value ← set draft.value key shown n
      readMembers d path known set ⟨value, key :: draft.seen⟩ rest
    else if n.isWhole then readMembers d path known set draft rest
    else throw (.broken d.cause)

def readRecord {α : Type} (d : Document) (path known : List String) (wanted : String)
    (set : α → String → String → Node → Except ConfigError α) (standard : α) (n : Node) :
    Except ConfigError α :=
  match d.resolve n with
  | .record _ _ members => readMembers d path known set ⟨standard, []⟩ members
  | .scalar anchor s =>
    if s.form = .plain ∧ s.text = "" then .ok standard else refuse d path wanted (.scalar anchor s)
  | n => refuse d path wanted n

def readCurrencyConfig (d : Document) (path : List String) (n : Node) :
    Except ConfigError CurrencyConfig :=
  readRecord d path ["url", "file"] "struct CurrencyConfig"
    (fun c key shown n =>
      if key = "url" then do
        return { c with url := ← readText d (path ++ [shown]) "a string" n }
      else do
        return { c with file := ← readOptionalText d path shown n })
    .standard n

def ofNode (d : Document) (n : Node) : Except ConfigError Config :=
  readRecord d [] ["input", "output", "currencies", "format"] "struct TgtConfig"
    (fun c key shown n =>
      if key = "input" then do
        return { c with input := ← readText d [shown] "a string" n }
      else if key = "output" then do
        return { c with output := ← readText d [shown] "a string" n }
      else if key = "currencies" then do
        return { c with currencies := ← readCurrencyConfig d [shown] n }
      else do
        return { c with format := ← readBool d [shown] n })
    .standard n

/-- The configuration in a text. A text that is broken or holds more than one document is refused only
after its first document has been read. -/
def ofText (text : String) : Except ConfigError Config := do
  let d := Document.ofText text
  let config ← ofNode d d.root
  match d.ending with
  | .complete => return config
  | .more => throw .moreDocuments
  | .broken cause => throw (.broken cause)

end Config

end BotTypings
