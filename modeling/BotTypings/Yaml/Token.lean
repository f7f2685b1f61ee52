/-! What a YAML text is made of, once characters are read. -/
namespace BotTypings.Yaml

inductive Form where
  | plain
  | literal
  | other
  deriving DecidableEq, Repr

inductive Token where
  | version (major minor : Nat)
  | handle (name lead : String)
  | documentStart
  | documentEnd
  | openBlockList
  | openBlockRecord
  | closeBlock
  | openList
  | closeList
  | openRecord
  | closeRecord
  | item
  | comma
  | key
  | value
  | alias (name : String)
  | anchor (name : String)
  | tag (handle rest : String)
  | scalar (text : String) (form : Form)
  | endOfText
  deriving DecidableEq, Repr

end BotTypings.Yaml
