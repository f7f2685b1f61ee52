import BotTypings.Yaml.ScalarText
import BotTypings.Yaml.Tag

/-! The tokens of a YAML text. Indentation opens and closes blocks, and something that may turn out to
be a key holds back the tokens from there on until a colon, the end of its line or its length decides.
Where the text breaks, the tokens held back are lost. -/
namespace BotTypings.Yaml

structure PossibleKey where
  place : Place
  number : Nat
  required : Bool
  deriving Repr

def longestKey : Nat := 1024

/-- A key has to end on its line, and soon. -/
def PossibleKey.isLive (k : PossibleKey) (p : Place) : Bool :=
  k.place.line == p.line && p.column ≤ k.place.column + longestKey

structure State where
  rest : List Cell
  ending : Place
  indent : Int
  outerIndents : List Int
  key : Option PossibleKey
  outerKeys : List (Option PossibleKey)
  keyAllowed : Bool
  produced : List Token

def State.start (cells : List Cell) (ending : Place) : State :=
  ⟨cells, ending, -1, [], none, [], true, []⟩

namespace State

def isFlow (s : State) : Bool := !s.outerKeys.isEmpty

def here (s : State) : Place :=
  match s.rest with
  | [] => s.ending
  | c :: _ => c.place

def column (s : State) : Int := s.here.column

def emit (t : Token) (s : State) : State := { s with produced := t :: s.produced }

def emitAt (number : Nat) (t : Token) (s : State) : State :=
  let later := s.produced.length - number
  { s with produced := s.produced.take later ++ t :: s.produced.drop later }

def released (s : State) : List Token :=
  let live := (s.key :: s.outerKeys).filterMap fun key => key.filter (·.isLive s.here)
  s.produced.reverse.take ((live.map (·.number)).foldl min s.produced.length)

/-- Gives up a possible key; one that is required breaks the text. -/
def forget (key : Option PossibleKey) : Option (Option PossibleKey) :=
  match key with
  | some k => if k.required then none else some none
  | none => some none

def dropKey (s : State) : Option State :=
  (forget s.key).map fun key => { s with key }

def dropStale (s : State) : Option State := do
  let check (key : Option PossibleKey) : Option (Option PossibleKey) :=
    if key.any (!·.isLive s.here) then forget key else some key
  let key ← check s.key
  let outerKeys ← s.outerKeys.mapM check
  return { s with key, outerKeys }

/-- Remembers this place as the possible start of a key, if keys are allowed here. -/
def saveKey (s : State) : Option State :=
  if s.keyAllowed then
    (forget s.key).map fun _ =>
      { s with key := some ⟨s.here, s.produced.length, !s.isFlow && s.indent == s.column⟩ }
  else some s

def allowKey (allowed : Bool) (s : State) : State := { s with keyAllowed := allowed }

def unrollFrom (column indent : Int) (produced : List Token) : List Int → Int × List Int × List Token
  | [] => (indent, [], produced)
  | outer :: outers =>
    if column < indent then unrollFrom column outer (.closeBlock :: produced) outers
    else (indent, outer :: outers, produced)

def unroll (column : Int) (s : State) : State :=
  if s.isFlow then s
  else
    let (indent, outerIndents, produced) := unrollFrom column s.indent s.produced s.outerIndents
    { s with indent, outerIndents, produced }

/-- Opens a block at a column that is indented deeper than the current one; the block's token comes
before those from a number on. -/
def roll (column : Int) (number : Nat) (t : Token) (s : State) : State :=
  if s.isFlow || column ≤ s.indent then s
  else emitAt number t { s with indent := column, outerIndents := s.indent :: s.outerIndents }

def skip (count : Nat) (s : State) : State := { s with rest := s.rest.drop count }

/-- The cells from the next token on, and whether a key may start there. Tabs are blanks between
brackets and where no key may start. -/
def gapToToken (flow keyAllowed comment : Bool) : List Cell → Bool × List Cell
  | [] => (keyAllowed, [])
  | c :: rest =>
    if isBreak c.char then gapToToken flow (keyAllowed || !flow) false rest
    else if comment || c.char == ' ' || (c.char == '\t' && (flow || !keyAllowed)) ||
      (c.place.column == 0 && isByteOrderMark c.char) then gapToToken flow keyAllowed comment rest
    else if c.char == '#' then gapToToken flow keyAllowed true rest
    else (keyAllowed, c :: rest)

def toToken (s : State) : State :=
  let (keyAllowed, rest) := gapToToken s.isFlow s.keyAllowed false s.rest
  { s with keyAllowed, rest }

def finish (s : State) : Option State := do
  let s ← (s.unroll (-1)).dropKey
  return s.emit .endOfText

def directive (s : State) : Option State := do
  let s ← (s.unroll (-1)).dropKey
  let (token, rest) ← directiveToken (s.rest.drop 1)
  let rest ← restOfLine rest
  return { s.emit token with rest, keyAllowed := false }

def documentMark (t : Token) (s : State) : Option State := do
  let s ← (s.unroll (-1)).dropKey
  return (s.emit t).skip 3 |>.allowKey false

def openBracket (t : Token) (s : State) : Option State := do
  let s ← s.saveKey
  return (({ s with key := none, outerKeys := s.key :: s.outerKeys }).emit t).skip 1 |>.allowKey true

def closeBracket (t : Token) (s : State) : Option State := do
  let s ← s.dropKey
  let s := match s.outerKeys with
    | [] => s
    | key :: outerKeys => { s with key, outerKeys }
  return (s.emit t).skip 1 |>.allowKey false

def comma (s : State) : Option State := do
  let s ← s.dropKey
  return (s.emit .comma).skip 1 |>.allowKey true

/-- A dash or question mark, or a colon behind no simple key, that opens a block where none is open
at its column. -/
def openingMark (opening t : Token) (s : State) : Option State := do
  if !s.isFlow && !s.keyAllowed then none
  let s ← (s.roll s.column s.produced.length opening).dropKey
  return (s.emit t).skip 1

def itemMark (s : State) : Option State :=
  if s.isFlow then s.dropKey.map fun s => (s.emit .item).skip 1 |>.allowKey true
  else (s.openingMark .openBlockList .item).map (allowKey true)

def keyMark (s : State) : Option State :=
  (s.openingMark .openBlockRecord .key).map fun s => s.allowKey (!s.isFlow)

def valueMark (s : State) : Option State :=
  match s.key with
  | some k =>
    let s := (s.emitAt k.number .key).roll k.place.column k.number .openBlockRecord
    some (({ s with key := none }).emit .value |>.skip 1 |>.allowKey false)
  | none => (s.openingMark .openBlockRecord .value).map fun s => s.allowKey (!s.isFlow)

def named (make : String → Token) (s : State) : Option State := do
  let s ← s.saveKey
  let (name, rest) ← anchorName (s.rest.drop 1)
  return { s.emit (make name) with rest, keyAllowed := false }

def tagged (s : State) : Option State := do
  let s ← s.saveKey
  let (token, rest) ← tagToken s.isFlow s.rest
  return { s.emit token with rest, keyAllowed := false }

def block (folded : Bool) (s : State) : Option State := do
  let s ← s.dropKey
  let (text, rest) ← blockText folded s.indent (s.rest.drop 1)
  let form := if folded then Form.other else .literal
  return { s.emit (.scalar (String.ofList text) form) with rest, keyAllowed := true }

def quotedScalar (read : List Cell → Option (List Char × List Cell)) (s : State) :
    Option State := do
  let s ← s.saveKey
  let (text, rest) ← read (s.rest.drop 1)
  return { s.emit (.scalar (String.ofList text) .other) with rest, keyAllowed := false }

def plain (s : State) : Option State := do
  let s ← s.saveKey
  let found ← plainText s.isFlow (s.indent + 1) .empty [] s.rest
  let token := Token.scalar (String.ofList found.text) .plain
  return { s.emit token with rest := found.rest, keyAllowed := found.endsLine }

def startsPlain (flow : Bool) (c : Char) (rest : List Cell) : Bool :=
  (!isBlankOrBreak c && !(c ∈ "-?:,[]\x7b\x7d#&*!|>'\"%@`".toList)) ||
  (c == '-' && !rest.head?.any (isBlank ·.char)) ||
  (!flow && (c == '?' || c == ':') && !opensBlank rest)

def token (c : Cell) (rest : List Cell) (s : State) : Option State :=
  let flow := s.isFlow
  if c.place.column = 0 ∧ c.char = '%' then s.directive
  else if opensDocumentMark '-' s.rest then s.documentMark .documentStart
  else if opensDocumentMark '.' s.rest then s.documentMark .documentEnd
  else if c.char = '[' then s.openBracket .openList
  else if c.char = '{' then s.openBracket .openRecord
  else if c.char = ']' then s.closeBracket .closeList
  else if c.char = '}' then s.closeBracket .closeRecord
  else if c.char = ',' then s.comma
  else if c.char = '-' && opensBlank rest then s.itemMark
  else if c.char = '?' && (flow || opensBlank rest) then s.keyMark
  else if c.char = ':' && (flow || opensBlank rest) then s.valueMark
  else if c.char = '*' then s.named .alias
  else if c.char = '&' then s.named .anchor
  else if c.char = '!' then s.tagged
  else if c.char = '|' && !flow then s.block false
  else if c.char = '>' && !flow then s.block true
  else if c.char = '\'' then s.quotedScalar (singleQuoted .empty [])
  else if c.char = '"' then s.quotedScalar (doubleQuoted (.text .empty) [])
  else if startsPlain flow c.char rest then s.plain
  else none

/-- One token more, and sometimes the ends of blocks before it. Nothing is left once the text has
ended, nothing comes where it breaks. -/
def next (s : State) : Option (State × Bool) := do
  let s ← s.toToken.dropStale
  let s := s.unroll s.column
  match s.rest with
  | [] => return (← s.finish, true)
  | c :: rest => return (← s.token c rest, false)

def run (s : State) : List Token :=
  match s.next with
  | none => s.released
  | some (t, ended) =>
    if ended then t.produced.reverse
    else if t.rest.length < s.rest.length then t.run
    else t.released
  termination_by s.rest.length

end State

/-- The tokens of a text. A text with a character that is not allowed has none. -/
def tokens (cs : List Char) : List Token :=
  if cs.all isAllowed then
    let cs := withLineFeeds cs
    (State.start (cellsFrom ⟨0, 0⟩ cs) (endFrom ⟨0, 0⟩ cs)).run
  else []

end BotTypings.Yaml
