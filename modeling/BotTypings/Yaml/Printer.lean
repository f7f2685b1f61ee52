import BotTypings.Json.Printer
import BotTypings.Text.Blank
import BotTypings.Yaml.Character
import BotTypings.Yaml.Resolve

/-! Values as block style YAML. Items of a list stand under their key without further indentation, and
a text is written plain whenever that is read back as the same text. Otherwise it is quoted, or, when
it holds line feeds, written as a literal block. Lines are never folded. -/
namespace BotTypings.Yaml

open BotTypings.Json BotTypings.Text

def isPrintable (c : Char) : Bool :=
  let n := c.toNat
  n == 0xA || (0x20 ≤ n && n ≤ 0x7E) || (0xA0 ≤ n && n != 0xFEFF && n != 0xFFFE && n != 0xFFFF)

def isIndicator (c : Char) : Bool := c ∈ "#,[]\x7b\x7d&*!|>'\"%@`".toList

def breaksPlain : List Char → Bool
  | [] => false
  | [c] => c == ':'
  | c :: d :: rest =>
    (c == ':' && isBlankOrBreak d) || (d == '#' && isBlankOrBreak c) || breaksPlain (d :: rest)

def startsSpecially (cs : List Char) : Bool :=
  match cs with
  | [] => true
  | c :: rest =>
    isIndicator c ||
    ((c == '-' || c == '?') && (match rest with
      | [] => true
      | d :: _ => isBlankOrBreak d)) ||
    startsWith cs "---".toList || startsWith cs "...".toList

def hasPair (p q : Char → Bool) : List Char → Bool
  | c :: d :: rest => (p c && q d) || hasPair p q (d :: rest)
  | _ => false

def isSpace (c : Char) : Bool := c == ' '

def startsWithBlank (cs : List Char) : Bool :=
  match cs with
  | [] => false
  | c :: _ => isSpace c || isBreak c

inductive Style where
  | plain
  | single
  | double
  | literal
  deriving DecidableEq, Repr

def needsEscapes (cs : List Char) : Bool :=
  !cs.all isPrintable || hasPair isSpace isBreak cs

def styleOf (s : String) : Style :=
  let cs := s.toList
  let last := cs.reverse
  if '\n' ∈ cs then
    if needsEscapes cs || (last.head?.any isSpace) then .double else .literal
  else if needsEscapes cs || hasPair isBreak isSpace cs then .double
  else if resolve s != .text || hasLeadingZero cs then .single
  else if startsSpecially cs || breaksPlain cs || cs.any isBreak || startsWithBlank cs ||
    startsWithBlank last then .single
  else .plain

def hexUpper (width n : Nat) : List Char := (hexPadded width n).map Char.toUpper

def escapedChar (c : Char) : List Char :=
  let n := c.toNat
  if c = '"' then ['\\', '"']
  else if c = '\\' then ['\\', '\\']
  else if isPrintable c && !isBreak c then [c]
  else if n = 0 then ['\\', '0']
  else if n = 7 then ['\\', 'a']
  else if n = 8 then ['\\', 'b']
  else if c = '\t' then ['\\', 't']
  else if c = '\n' then ['\\', 'n']
  else if n = 0xB then ['\\', 'v']
  else if n = 0xC then ['\\', 'f']
  else if c = '\r' then ['\\', 'r']
  else if n = 0x1B then ['\\', 'e']
  else if n = 0x85 then ['\\', 'N']
  else if n = 0x2028 then ['\\', 'L']
  else if n = 0x2029 then ['\\', 'P']
  else if n ≤ 0xFF then '\\' :: 'x' :: hexUpper 2 n
  else if n ≤ 0xFFFF then '\\' :: 'u' :: hexUpper 4 n
  else '\\' :: 'U' :: hexUpper 8 n

def blanks (n : Nat) : List Char := List.replicate n ' '

/-- Text whose lines behind a break are indented; `fresh` says whether a line has just begun. -/
def indented (indent : Nat) (fresh : Bool) : List Char → List Char
  | [] => []
  | c :: cs =>
    if isBreak c then c :: indented indent true cs
    else (if fresh then blanks indent else []) ++ c :: indented indent false cs

def doubledQuotes (cs : List Char) : List Char :=
  cs.flatMap fun c => if c = '\'' then ['\'', '\''] else [c]

/-- Which breaks at the end of a literal block belong to it, unless it is exactly one. -/
def chomping (cs : List Char) : List Char :=
  match cs.reverse with
  | [] => ['-']
  | [c] => if isBreak c then ['+'] else ['-']
  | c :: d :: _ => if isBreak c then (if isBreak d then ['+'] else []) else ['-']

/-- A literal block; an indentation hint keeps blanks at its start. -/
def literalBlock (indent : Nat) (cs : List Char) : List Char :=
  '|' :: ((if startsWithBlank cs then ['2'] else []) ++ chomping cs) ++ '\n' :: indented indent true cs

/-- The text of a scalar whose further lines stand at the given indentation. -/
def scalarText (indent : Nat) (s : String) : String :=
  let cs := s.toList
  String.ofList <|
    match styleOf s with
    | .plain => cs
    | .single =>
      let inner := indented indent false (doubledQuotes cs)
      let tail := if cs.reverse.head?.any isBreak then blanks indent else []
      '\'' :: inner ++ tail ++ ['\'']
    | .double => '"' :: cs.flatMap escapedChar ++ ['"']
    | .literal => literalBlock indent cs

/-- Ends the line that a text is on, unless the text has done so. -/
def endLine (text : String) : String :=
  if text.toList.reverse.head?.any isBreak then text else text ++ "\n"

def inlineText? (level : Nat) : Value → Option String
  | .null => some "null"
  | .bool b => some (if b then "true" else "false")
  | .integer n => some (toString n)
  | .float x => some (Decimal.compactText x)
  | .text s => some (scalarText (2 * level) s)
  | .list [] => some "[]"
  | .record [] => some "\x7b\x7d"
  | .list _ | .record _ => none

def indentation (level : Nat) : String := String.ofList (blanks (2 * level))

mutual

/-- The lines of a value at a level. A list under a key stays on the level of the key. -/
def lines (level : Nat) : Value → String
  | .list items => itemLines level items
  | .record members => memberLines level true members
  | v => endLine ((inlineText? level v).getD "")

/-- Items behind their dashes. The first line of an item shares the line of the dash. -/
def itemLines (level : Nat) : List Value → String
  | [] => ""
  | v :: vs =>
    indentation level ++ "- " ++
      (match inlineText? (level + 1) v with
        | some text => endLine text
        | none => nestedLines (level + 1) v) ++
      itemLines level vs

/-- A value whose first line has been begun, behind a dash. -/
def nestedLines (level : Nat) : Value → String
  | .list (v :: vs) =>
    "- " ++
      (match inlineText? (level + 1) v with
        | some text => endLine text
        | none => nestedLines (level + 1) v) ++
      itemLines level vs
  | .record members => memberLines level false members
  | _ => ""

/-- Members on lines of their own, the first one without indentation if its line has been begun. -/
def memberLines (level : Nat) (fresh : Bool) : List (String × Value) → String
  | [] => ""
  | (key, v) :: members =>
    (if fresh then indentation level else "") ++ scalarText (2 * (level + 1)) key ++ ":" ++
      (match v with
        | .list (w :: ws) => "\n" ++ itemLines level (w :: ws)
        | .record (m :: ms) => "\n" ++ memberLines (level + 1) true (m :: ms)
        | v => " " ++ endLine ((inlineText? (level + 1) v).getD "")) ++
      memberLines level true members

end

def document (v : Value) : String := lines 0 v

end BotTypings.Yaml
