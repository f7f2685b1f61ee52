import BotTypings.Json.Quoting
import BotTypings.Yaml.Character

/-! The texts of scalars: plain, quoted, and in blocks. Each reader gives the text and what is left
behind it, or nothing where the text is broken. -/
namespace BotTypings.Yaml

open BotTypings.Json

/-- Blanks and breaks between two other characters of a scalar. Blanks after the first break do not
count. -/
structure Gap where
  blanks : List Char
  /-- The first break, if there was one; an escaped break leaves nothing. -/
  first : Option (List Char)
  others : List Char

def Gap.empty : Gap := ⟨[], none, []⟩

def Gap.escaped : Gap := ⟨[], some [], []⟩

def Gap.hasBreak (g : Gap) : Bool := g.first.isSome

def Gap.add (g : Gap) (c : Char) : Gap :=
  if isBreak c then
    match g.first with
    | some _ => { g with others := g.others ++ [c] }
    | none => ⟨[], some [c], g.others⟩
  else
    match g.first with
    | some _ => g
    | none => { g with blanks := g.blanks ++ [c] }

/-- What a gap stands for: a single line feed becomes a blank, further breaks stay. -/
def Gap.text (g : Gap) : List Char :=
  match g.first with
  | none => g.blanks
  | some ['\n'] => if g.others.isEmpty then [' '] else g.others
  | some first => first ++ g.others

def grown (soFar part : List Char) : List Char := part.reverse ++ soFar

structure PlainText where
  text : List Char
  rest : List Cell
  endsLine : Bool

def isFlowIndicator (c : Char) : Bool := c ∈ ",[]\x7b\x7d".toList

/-- A plain scalar ends at a colon before a blank, inside brackets at commas and brackets too, behind
a gap at a comment, a document mark or a line that is not indented. Inside brackets a colon right
before an indicator breaks the text, and so does a tab in the indentation. `soFar` is the text up to here,
its last character first, as in the readers below. -/
def plainText (flow : Bool) (indent : Int) (gap : Gap) (soFar : List Char) :
    List Cell → Option PlainText
  | [] => some ⟨soFar.reverse, [], gap.hasBreak⟩
  | c :: rest =>
    if isBlankOrBreak c.char then
      if gap.hasBreak && (c.place.column : Int) < indent && c.char == '\t' then none
      else plainText flow indent (gap.add c.char) soFar rest
    else
      let fresh := soFar.isEmpty || gap.hasBreak || !gap.blanks.isEmpty
      let ended :=
        (gap.hasBreak && !flow && (c.place.column : Int) < indent) ||
        (fresh && (c.char == '#' || isAtDocumentMark (c :: rest)))
      if ended then some ⟨soFar.reverse, c :: rest, gap.hasBreak⟩
      else if flow && c.char == ':' && rest.head?.any (fun d => d.char == '?' || isFlowIndicator d.char)
      then none
      else if (c.char == ':' && opensBlank rest) || (flow && isFlowIndicator c.char) then
        some ⟨soFar.reverse, c :: rest, gap.hasBreak⟩
      else plainText flow indent .empty (c.char :: grown soFar gap.text) rest

def singleQuoted (gap : Gap) (soFar : List Char) : List Cell → Option (List Char × List Cell)
  | [] => none
  | c :: rest =>
    if isBlankOrBreak c.char then singleQuoted (gap.add c.char) soFar rest
    else if isAtDocumentMark (c :: rest) then none
    else if c.char = '\'' then
      match rest with
      | d :: left =>
        if d.char = '\'' then singleQuoted .empty ('\'' :: grown soFar gap.text) left
        else some ((grown soFar gap.text).reverse, d :: left)
      | [] => some ((grown soFar gap.text).reverse, [])
    else singleQuoted .empty (c.char :: grown soFar gap.text) rest

def escapeLetter? (c : Char) : Option Char :=
  match c with
  | '0' => some (Char.ofNat 0)
  | 'a' => some (Char.ofNat 7)
  | 'b' => some (Char.ofNat 8)
  | 't' => some '\t'
  | '\t' => some '\t'
  | 'n' => some '\n'
  | 'v' => some (Char.ofNat 0xB)
  | 'f' => some (Char.ofNat 0xC)
  | 'r' => some '\r'
  | 'e' => some (Char.ofNat 0x1B)
  | ' ' => some ' '
  | '"' => some '"'
  | '/' => some '/'
  | '\\' => some '\\'
  | 'N' => some (Char.ofNat 0x85)
  | '_' => some (Char.ofNat 0xA0)
  | 'L' => some (Char.ofNat 0x2028)
  | 'P' => some (Char.ofNat 0x2029)
  | _ => none

def escapeWidth? (c : Char) : Option Nat :=
  match c with
  | 'x' => some 2
  | 'u' => some 4
  | 'U' => some 8
  | _ => none

inductive QuotedPhase where
  | text (gap : Gap)
  | escape
  | digits (left value : Nat)

/-- A text in double quotes. A backslash escapes a character, or a line break with the blanks behind
it. -/
def doubleQuoted (phase : QuotedPhase) (soFar : List Char) :
    List Cell → Option (List Char × List Cell)
  | [] => none
  | c :: rest =>
    match phase with
    | .text gap =>
      if isBlankOrBreak c.char then doubleQuoted (.text (gap.add c.char)) soFar rest
      else if isAtDocumentMark (c :: rest) then none
      else if c.char = '"' then some ((grown soFar gap.text).reverse, rest)
      else if c.char = '\\' then doubleQuoted .escape (grown soFar gap.text) rest
      else doubleQuoted (.text .empty) (c.char :: grown soFar gap.text) rest
    | .escape =>
      if isBreak c.char then doubleQuoted (.text .escaped) soFar rest
      else match escapeLetter? c.char, escapeWidth? c.char with
        | some d, _ => doubleQuoted (.text .empty) (d :: soFar) rest
        | none, some width => doubleQuoted (.digits width 0) soFar rest
        | none, none => none
    | .digits left value =>
      match hexValue? c.char with
      | none => none
      | some digit =>
        let value := value * 16 + digit
        if left ≤ 1 then
          if value.isValidChar then doubleQuoted (.text .empty) (Char.ofNat value :: soFar) rest
          else none
        else doubleQuoted (.digits (left - 1) value) soFar rest

inductive Chomping where
  | strip
  | clip
  | keep
  deriving DecidableEq, Repr

def takeChomping : List Cell → Option Chomping × List Cell
  | [] => (none, [])
  | c :: rest =>
    if c.char = '+' then (some .keep, rest)
    else if c.char = '-' then (some .strip, rest)
    else (none, c :: rest)

/-- An indentation of one digit, zero for none given; a written zero breaks the text. -/
def takeIncrement : List Cell → Option (Nat × List Cell)
  | [] => some (0, [])
  | c :: rest =>
    if c.char = '0' then none
    else if c.char.isDigit then some (c.char.toNat - '0'.toNat, rest)
    else some (0, c :: rest)

def restOfLine (cells : List Cell) : Option (List Cell) :=
  let cells := cells.dropWhile (isBlank ·.char)
  let cells := if comesNext '#' cells then cells.dropWhile (!isBreak ·.char) else cells
  match cells with
  | [] => some []
  | c :: rest => if isBreak c.char then some rest else none

/-- Empty lines and indentation before a line of a block. While the indentation is not known, `indent`
is zero and the widest line so far is remembered. A tab in the indentation breaks the text. -/
def blockGap (indent widest : Nat) : List Cell → Option (List Char × Nat × List Cell)
  | [] => some ([], widest, [])
  | c :: rest =>
    let inside := indent == 0 || c.place.column < indent
    if inside && c.char == ' ' then blockGap indent widest rest
    else if inside && c.char == '\t' then none
    else
      let widest := max widest c.place.column
      if isBreak c.char then
        (blockGap indent widest rest).map fun (breaks, found) => (c.char :: breaks, found)
      else some ([], widest, c :: rest)

/-- The lines of a block from the start of one of them. `first` is the break before it, `others` the
breaks of empty lines behind that one. In a folded block a line feed between two lines that do not
start with a blank becomes a blank, or nothing when empty lines follow. -/
def blockLines (folded : Bool) (indent : Nat) (first others : List Char) (afterBlank : Bool)
    (soFar : List Char) (cells : List Cell) :
    Option (List Char × List Char × List Char × List Cell) :=
  match cells with
  | [] => some (soFar.reverse, first, others, [])
  | c :: tail =>
    if c.place.column ≠ indent then some (soFar.reverse, first, others, c :: tail)
    else
      let startsBlank := isBlank c.char
      let joint :=
        if folded && first == ['\n'] && !afterBlank && !startsBlank then
          if others.isEmpty then [' '] else []
        else first
      let line := c :: tail.takeWhile (!isBreak ·.char)
      let soFar := grown soFar (joint ++ others ++ line.map (·.char))
      match tail.dropWhile (!isBreak ·.char) with
      | [] => some (soFar.reverse, [], [], [])
      | b :: behind =>
        match blockGap indent 0 behind with
        | none => none
        | some (breaks, _, rest) =>
          if rest.length ≤ tail.length then
            blockLines folded indent [b.char] breaks startsBlank soFar rest
          else none
  termination_by cells.length
  decreasing_by simp only [List.length_cons]; omega

/-- A block behind its bar or angle; `parent` is the indentation of what holds it. -/
def blockText (folded : Bool) (parent : Int) (cells : List Cell) :
    Option (List Char × List Cell) := do
  let (chomping, cells) := takeChomping cells
  let (increment, cells) ← takeIncrement cells
  let (chomping, cells) := match chomping with
    | some _ => (chomping, cells)
    | none => takeChomping cells
  let cells ← restOfLine cells
  let known := if increment = 0 then 0 else max parent 0 + increment
  let (breaks, widest, cells) ← blockGap known.toNat 0 cells
  let indent := if increment = 0 then max (widest : Int) (max (parent + 1) 1) else known
  let (text, first, others, rest) ← blockLines folded indent.toNat [] breaks false [] cells
  match chomping.getD .clip with
  | .strip => return (text, rest)
  | .clip => return (text ++ first, rest)
  | .keep => return (text ++ first ++ others, rest)

end BotTypings.Yaml
