import BotTypings.Text.Blank

/-! Documentation texts and the comment blocks they become. A block never holds a comment terminator
of its own: every one in a text is broken by a backslash. -/
namespace BotTypings.Documentation

open BotTypings.Text

/-- The lines of a comment for a text: trimmed as a whole and at the end of each line. A blank text
has none. -/
def linesOf (cs : List Char) : List (List Char) :=
  match trim cs with
  | [] => []
  | c :: rest => (pieces '\n' (c :: rest)).map trimEnd

def lines (text : String) : List String := (linesOf text.toList).map String.ofList

def link (url : String) : String := "[Documentation](" ++ url ++ ")"

def trimmed (text : String) : String := String.ofList (trim text.toList)

/-- A description and a link to the documentation, either of which may be missing. -/
def describe (description url : String) : String :=
  let text := trimmed description
  let target := trimmed url
  if target = "" then text
  else if text = "" then link target
  else text ++ "\n\n" ++ link target

/-- A text with every comment terminator broken. -/
def escapeChars : List Char → List Char
  | [] => []
  | '*' :: '/' :: rest => '*' :: '\\' :: '/' :: escapeChars rest
  | c :: rest => c :: escapeChars rest

def escape (line : String) : String := String.ofList (escapeChars line.toList)

/-- One line of a block; an empty one has no blank at its end. -/
def blockLine (indent line : String) : String :=
  indent ++ " *" ++ (if line = "" then "" else " " ++ escape line) ++ "\n"

/-- A comment block, nothing without lines. -/
def block (indent : String) (lines : List String) : String :=
  if lines.isEmpty then ""
  else indent ++ "/**\n" ++ String.join (lines.map (blockLine indent)) ++ indent ++ " */\n"

end BotTypings.Documentation
