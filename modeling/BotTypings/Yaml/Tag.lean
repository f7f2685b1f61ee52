import BotTypings.Json.Numeral
import BotTypings.Json.Quoting
import BotTypings.Yaml.Character
import BotTypings.Yaml.Token

/-! Anchors, tags and directives. A tag is kept as the octets that it stands for. -/
namespace BotTypings.Yaml

open BotTypings.Json

def charsOf (cells : List Cell) : List Char := cells.map (·.char)

def takeWord (cells : List Cell) : List Char × List Cell :=
  (charsOf (cells.takeWhile (isWordChar ·.char)), cells.dropWhile (isWordChar ·.char))

/-- The name of an anchor or alias, which only some characters may follow. -/
def anchorName (cells : List Cell) : Option (String × List Cell) :=
  let (name, rest) := takeWord cells
  let ended := opensBlank rest || rest.head?.any (fun c => c.char ∈ "?:,]\x7d%@`".toList)
  if name.isEmpty || !ended then none else some (String.ofList name, rest)

def isTagChar (verbatim : Bool) (c : Char) : Bool :=
  isWordChar c || c ∈ ";/?:@&=+$.!~*'()".toList || (verbatim && c ∈ ",[]".toList)

def sequenceLength? (octet : Nat) : Option Nat :=
  if octet < 0x80 then some 1
  else if 0xC0 ≤ octet ∧ octet < 0xE0 then some 2
  else if 0xE0 ≤ octet ∧ octet < 0xF0 then some 3
  else if 0xF0 ≤ octet ∧ octet < 0xF8 then some 4
  else none

/-- The rest of a tag. Escaped octets have to make up whole characters; `missing` counts the octets
that the current character still needs. -/
def tagRest (verbatim : Bool) (missing : Nat) : List Cell → Option (List Char × List Cell)
  | [] => if missing = 0 then some ([], []) else none
  | c :: rest =>
    if c.char = '%' then
      match rest with
      | a :: b :: left => do
        let high ← hexValue? a.char
        let low ← hexValue? b.char
        let octet := 16 * high + low
        let missing ←
          if missing = 0 then (sequenceLength? octet).map (· - 1)
          else if 0x80 ≤ octet ∧ octet < 0xC0 then some (missing - 1)
          else none
        let (octets, left) ← tagRest verbatim missing left
        return (Char.ofNat octet :: octets, left)
      | _ => none
    else if missing ≠ 0 then none
    else if isTagChar verbatim c.char then
      (tagRest verbatim 0 rest).map fun (octets, left) => (c.char :: octets, left)
    else some ([], c :: rest)

def tagHandle : List Cell → Option (List Char × List Cell)
  | [] => none
  | c :: cells =>
    if c.char = '!' then
      let (name, rest) := takeWord cells
      match rest with
      | d :: left =>
        if d.char = '!' then some ('!' :: name ++ ['!'], left) else some ('!' :: name, d :: left)
      | [] => some ('!' :: name, [])
    else none

def verbatimTag (cells : List Cell) : Option (Token × List Cell) := do
  let (octets, rest) ← tagRest true 0 cells
  if octets.isEmpty then none
  match rest with
  | c :: left => if c.char = '>' then some (.tag "" (String.ofList octets), left) else none
  | [] => none

/-- A tag behind a handle, or one that has no handle but its mark. A mark alone is a tag of its own. -/
def shortTag (cells : List Cell) : Option (Token × List Cell) := do
  let (handle, rest) ← tagHandle cells
  if handle.length > 1 && handle.getLast? == some '!' then
    let (octets, left) ← tagRest false 0 rest
    if octets.isEmpty then none else some (.tag (String.ofList handle) (String.ofList octets), left)
  else
    let (octets, left) ← tagRest false 0 rest
    match handle.drop 1 ++ octets with
    | [] => some (.tag "" "!", left)
    | octets => some (.tag "!" (String.ofList octets), left)

def tagToken (flow : Bool) (cells : List Cell) : Option (Token × List Cell) := do
  let (token, rest) ←
    match cells with
    | _ :: c :: rest => if c.char = '<' then verbatimTag rest else shortTag cells
    | cells => shortTag cells
  if opensBlank rest || (flow && comesNext ',' rest) then some (token, rest) else none

def dropBlanks (cells : List Cell) : List Cell := cells.dropWhile (isBlank ·.char)

def versionNumber (cells : List Cell) : Option (Nat × List Cell) :=
  let digits := charsOf (cells.takeWhile (·.char.isDigit))
  if digits.isEmpty || 9 < digits.length then none
  else some (naturalOf digits, cells.dropWhile (·.char.isDigit))

def versionToken (cells : List Cell) : Option (Token × List Cell) := do
  let (major, rest) ← versionNumber (dropBlanks cells)
  if !comesNext '.' rest then none
  let (minor, rest) ← versionNumber (rest.drop 1)
  return (.version major minor, rest)

def handleToken (cells : List Cell) : Option (Token × List Cell) := do
  let (handle, rest) ← tagHandle (dropBlanks cells)
  if handle.length > 1 && handle.getLast? != some '!' then none
  if !rest.head?.any (isBlank ·.char) then none
  let (octets, rest) ← tagRest true 0 (dropBlanks rest)
  if octets.isEmpty || !opensBlank rest then none
  return (.handle (String.ofList handle) (String.ofList octets), rest)

def directiveToken (cells : List Cell) : Option (Token × List Cell) := do
  let (name, rest) := takeWord cells
  if !opensBlank rest then none
  let (token, rest) ←
    if name = "YAML".toList then versionToken rest
    else if name = "TAG".toList then handleToken rest
    else none
  return (token, rest)

end BotTypings.Yaml
