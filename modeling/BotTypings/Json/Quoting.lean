import BotTypings.Json.Fault
import BotTypings.Text.Quoted

/-! Quoted texts. Scanning finds where a text ends and keeps escapes that name a UTF-16 unit as units;
decoding then joins pairs of units and refuses single ones. One who only skips over a text needs the
first step alone. -/
namespace BotTypings.Json

open BotTypings.Text (hexPadded)

inductive Piece where
  | char (c : Char)
  | unit (n : Nat)
  deriving DecidableEq, Repr

inductive TextBreak where
  | unterminated
  | badDigits
  | badLetter
  | control
  deriving DecidableEq, Repr

def TextBreak.fault : TextBreak → Fault
  | unterminated => .endOfText
  | badDigits | badLetter => .invalidEscape
  | control => .controlCharacter

def TextBreak.faultInPair : TextBreak → Fault
  | unterminated => .endOfText
  | badDigits => .invalidEscape
  | badLetter | control => .unpairedHigh

inductive Scanned where
  | closed (pieces : List Piece) (rest : List Char)
  | broken (pieces : List Piece) (why : TextBreak)
  deriving DecidableEq, Repr

def Scanned.cons (p : Piece) : Scanned → Scanned
  | closed ps rest => closed (p :: ps) rest
  | broken ps why => broken (p :: ps) why

def hexValue? (c : Char) : Option Nat :=
  if '0' ≤ c ∧ c ≤ '9' then some (c.toNat - 48)
  else if 'a' ≤ c ∧ c ≤ 'f' then some (c.toNat - 87)
  else if 'A' ≤ c ∧ c ≤ 'F' then some (c.toNat - 55)
  else none

def unit? (a b c d : Char) : Option Nat := do
  let a ← hexValue? a
  let b ← hexValue? b
  let c ← hexValue? c
  let d ← hexValue? d
  return ((a * 16 + b) * 16 + c) * 16 + d

def letterEscape? : Char → Option Char
  | '"' => some '"'
  | '\\' => some '\\'
  | '/' => some '/'
  | 'b' => some '\x08'
  | 'f' => some '\x0c'
  | 'n' => some '\n'
  | 'r' => some '\r'
  | 't' => some '\t'
  | _ => none

def byteCount : List Char → Nat
  | [] => 0
  | c :: cs => c.utf8Size + byteCount cs

/-- The text after an opening quote. Four hexadecimal digits are asked for as four bytes, so a longer
character among the last three still counts as wrong digits. -/
def scanText : List Char → Scanned
  | [] => .broken [] .unterminated
  | ['\\'] => .broken [] .unterminated
  | '\\' :: 'u' :: a :: b :: c :: d :: rest =>
    match unit? a b c d with
    | some n => (scanText rest).cons (.unit n)
    | none => .broken [] .badDigits
  | '\\' :: 'u' :: rest =>
    .broken [] (if byteCount rest < 4 then .unterminated else .badDigits)
  | '\\' :: e :: rest =>
    match letterEscape? e with
    | some c => (scanText rest).cons (.char c)
    | none => .broken [] .badLetter
  | '"' :: rest => .closed [] rest
  | c :: rest => if c.toNat < 0x20 then .broken [] .control else (scanText rest).cons (.char c)

def isHigh (n : Nat) : Bool := 0xD800 ≤ n && n ≤ 0xDBFF
def isLow (n : Nat) : Bool := 0xDC00 ≤ n && n ≤ 0xDFFF

/-- The characters of the pieces, or the fault of the first unit that is not part of a pair.
`atEnd` is what a first half says when nothing follows it. -/
def decodePieces (atEnd : Fault) : List Piece → Except Fault (List Char)
  | [] => .ok []
  | .char c :: rest => (decodePieces atEnd rest).map (c :: ·)
  | .unit n :: rest =>
    if isLow n then .error .unpairedLow
    else if isHigh n then
      match rest with
      | [] => .error atEnd
      | .unit m :: rest =>
        if isLow m then
          (decodePieces atEnd rest).map (Char.ofNat ((n - 0xD800) * 0x400 + (m - 0xDC00) + 0x10000) :: ·)
        else .error .unpairedLow
      | .char _ :: _ => .error .unpairedHigh
    else (decodePieces atEnd rest).map (Char.ofNat n :: ·)

def contentOf (pieces : List Piece) : Except Fault String :=
  (decodePieces .unpairedHigh pieces).map String.ofList

def breakOf (pieces : List Piece) (why : TextBreak) : Break :=
  match decodePieces why.faultInPair pieces with
  | .ok _ => .same why.fault
  | .error f => ⟨f, why.fault⟩

def encodeChar (c : Char) : List Char :=
  if c = '"' then ['\\', '"']
  else if c = '\\' then ['\\', '\\']
  else if c = '\x08' then ['\\', 'b']
  else if c = '\x0c' then ['\\', 'f']
  else if c = '\n' then ['\\', 'n']
  else if c = '\r' then ['\\', 'r']
  else if c = '\t' then ['\\', 't']
  else if c.toNat < 0x20 then ['\\', 'u'] ++ hexPadded 4 c.toNat
  else [c]

def encodeText (s : String) : String :=
  String.ofList ('"' :: s.toList.flatMap encodeChar ++ ['"'])

end BotTypings.Json
