/-! The characters that the format tells apart, and their places in a text. -/
namespace BotTypings.Yaml

def isBreak (c : Char) : Bool :=
  c == '\r' || c == '\n' || c.toNat == 0x85 || c.toNat == 0x2028 || c.toNat == 0x2029

def isBlank (c : Char) : Bool := c == ' ' || c == '\t'

def isBlankOrBreak (c : Char) : Bool := isBlank c || isBreak c

def isWordChar (c : Char) : Bool := c.isAlphanum || c == '_' || c == '-'

def isAllowed (c : Char) : Bool :=
  let n := c.toNat
  n == 0x9 || n == 0xA || n == 0xD || (0x20 ≤ n && n ≤ 0x7E) || n == 0x85 ||
  (0xA0 ≤ n && n ≤ 0xD7FF) || (0xE000 ≤ n && n ≤ 0xFFFD) || 0x10000 ≤ n

def isByteOrderMark (c : Char) : Bool := c.toNat == 0xFEFF

/-- A text in which every line ends in a line feed, or in one of the two Unicode separators, which
stay what they are. -/
def withLineFeeds : List Char → List Char
  | [] => []
  | '\r' :: '\n' :: rest => '\n' :: withLineFeeds rest
  | c :: rest => (if c = '\r' ∨ c.toNat = 0x85 then '\n' else c) :: withLineFeeds rest

structure Place where
  line : Nat
  column : Nat
  deriving DecidableEq, Repr

def Place.after (p : Place) (c : Char) : Place :=
  if isBreak c then ⟨p.line + 1, 0⟩ else ⟨p.line, p.column + 1⟩

structure Cell where
  char : Char
  place : Place
  deriving Repr

def cellsFrom (p : Place) : List Char → List Cell
  | [] => []
  | c :: cs => ⟨c, p⟩ :: cellsFrom (p.after c) cs

def endFrom (p : Place) (cs : List Char) : Place := cs.foldl Place.after p

def opensBlank : List Cell → Bool
  | [] => true
  | c :: _ => isBlankOrBreak c.char

def comesNext (c : Char) : List Cell → Bool
  | [] => false
  | d :: _ => d.char == c

def opensDocumentMark (mark : Char) : List Cell → Bool
  | a :: b :: c :: rest =>
    a.place.column == 0 && a.char == mark && b.char == mark && c.char == mark && opensBlank rest
  | _ => false

def isAtDocumentMark (cells : List Cell) : Bool :=
  opensDocumentMark '-' cells || opensDocumentMark '.' cells

end BotTypings.Yaml
