import BotTypings.Text.Alphabet
import BotTypings.Text.LetterCase

/-! Identifier casing. A name is cut into words at everything that is neither a letter nor a number,
and inside such a piece where a capital follows a small letter, or where a run of capitals meets a
small letter. Casing then only changes the first and the other letters of each word. -/
namespace BotTypings.Text

inductive Letters where
  | none
  | small
  | capital
  deriving DecidableEq, Repr

def Letters.after (seen : Letters) (c : Char) : Letters :=
  if isLowercase c then .small else if isUppercase c then .capital else seen

def putFirst (c : Char) : List (List Char) → List (List Char)
  | [] => [[c]]
  | word :: rest => (c :: word) :: rest

/-- The words of a piece, the first one being what is left of the word under way. A word ends after a
small letter (numbers behind it included) that a capital follows, and before a capital that ends a run of
capitals and that a small letter follows. The character that opens a word after a cut of the second kind
leaves no trace in `seen`. -/
def wordsOfPiece (seen : Letters) : List Char → List (List Char)
  | [] => []
  | [c] => [[c]]
  | c :: next :: rest =>
    if seen.after c = .small ∧ isUppercase next then
      [c] :: wordsOfPiece .none (next :: rest)
    else if seen = .capital ∧ isUppercase c ∧ isLowercase next then
      [] :: putFirst c (wordsOfPiece .none (next :: rest))
    else
      putFirst c (wordsOfPiece (seen.after c) (next :: rest))

def alphanumericRuns : List Char → List (List Char)
  | [] => [[]]
  | c :: cs =>
    if isAlphanumeric c then putFirst c (alphanumericRuns cs)
    else [] :: alphanumericRuns cs

def words (name : List Char) : List (List Char) :=
  (alphanumericRuns name).flatMap (wordsOfPiece .none)

/-- A word in small letters; a sigma that ends it takes its final form. -/
def lowerWord : List Char → List Char
  | [] => []
  | ['Σ'] => ['ς']
  | c :: cs => lower c ++ lowerWord cs

def capitalWord : List Char → List Char
  | [] => []
  | c :: cs => upper c ++ lowerWord cs

def pascalCase (name : String) : String :=
  String.ofList ((words name.toList).flatMap capitalWord)

def camelCase (name : String) : String :=
  match words name.toList with
  | [] => ""
  | first :: rest => String.ofList (lowerWord first ++ rest.flatMap capitalWord)

/-- The first character as a capital, the rest untouched: `APIResponse` stays, `sendMessage` becomes
`SendMessage`. -/
def capitalize (name : String) : String :=
  match name.toList with
  | [] => ""
  | c :: cs => String.ofList (upper c ++ cs)

end BotTypings.Text
