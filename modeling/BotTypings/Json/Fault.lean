/-! Where a JSON text breaks, and what is said about it. A fault belongs to the text alone; what does
not fit the model although the text is sound is a `Mismatch`. -/
namespace BotTypings.Json

inductive Fault where
  | endOfValue
  | endOfList
  | endOfRecord
  | endOfText
  | expectedValue
  | expectedWord
  | expectedColon
  | expectedListSeparator
  | expectedRecordSeparator
  | keyNotText
  | trailingComma
  | trailingCharacters
  | invalidNumber
  | numberOutOfRange
  | invalidEscape
  | unpairedHigh
  | unpairedLow
  | controlCharacter
  | tooDeep
  deriving DecidableEq, Repr

inductive Category where
  | eof
  | malformed
  | data
  deriving DecidableEq, Repr

def Fault.category : Fault → Category
  | endOfValue | endOfList | endOfRecord | endOfText => .eof
  | _ => .malformed

def Fault.message : Fault → String
  | endOfValue => "EOF while parsing a value"
  | endOfList => "EOF while parsing a list"
  | endOfRecord => "EOF while parsing an object"
  | endOfText => "EOF while parsing a string"
  | expectedValue => "expected value"
  | expectedWord => "expected ident"
  | expectedColon => "expected `:`"
  | expectedListSeparator => "expected `,` or `]`"
  | expectedRecordSeparator => "expected `,` or `\x7d`"
  | keyNotText => "key must be a string"
  | trailingComma => "trailing comma"
  | trailingCharacters => "trailing characters"
  | invalidNumber => "invalid number"
  | numberOutOfRange => "number out of range"
  | invalidEscape => "invalid escape"
  | unpairedHigh => "unexpected end of hex escape"
  | unpairedLow => "lone leading surrogate in hex escape"
  | controlCharacter => "control character (\\u0000-\\u001F) found while parsing a string"
  | tooDeep => "recursion limit exceeded"

/-- The same break as it looks to one who reads the value and to one who only skips over it. -/
structure Break where
  read : Fault
  skipped : Fault
  deriving DecidableEq, Repr

def Break.same (f : Fault) : Break := ⟨f, f⟩

end BotTypings.Json
