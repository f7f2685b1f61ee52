import BotTypings.Text.Visible

/-! The quoted form in which a message shows a text that was read. Quotes and backslashes are escaped,
common controls have letters, and any other character that does not show by itself is given by its
code point. -/
namespace BotTypings.Text

def hexDigit (n : Nat) : Char :=
  if n < 10 then Char.ofNat (48 + n) else Char.ofNat (87 + n)

def hexPadded : Nat → Nat → List Char
  | 0, _ => []
  | width + 1, n => hexPadded width (n / 16) ++ [hexDigit (n % 16)]

def hexShort (n : Nat) : List Char :=
  match (hexPadded 8 n).dropWhile (· == '0') with
  | [] => ['0']
  | digits => digits

def quotedChar (c : Char) : List Char :=
  if c = '"' then ['\\', '"']
  else if c = '\\' then ['\\', '\\']
  else if c = '\n' then ['\\', 'n']
  else if c = '\r' then ['\\', 'r']
  else if c = '\t' then ['\\', 't']
  else if c.toNat = 0 then ['\\', '0']
  else if isVisible c then [c]
  else ['\\', 'u', '{'] ++ hexShort c.toNat ++ ['}']

def quoted (s : String) : String :=
  String.ofList ('"' :: s.toList.flatMap quotedChar ++ ['"'])

end BotTypings.Text
