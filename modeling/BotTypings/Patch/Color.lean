import BotTypings.Text.Alphabet
import BotTypings.Json.Quoting
import BotTypings.Json.Numeral

/-! Colours in prose. A colour is written as a decimal number followed by its hexadecimal form in
parentheses, `7322096 (0x6FB9F0)`; one whose two forms disagree is passed over. -/
namespace BotTypings.Color

open BotTypings.Text BotTypings.Json

def pattern : String := "(\\d+) \\((0x[0-9A-Fa-f]\x7b6\x7d)\\)"

def hexSuffix? : List Char → Option (Nat × List Char)
  | ' ' :: '(' :: '0' :: 'x' :: a :: b :: c :: d :: e :: f :: ')' :: rest => do
    let high ← unit? '0' '0' a b
    let low ← unit? c d e f
    return (high * 0x10000 + low, rest)
  | _ => none

theorem hexSuffix?_length {cs rest : List Char} {n : Nat} (h : hexSuffix? cs = some (n, rest)) :
    rest.length < cs.length := by
  unfold hexSuffix? at h
  split at h
  · simp only [Option.bind_eq_bind, Option.bind_eq_some_iff] at h
    obtain ⟨_, _, _, _, h⟩ := h
    simp at h
    simp [h.2]
    omega
  · simp at h

/-- The colour of a run of digits and a hexadecimal form, if they agree. Digits of other scripts make
no number. -/
def agreed? (run : List Char) (hex : Nat) : Option Int64 :=
  if run.all Char.isDigit ∧ naturalOf run = hex then some (Int64.ofNat hex) else none

def scrape : List Char → List Int64
  | [] => []
  | c :: cs =>
    if isDecimalDigit c then
      match _suffix : hexSuffix? (cs.dropWhile isDecimalDigit) with
      | some (hex, left) => (agreed? (c :: cs.takeWhile isDecimalDigit) hex).toList ++ scrape left
      | none => scrape (cs.dropWhile isDecimalDigit)
    else scrape cs
  termination_by cs => cs.length
  decreasing_by
    · have := hexSuffix?_length _suffix
      have := (List.dropWhile_sublist (l := cs) isDecimalDigit).length_le
      simp
      omega
    · have := (List.dropWhile_sublist (l := cs) isDecimalDigit).length_le
      simp
      omega
    · simp

end BotTypings.Color
