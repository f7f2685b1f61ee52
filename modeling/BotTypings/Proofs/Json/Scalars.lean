import BotTypings.Json.Printer
import BotTypings.Json.Value

/-! Written texts and integers scan back to what was written. A text is scanned character by
character: each written character gives one piece, and that piece stands for the character alone
whatever comes behind it. An integer is scanned as the numeral of its digits, provided that what
follows it cannot continue a number. -/
namespace BotTypings.Json

open BotTypings.Decimal BotTypings.Text

theorem hexValue?_hexDigit : ∀ d < 16, hexValue? (hexDigit d) = some d := by decide

theorem unit?_hexPadded {n : Nat} (small : n < 0x10000) :
    ∃ a b c d, hexPadded 4 n = [a, b, c, d] ∧ unit? a b c d = some n := by
  refine ⟨hexDigit (n / 16 / 16 / 16 % 16), hexDigit (n / 16 / 16 % 16), hexDigit (n / 16 % 16),
    hexDigit (n % 16), rfl, ?_⟩
  have digit (m : Nat) : hexValue? (hexDigit (m % 16)) = some (m % 16) :=
    hexValue?_hexDigit _ (Nat.mod_lt _ (by decide))
  have whole :
      ((n / 16 / 16 / 16 % 16 * 16 + n / 16 / 16 % 16) * 16 + n / 16 % 16) * 16 + n % 16 = n := by
    omega
  simp only [unit?, digit, Option.bind_eq_bind, Option.bind_some]
  exact congrArg some whole

/-- The piece stands for the character, whatever pieces follow. -/
def Piece.StandsFor (p : Piece) (c : Char) : Prop :=
  ∀ atEnd ps, decodePieces atEnd (p :: ps) = (decodePieces atEnd ps).map (c :: ·)

theorem char_standsFor (c : Char) : (Piece.char c).StandsFor c := fun _ _ => rfl

theorem unit_standsFor {c : Char} (low : c.toNat < 0xD800) : (Piece.unit c.toNat).StandsFor c := by
  intro atEnd ps
  have notLow : isLow c.toNat = false := by
    have below : ¬ 0xDC00 ≤ c.toNat := by omega
    simp only [isLow, below, decide_false, Bool.false_and]
  have notHigh : isHigh c.toNat = false := by
    have below : ¬ 0xD800 ≤ c.toNat := by omega
    simp only [isHigh, below, decide_false, Bool.false_and]
  rw [decodePieces.eq_def]
  simp only [notLow, notHigh, Bool.false_eq_true, if_false, Char.ofNat_toNat]

theorem scanText_letter {e c : Char} (letter : letterEscape? e = some c) (other : e ≠ 'u')
    (rest : List Char) : scanText ('\\' :: e :: rest) = (scanText rest).cons (.char c) := by
  rw [scanText.eq_5 e rest (fun _ _ _ _ _ u _ => other u) other, letter]

theorem scanText_unit {a b c d : Char} {n : Nat} (digits : unit? a b c d = some n)
    (rest : List Char) :
    scanText ('\\' :: 'u' :: a :: b :: c :: d :: rest) = (scanText rest).cons (.unit n) := by
  rw [scanText.eq_3, digits]

theorem scanText_bare {c : Char} (quote : c ≠ '"') (escape : c ≠ '\\') (rest : List Char) :
    scanText (c :: rest) =
      if c.toNat < 0x20 then .broken [] .control else (scanText rest).cons (.char c) :=
  scanText.eq_7 c rest (fun e _ => escape e) (fun _ _ _ _ _ e _ => escape e)
    (fun _ e _ => escape e) (fun _ _ e _ => escape e) quote

theorem scanText_plain {c : Char} (quote : c ≠ '"') (escape : c ≠ '\\') (shown : ¬ c.toNat < 0x20)
    (rest : List Char) : scanText (c :: rest) = (scanText rest).cons (.char c) := by
  rw [scanText_bare quote escape, if_neg shown]

/-- The cases follow the writer: seven characters have a letter, other controls a unit. -/
theorem scanText_encodeChar (c : Char) :
    ∃ p : Piece, p.StandsFor c ∧
      ∀ rest, scanText (encodeChar c ++ rest) = (scanText rest).cons p := by
  have lettered {e : Char} (letter : letterEscape? e = some c) (other : e ≠ 'u')
      (written : encodeChar c = ['\\', e]) : ∃ p : Piece, p.StandsFor c ∧
        ∀ rest, scanText (encodeChar c ++ rest) = (scanText rest).cons p := by
    refine ⟨.char c, char_standsFor c, fun rest => ?_⟩
    rw [written]
    exact scanText_letter letter other rest
  by_cases quote : c = '"'
  · subst quote
    exact lettered rfl (by decide) rfl
  by_cases escape : c = '\\'
  · subst escape
    exact lettered rfl (by decide) rfl
  by_cases back : c = '\x08'
  · subst back
    exact lettered (e := 'b') rfl (by decide) rfl
  by_cases feed : c = '\x0c'
  · subst feed
    exact lettered (e := 'f') rfl (by decide) rfl
  by_cases line : c = '\n'
  · subst line
    exact lettered (e := 'n') rfl (by decide) rfl
  by_cases carriage : c = '\r'
  · subst carriage
    exact lettered (e := 'r') rfl (by decide) rfl
  by_cases tab : c = '\t'
  · subst tab
    exact lettered (e := 't') rfl (by decide) rfl
  by_cases control : c.toNat < 0x20
  · obtain ⟨h, i, j, k, padded, digits⟩ := unit?_hexPadded (Nat.lt_trans control (by decide))
    refine ⟨.unit c.toNat, unit_standsFor (Nat.lt_trans control (by decide)), fun rest => ?_⟩
    have written : encodeChar c = ['\\', 'u', h, i, j, k] := by
      simp only [encodeChar, quote, escape, back, feed, line, carriage, tab, control, if_true,
        if_false, padded]
      rfl
    rw [written]
    exact scanText_unit digits rest
  · refine ⟨.char c, char_standsFor c, fun rest => ?_⟩
    have written : encodeChar c = [c] := by
      simp only [encodeChar, quote, escape, back, feed, line, carriage, tab, control, if_false]
    rw [written]
    exact scanText_plain quote escape control rest

theorem scanText_written (cs rest : List Char) :
    ∃ ps, scanText (cs.flatMap encodeChar ++ '"' :: rest) = .closed ps rest ∧
      ∀ atEnd, decodePieces atEnd ps = .ok cs := by
  induction cs with
  | nil => exact ⟨[], rfl, fun _ => rfl⟩
  | cons c cs ih =>
    obtain ⟨ps, scanned, decoded⟩ := ih
    obtain ⟨p, stands, scans⟩ := scanText_encodeChar c
    refine ⟨p :: ps, ?_, fun atEnd => ?_⟩
    · rw [List.flatMap_cons, List.append_assoc, scans, scanned]
      rfl
    · rw [stands, decoded]
      rfl

theorem scanToken_written (s : String) (rest : List Char) :
    scanToken '"' (s.toList.flatMap encodeChar ++ '"' :: rest) = (.text (.ok s), rest) := by
  obtain ⟨ps, scanned, decoded⟩ := scanText_written s.toList rest
  have content : contentOf ps = .ok s := by
    rw [contentOf, decoded]
    exact congrArg Except.ok String.ofList_toList
  change scanQuoted _ = _
  simp only [scanQuoted, scanned, content]

/-- The numeral in which an integer is written. -/
def integerNumeral (n : Int) : Numeral := ⟨decide (n < 0), Nat.toDigits 10 n.natAbs, [], none⟩

/-- The text is at its end or goes on with a character that no number holds. -/
def EndsNumber : List Char → Prop
  | [] => True
  | c :: _ => c.isDigit = false ∧ c ≠ '.' ∧ c ≠ 'e' ∧ c ≠ 'E'

theorem toDigits_isDigit (n : Nat) : ∀ d ∈ Nat.toDigits 10 n, d.isDigit = true :=
  fun _ mem => Nat.isDigit_of_mem_toDigits (by decide) (by decide) mem

theorem toDigits_head (n : Nat) (positive : 0 < n) : (Nat.toDigits 10 n).head? ≠ some '0' := by
  induction n using Nat.strongRecOn with
  | ind n ih =>
    by_cases small : n < 10
    · rw [Nat.toDigits_of_lt_base small]
      simp only [List.head?_cons, ne_eq, Option.some.injEq, Nat.digitChar_eq_zero]
      omega
    · have large : 10 ≤ n := by omega
      have front := ih (n / 10) (by omega) (by omega)
      obtain ⟨d, ds, digits⟩ := List.exists_cons_of_ne_nil
        (Nat.toDigits_ne_nil (n := n / 10) (b := 10))
      rw [digits] at front
      rw [Nat.toDigits_of_base_le (by decide) large, digits]
      exact front

theorem toDigits_no_leading_zero (n : Nat) (d : Char) (ds : List Char) :
    Nat.toDigits 10 n ≠ '0' :: d :: ds := by
  intro same
  cases n with
  | zero => simp at same
  | succ n => exact toDigits_head (n + 1) (Nat.succ_pos n) (by rw [same]; rfl)

theorem naturalOf_toDigits (n : Nat) : naturalOf (Nat.toDigits 10 n) = n := by
  have fold : naturalOf (Nat.toDigits 10 n) = Nat.ofDigitChars 10 (Nat.toDigits 10 n) 0 := by
    simp only [naturalOf, Nat.ofDigitChars_eq_foldl, digitValue, Nat.mul_comm]
    rfl
  rw [fold, Nat.ofDigitChars_ten_toDigits]

theorem digits_end {rest : List Char} (ends : EndsNumber rest) :
    rest.takeWhile Char.isDigit = [] ∧ rest.dropWhile Char.isDigit = rest := by
  cases rest with
  | nil => exact ⟨rfl, rfl⟩
  | cons c rest => simp [ends.1]

theorem scanFraction_end (negative : Bool) (whole : List Char) {rest : List Char}
    (ends : EndsNumber rest) :
    scanFraction negative whole rest = (.number ⟨negative, whole, [], none⟩, rest) := by
  cases rest with
  | nil => rfl
  | cons c rest =>
    obtain ⟨_, point, small, capital⟩ := ends
    rw [scanFraction.eq_2 _ _ _ (fun _ same => point (List.cons.inj same).1), scanExponent,
      if_neg (not_or.mpr ⟨small, capital⟩)]

theorem scanNumber_toDigits (negative : Bool) (n : Nat) {rest : List Char}
    (ends : EndsNumber rest) :
    scanNumber negative (Nat.toDigits 10 n ++ rest) =
      (.number ⟨negative, Nat.toDigits 10 n, [], none⟩, rest) := by
  have digits : digitsOf (Nat.toDigits 10 n ++ rest) = Nat.toDigits 10 n := by
    rw [digitsOf, List.takeWhile_append_of_pos (toDigits_isDigit n), (digits_end ends).1,
      List.append_nil]
  have after : afterDigits (Nat.toDigits 10 n ++ rest) = rest := by
    rw [afterDigits, List.dropWhile_append_of_pos (toDigits_isDigit n), (digits_end ends).2]
  rw [scanNumber, digits, after]
  split
  · rename_i none
    exact absurd none Nat.toDigits_ne_nil
  · rename_i zero
    exact absurd zero (toDigits_no_leading_zero n _ _)
  · exact scanFraction_end negative _ ends

/-- An integer that some signed or unsigned integer of sixty-four bits holds. -/
def Fits64 (n : Int) : Prop := -(unsignedEnd 63 : Int) ≤ n ∧ n < unsignedEnd 64

theorem integerNumeral_value {n : Int} (fits : Fits64 n) :
    (integerNumeral n).value = some (.integer n) := by
  obtain ⟨low, high⟩ := fits
  by_cases negative : n < 0
  · have bounds : 0 < n.natAbs ∧ n.natAbs ≤ unsignedEnd 63 := by omega
    have back : -(n.natAbs : Int) = n := by omega
    simp only [Numeral.value, integerNumeral, naturalOf_toDigits, negative, decide_true, bounds.1,
      bounds.2, back]
    refine (if_neg ?_).trans (if_pos ⟨rfl, rfl, trivial, trivial, trivial⟩)
    rintro ⟨_, _, unsigned, _⟩
    cases unsigned
  · have bound : n.natAbs < unsignedEnd 64 := by omega
    have back : (n.natAbs : Int) = n := by omega
    simp only [Numeral.value, integerNumeral, naturalOf_toDigits, negative, bound, back]
    rfl

end BotTypings.Json
