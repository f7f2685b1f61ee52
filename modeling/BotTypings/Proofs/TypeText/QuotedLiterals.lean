import BotTypings.Proofs.Json.Scalars
import BotTypings.Proofs.TypeText.Rendered

/-! String literals as JSON texts. A literal escapes quotes and backslashes alone. That closes it where
it should be closed, whatever the value is; but JSON has escapes for control characters as well, so a
value that holds one, such as a line break, has a literal that no JSON reader takes. -/
namespace BotTypings

open BotTypings.Json BotTypings.TypeText

/-- The text is a quoted JSON text of the value, and the quote that closes it is its last character. -/
def Json.IsTextOf (text value : String) : Prop :=
  ∃ body, text.toList = '"' :: body ∧ scanQuoted body = (.text (.ok value), [])

/-- A JSON text of the value on a single line. -/
structure TypeText.IsLiteralOf (text value : String) : Prop where
  json : Json.IsTextOf text value
  line : '\n' ∉ text.toList ∧ '\r' ∉ text.toList

theorem literalChar_eq_encodeChar {c : Char} (shown : 0x20 ≤ c.toNat) :
    literalChar c = encodeChar c := by
  by_cases quote : c = '"'
  · subst quote
    rfl
  by_cases escape : c = '\\'
  · subst escape
    rfl
  have other {d : Char} (control : d.toNat < 0x20) : c ≠ d := by
    rintro rfl
    exact Nat.not_le_of_lt control shown
  have back : c ≠ '\x08' := other (by decide)
  have feed : c ≠ '\x0c' := other (by decide)
  have line : c ≠ '\n' := other (by decide)
  have carriage : c ≠ '\r' := other (by decide)
  have tab : c ≠ '\t' := other (by decide)
  simp [literalChar, encodeChar, quote, escape, back, feed, line, carriage, tab, Nat.not_lt.mpr shown]

theorem flatMap_literalChar {value : List Char} (shown : ∀ c ∈ value, 0x20 ≤ c.toNat) :
    value.flatMap literalChar = value.flatMap encodeChar := by
  induction value with
  | nil => rfl
  | cons c cs ih =>
    obtain ⟨first, others⟩ := List.forall_mem_cons.mp shown
    rw [List.flatMap_cons, List.flatMap_cons, literalChar_eq_encodeChar first, ih others]

/-- The first control character breaks the text. -/
theorem scanText_control {value : List Char} (control : ∃ c ∈ value, c.toNat < 0x20)
    (rest : List Char) : ∃ ps, scanText (value.flatMap literalChar ++ rest) = .broken ps .control := by
  induction value with
  | nil => simp at control
  | cons c cs ih =>
    rw [List.flatMap_cons, List.append_assoc]
    by_cases here : c.toNat < 0x20
    · have quote : c ≠ '"' := by
        rintro rfl
        exact absurd here (by decide)
      have escape : c ≠ '\\' := by
        rintro rfl
        exact absurd here (by decide)
      refine ⟨[], ?_⟩
      rw [literalChar, if_neg escape, if_neg quote, List.singleton_append,
        scanText_bare quote escape, if_pos here]
    · have later : ∃ d ∈ cs, d.toNat < 0x20 := by
        obtain ⟨d, mem, low⟩ := control
        rcases List.mem_cons.mp mem with rfl | behind
        · exact absurd low here
        · exact ⟨d, behind, low⟩
      obtain ⟨ps, broken⟩ := ih later
      obtain ⟨p, _, scans⟩ := scanText_encodeChar c
      refine ⟨p :: ps, ?_⟩
      rw [literalChar_eq_encodeChar (Nat.le_of_not_lt here), scans, broken]
      rfl

theorem literal_isTextOf_iff {v w : String} :
    Json.IsTextOf (literal v) w ↔ w = v ∧ ∀ c ∈ v.toList, 0x20 ≤ c.toNat := by
  have scanned : Json.IsTextOf (literal v) w ↔
      scanQuoted (v.toList.flatMap literalChar ++ ['"']) = (.text (.ok w), []) := by
    simp [Json.IsTextOf, literal_toList]
  rw [scanned]
  by_cases shown : ∀ c ∈ v.toList, 0x20 ≤ c.toNat
  · have token := scanToken_written v []
    change scanQuoted (v.toList.flatMap encodeChar ++ ['"']) = _ at token
    rw [flatMap_literalChar shown, token, and_iff_left shown]
    simp [eq_comm]
  · have control : ∃ c ∈ v.toList, c.toNat < 0x20 := by simpa using shown
    obtain ⟨ps, broken⟩ := scanText_control control ['"']
    simp [scanQuoted, broken, shown]

/-- A literal is a JSON text of its value on a single line exactly if the value has no control
character; no literal is a JSON text of another value. With the two escapes undone every literal ends
at its last character and gives its value, and besides quotes and backslashes it has the characters
of the value, so it breaks a line wherever the value does. -/
theorem literal_isLiteralOf_iff (v : String) :
    (IsLiteralOf (literal v) v ↔ ∀ c ∈ v.toList, 0x20 ≤ c.toNat) ∧
      (∀ w, Json.IsTextOf (literal v) w → w = v) ∧
      (∃ body, (literal v).toList = '"' :: body ∧ readLiteral body = some (v.toList, [])) ∧
      ∀ c, c ≠ '"' → c ≠ '\\' → (c ∈ (literal v).toList ↔ c ∈ v.toList) := by
  refine ⟨⟨?_, ?_⟩, ?_, ?_, ?_⟩
  · intro valid
    exact (literal_isTextOf_iff.mp valid.json).2
  · intro shown
    have absent {c : Char} (control : c.toNat < 0x20) : c ∉ v.toList := by
      intro mem
      exact absurd (shown c mem) (Nat.not_le_of_lt control)
    refine ⟨literal_isTextOf_iff.mpr ⟨rfl, shown⟩, ?_, ?_⟩
    · rw [mem_literal_iff (by decide) (by decide)]
      exact absent (by decide)
    · rw [mem_literal_iff (by decide) (by decide)]
      exact absent (by decide)
  · intro w text
    exact (literal_isTextOf_iff.mp text).1
  · exact ⟨_, literal_toList v, readLiteral_literalChars v.toList []⟩
  · intro c quote escape
    exact mem_literal_iff quote escape

/-- A default of two lines is written on two lines, and is no JSON text. -/
theorem brokenDefault_unreadable :
    Mapper.standard.text ⟨"Message", .objects⟩ ⟨"note", "", true⟩ (.literal "a\nb") = "\"a\nb\"" ∧
      literal "a\nb" = "\"a\nb\"" ∧
      '\n' ∈ (literal "a\nb").toList ∧
      (∀ w, ¬ Json.IsTextOf (literal "a\nb") w) ∧
      ¬ IsLiteralOf (literal "a\nb") "a\nb" := by
  have unreadable : ∀ w, ¬ Json.IsTextOf (literal "a\nb") w := by
    intro w text
    have shown := (literal_isTextOf_iff.mp text).2 '\n' (by decide)
    exact absurd shown (by decide)
  exact ⟨by decide, by decide, by decide, unreadable, fun valid => unreadable _ valid.json⟩

end BotTypings
