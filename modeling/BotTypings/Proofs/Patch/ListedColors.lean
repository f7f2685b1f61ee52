import BotTypings.Proofs.Json.Scalars
import BotTypings.Proofs.Patch.Colors
import BotTypings.Proofs.Patch.Outcome

/-! Colours that a description lists one after the other, with any prose between them that has no
parenthesis, come back as they were listed; the icon colour is limited to those of its description. -/
namespace BotTypings

namespace Color

open BotTypings.Decimal BotTypings.Text BotTypings.Json

/-- A colour as a description lists it, behind some prose. -/
structure Listing where
  lead : List Char
  color : Nat
  hex : List Char

def Listing.text (e : Listing) : List Char := e.lead ++ (Nat.toDigits 10 e.color ++ form e.hex)

/-- The prose opens no parenthesis and leaves the number whole, and the two numbers agree. -/
structure Listing.Proper (e : Listing) : Prop where
  plain : '(' ∉ e.lead
  whole : NoDigitLast e.lead
  six : e.hex.length = 6
  hexadecimal : hexadecimal? e.hex = some e.color

theorem hexValue?_toUpper : ∀ d < 16, hexValue? (hexDigit d).toUpper = some d := by decide

theorem hexadecimal?_hexPadded {letter : Char → Char}
    (letters : ∀ d < 16, hexValue? (letter (hexDigit d)) = some d) {width n : Nat}
    (small : n < unsignedEnd (4 * width)) :
    hexadecimal? ((hexPadded width n).map letter) = some n := by
  induction width generalizing n with
  | zero =>
    have zero : n = 0 := Nat.lt_one_iff.mp small
    simp [hexPadded, hexadecimal?, zero]
  | succ width ih =>
    rw [unsignedEnd_digit] at small
    have front := ih (n := n / 16) (by omega)
    have last := letters (n % 16) (Nat.mod_lt _ (by decide))
    have split : n / 16 * 16 + n % 16 = n := by omega
    simp [hexPadded, hexadecimal?_concat, front, last, split]

theorem hexPadded_length (width n : Nat) : (hexPadded width n).length = width := by
  induction width generalizing n with
  | zero => rfl
  | succ width ih => simp [hexPadded, ih]

/-- Every colour of 24 bits can be listed, with small letters or with capital ones. -/
theorem Listing.Proper.hexPadded {lead : List Char} {n : Nat} {letter : Char → Char}
    (plain : '(' ∉ lead) (whole : NoDigitLast lead) (small : n ≤ 0xFFFFFF)
    (letters : letter = id ∨ letter = Char.toUpper) :
    Listing.Proper ⟨lead, n, (hexPadded 6 n).map letter⟩ := by
  have valid : ∀ d < 16, hexValue? (letter (hexDigit d)) = some d := by
    rcases letters with rfl | rfl
    · exact hexValue?_hexDigit
    · exact hexValue?_toUpper
  exact ⟨plain, whole, by simp [hexPadded_length],
    hexadecimal?_hexPadded valid (Nat.lt_succ_of_le small)⟩

section

variable {e : Listing} {es : List Listing} {rest tail : List Char} {found : List Mention}

theorem Listing.Proper.color_le (proper : e.Proper) : e.color ≤ 0xFFFFFF :=
  hexadecimal?_le proper.hexadecimal proper.six

theorem Listing.Proper.color? (proper : e.Proper) (left : List Char) :
    (Mention.leading (Nat.toDigits 10 e.color) e.hex left).color? = some (Int64.ofNat e.color) := by
  rw [Mention.color?_eq_some_iff]
  simp only [Mention.leading, naturalOf_toDigits]
  exact ⟨List.all_eq_true.mpr (toDigits_isDigit e.color), le_signedMax proper.color_le,
    proper.hexadecimal, trivial⟩

/-- A listed colour is mentioned before all that the text behind it mentions, and nothing else is. -/
theorem Listing.Proper.lists (proper : e.Proper) (listed : Lists found rest) :
    ∃ more : List Mention, Lists more (e.text ++ rest) ∧
      more.filterMap Mention.color? = Int64.ofNat e.color :: found.filterMap Mention.color? := by
  have digits : ∀ c ∈ Nat.toDigits 10 e.color, isDecimalDigit c = true := fun c here =>
    isDecimalDigit_of_isDigit (toDigits_isDigit e.color c here)
  have valid := hexadecimal?_isSome_iff.mp (Option.isSome_of_eq_some proper.hexadecimal)
  have first := listed.mention Nat.toDigits_ne_nil digits proper.six valid
  have next : (Nat.toDigits 10 e.color ++ (form e.hex ++ rest)).head? ≠ some '(' := by
    obtain ⟨d, ds, split⟩ := List.exists_cons_of_ne_nil (Nat.toDigits_ne_nil (n := e.color) (b := 10))
    rw [split, List.cons_append, List.head?_cons]
    intro same
    have decimal := digits d (by simp [split])
    rw [Option.some.inj same] at decimal
    exact absurd decimal (by decide)
  have behind := first.behind fun x => in_append_iff_of_paren proper.plain next proper.whole
  have text : e.text ++ rest = e.lead ++ (Nat.toDigits 10 e.color ++ (form e.hex ++ rest)) := by
    simp [Listing.text]
  rw [text]
  refine ⟨_, behind, ?_⟩
  rw [colors_behind, List.filterMap_cons_some (proper.color? rest), colors_behind]

theorem scrape_listings (proper : ∀ e ∈ es, e.Proper) (plain : '(' ∉ tail) :
    scrape (es.flatMap Listing.text ++ tail) = es.map fun e => Int64.ofNat e.color := by
  have lists : ∃ found, Lists found (es.flatMap Listing.text ++ tail) ∧
      found.filterMap Mention.color? = es.map fun e => Int64.ofNat e.color := by
    induction es with
    | nil => exact ⟨[], lists_nil plain, rfl⟩
    | cons e es ih =>
      obtain ⟨found, listed, colors⟩ := ih fun e here => proper e (List.mem_cons_of_mem _ here)
      obtain ⟨more, first, next⟩ := (proper e List.mem_cons_self).lists listed
      exact ⟨more, by simpa using first, by simp [next, colors]⟩
  obtain ⟨found, listed, colors⟩ := lists
  rw [scrape_eq listed, colors]

end

theorem scrape_toInt {text : List Char} {color : Int64} (here : color ∈ scrape text) :
    0 ≤ color.toInt ∧ color.toInt ≤ 0xFFFFFF := by
  obtain ⟨x, mentioned, value⟩ := mem_scrape_iff_mention.mp here
  exact mentioned.color?_toInt value

end Color

section

variable {options : PatchOptions} {s : Schema} {m : Method} {p : Property}

theorem Schema.method?_modifyMethod {name : String} {f : Method → Method}
    (kept : ∀ m, (f m).name = m.name) (found : s.method? name = some m) :
    (s.modifyMethod name f).method? name = some (f m) := by
  have same := find?_modifyFirst_same Method.name name kept s.methods
  rw [method?] at found
  rw [found] at same
  exact same

theorem Method.parameter?_limitIconColor (found : m.parameter? iconColorParameter = some p) :
    m.limitIconColor.parameter? iconColorParameter = some p.asListedColor := by
  have same := find?_modifyFirst_same Property.name iconColorParameter
    Property.asListedColor_name m.parameters
  rw [parameter?] at found
  rw [found] at same
  exact same

theorem correctIconColor_found (method : s.method? iconColorMethod = some m)
    (parameter : m.parameter? iconColorParameter = some p) :
    correctIconColor.run options s =
      if Color.scrape p.description.toList = [] then
        .error (.patternNotFound (iconColorMethod ++ "." ++ iconColorParameter) Color.pattern)
      else .ok (s.modifyMethod iconColorMethod Method.limitIconColor) := by
  rw [correctIconColor_run]
  simp only [Amendment.patch, Amendment.iconColor, Schema.findings, Schema.iconColors, method,
    parameter]
  cases Color.scrape p.description.toList <;> rfl

/-- The icon colour takes the colours of its description as its only values, and a description without
any is refused. -/
structure LimitsIconColor (options : PatchOptions) (s : Schema) : Prop where
  refused : correctIconColor.run options s =
      .error (.patternNotFound "createForumTopic.icon_color" Color.pattern) ↔
    ∃ m p, s.method? "createForumTopic" = some m ∧ m.parameter? "icon_color" = some p ∧
      Color.scrape p.description.toList = []
  stored : ∀ m p, s.method? "createForumTopic" = some m → m.parameter? "icon_color" = some p →
    Color.scrape p.description.toList ≠ [] →
      ∃ t m', correctIconColor.run options s = .ok t ∧ t.method? "createForumTopic" = some m' ∧
        m'.parameter? "icon_color" =
          some { p with kind := .integer (Color.scrape p.description.toList) none none none }

theorem limitsIconColor (options : PatchOptions) (s : Schema) : LimitsIconColor options s := by
  constructor
  · constructor
    · intro refused
      rw [correctIconColor_run] at refused
      simp only [Amendment.patch, Amendment.iconColor, Schema.findings, Schema.iconColors] at refused
      cases method : s.method? iconColorMethod with
      | none => simp [method] at refused
      | some m =>
        cases parameter : m.parameter? iconColorParameter with
        | none => simp [method, parameter] at refused
        | some p =>
          refine ⟨m, p, method, parameter, ?_⟩
          cases colors : Color.scrape p.description.toList with
          | nil => rfl
          | cons => simp [method, parameter, colors] at refused
    · rintro ⟨m, p, method, parameter, none⟩
      rw [correctIconColor_found method parameter, if_pos none]
      decide
  · intro m p method parameter some
    refine ⟨_, m.limitIconColor, ?_, Schema.method?_modifyMethod Method.limitIconColor_name method,
      Method.parameter?_limitIconColor parameter⟩
    rw [correctIconColor_found method parameter, if_neg some]
    rfl

end

open BotTypings.Text in
/-- The scan answers the agreeing colours of all mentions in their order, each of 24 bits; so listed
colours come back as they were listed, whatever the case of their letters, and the icon colour is
limited to those of its description. -/
theorem Color.scrape_exact :
    (∀ text, (∃ found, Lists found text ∧ scrape text = found.filterMap Mention.color?) ∧
      ∀ color ∈ scrape text, 0 ≤ color.toInt ∧ color.toInt ≤ 0xFFFFFF) ∧
    (∀ (es : List Listing) (tail : List Char), (∀ e ∈ es, e.Proper) → '(' ∉ tail →
      (scrape (es.flatMap Listing.text ++ tail)).map Int64.toInt = es.map fun e => (e.color : Int)) ∧
    (∀ (lead : List Char) (n : Nat) (letter : Char → Char), '(' ∉ lead → NoDigitLast lead →
      n ≤ 0xFFFFFF → letter = id ∨ letter = Char.toUpper →
      Listing.Proper ⟨lead, n, (hexPadded 6 n).map letter⟩) ∧
    ∀ options s, LimitsIconColor options s := by
  refine ⟨?_, ?_, fun _ _ _ => Listing.Proper.hexPadded, limitsIconColor⟩
  · intro text
    exact ⟨scrape_lists text, fun color => scrape_toInt⟩
  · intro es tail proper plain
    rw [scrape_listings proper plain, List.map_map]
    apply List.map_congr_left
    intro e here
    exact toInt_ofNat (proper e here).color_le

open BotTypings.Text in
/-- Two colours in the two cases of letters, and the one that a schema lists. -/
theorem Color.scrape_exact_forum :
    (scrape "One of 7322096 (0x6FB9F0), or 16766590 (0xffd67e).".toList).map Int64.toInt =
        [7322096, 16766590] ∧
      ∃ t m, correctIconColor.run ⟨[]⟩ (Schema.forum []) = .ok t ∧
        t.method? "createForumTopic" = some m ∧
        (m.parameter? "icon_color").map (·.kind) = some (.integer [7322096] none none none) := by
  constructor
  · have cases := scrape_exact.2.2.1
    have first := cases "One of ".toList 7322096 Char.toUpper (by decide) (by decide) (by decide)
      (.inr rfl)
    have second := cases ", or ".toList 16766590 id (by decide) (by decide) (by decide) (.inl rfl)
    exact scrape_exact.2.1 [_, _] ['.']
      (List.forall_mem_cons.mpr ⟨first, List.forall_mem_singleton.mpr second⟩) (by decide)
  · have listed : scrape "One of 7322096 (0x6FB9F0)".toList = [7322096] := by decide +kernel
    have some : scrape "One of 7322096 (0x6FB9F0)".toList ≠ [] := by
      rw [listed]
      decide
    obtain ⟨t, m, run, method, parameter⟩ :=
      (scrape_exact.2.2.2 ⟨[]⟩ (Schema.forum [])).stored _ _ rfl rfl some
    refine ⟨t, m, run, method, ?_⟩
    rw [parameter]
    exact congrArg (fun colors => Option.some (FieldType.integer colors none none none)) listed

end BotTypings
