import BotTypings.Currency
import BotTypings.Proofs.Json.FirstValue

/-! What a text is read as where a list of currencies is wanted. The first value of the text decides
whether its shape is supported, and only for a supported one does it matter what stands behind it. -/
namespace BotTypings

open BotTypings.Json

/-- The codes of a value of a supported shape: the texts of a list that holds nothing else, or the keys
of a record, each where it appears first. -/
inductive ListsCodes : Value → List String → Prop
  | texts (codes : List String) : ListsCodes (.list (codes.map Value.text)) codes
  | keys (members : List (String × Value)) :
    ListsCodes (.record members) (members.map (·.1)).eraseDups

theorem allTexts?_eq_some_iff {items : List Value} {codes : List String} :
    allTexts? items = some codes ↔ items = codes.map Value.text := by
  induction items generalizing codes with
  | nil => cases codes <;> simp [allTexts?]
  | cons v items ih =>
    cases v with
    | text s => cases codes <;> simp [allTexts?, ih, and_comm]
    | _ => cases codes <;> simp [allTexts?]

/-- Keys that were seen before are passed over. -/
theorem distinctKeys_eq (seen : List String) (members : List (String × Value)) :
    distinctKeys seen members = ((members.map (·.1)).filter (· ∉ seen)).eraseDups := by
  induction members generalizing seen with
  | nil => rfl
  | cons member members ih =>
    obtain ⟨key, v⟩ := member
    rw [distinctKeys, List.map_cons]
    split
    · rename_i known
      simp [ih, known]
    · rename_i fresh
      have others : (members.map (·.1)).filter (· ∉ key :: seen) =
          ((members.map (·.1)).filter (· ∉ seen)).filter fun other => !other == key := by
        rw [List.filter_filter]
        refine List.filter_congr fun other _ => ?_
        rw [Bool.eq_iff_iff]
        simp
      rw [ih, others, List.filter_cons_of_pos (by simpa using fresh), List.eraseDups_cons]

theorem currencyCodes?_eq_some_iff {v : Value} {codes : List String} :
    currencyCodes? v = some codes ↔ ListsCodes v codes := by
  constructor
  · intro given
    cases v with
    | list items =>
      obtain rfl := allTexts?_eq_some_iff.mp given
      exact .texts codes
    | record members =>
      obtain rfl := Option.some.inj given
      simpa [distinctKeys_eq] using ListsCodes.keys members
    | _ => cases given
  · rintro (_ | members)
    · exact allTexts?_eq_some_iff.mpr rfl
    · simp [currencyCodes?, distinctKeys_eq]

/-- No value stands at the start of the text, or one of a supported shape does, with something other
than blanks behind it. -/
inductive Unreadable (text : String) : Prop
  | noValue (none : ∀ v rest, ¬ FirstValue text v rest)
  | trailing {v rest codes} (first : FirstValue text v rest) (lists : ListsCodes v codes)
    (other : ∃ c ∈ rest, isSpace c = false)

/-- The first value of the text is neither a list of texts nor a record, whatever stands behind it. -/
def Unsupported (text : String) : Prop :=
  ∃ v rest, FirstValue text v rest ∧ ∀ codes, ¬ ListsCodes v codes

/-- The text is a value of a supported shape, and nothing but blanks. -/
def GivesCodes (text : String) (codes : List String) : Prop :=
  ∃ v rest, FirstValue text v rest ∧ ListsCodes v codes ∧ ∀ c ∈ rest, isSpace c = true

section

variable {text : String}

theorem unreadable_or_unsupported_or_givesCodes (text : String) :
    Unreadable text ∨ Unsupported text ∨ ∃ codes, GivesCodes text codes := by
  by_cases given : ∃ v rest, FirstValue text v rest
  · obtain ⟨v, rest, first⟩ := given
    by_cases supported : ∃ codes, ListsCodes v codes
    · obtain ⟨codes, lists⟩ := supported
      by_cases blank : ∀ c ∈ rest, isSpace c = true
      · exact .inr (.inr ⟨codes, v, rest, first, lists, blank⟩)
      · exact .inl (.trailing first lists (by simpa using blank))
    · exact .inr (.inl ⟨v, rest, first, fun codes lists => supported ⟨codes, lists⟩⟩)
  · exact .inl (.noValue fun v rest first => given ⟨v, rest, first⟩)

theorem readCurrencies_of_firstValue {v : Value} {rest : List Char}
    (first : FirstValue text v rest) :
    readCurrencies text =
      match currencyCodes? v with
      | none => .error .unsupportedShape
      | some codes =>
        if (tokens rest).isEmpty then .ok codes else .error (.json .trailingCharacters) := by
  obtain ⟨n, loaded, tree⟩ := first.exists_ofText
  have root : n.load deepest = .ok v := loaded
  simp only [readCurrencies, tree, root]
  cases currencyCodes? v with
  | none => rfl
  | some codes => cases (tokens rest).isEmpty <;> rfl

theorem Unreadable.refused (unreadable : Unreadable text) :
    ∃ f, readCurrencies text = .error (.json f) := by
  cases unreadable with
  | noValue none =>
    cases loaded : (Document.ofText text).root.load deepest with
    | error f =>
      refine ⟨f, ?_⟩
      simp only [readCurrencies, loaded]
    | ok v =>
      obtain ⟨rest, first⟩ := exists_firstValue_iff.mpr loaded
      exact absurd first (none v rest)
  | trailing first lists other =>
    rename_i v rest codes
    have some : (tokens rest).isEmpty = false := by
      rw [← Bool.not_eq_true, tokens_isEmpty_iff]
      simpa using other
    refine ⟨.trailingCharacters, ?_⟩
    rw [readCurrencies_of_firstValue first, currencyCodes?_eq_some_iff.mpr lists]
    simp [some]

theorem Unsupported.refused (unsupported : Unsupported text) :
    readCurrencies text = .error .unsupportedShape := by
  obtain ⟨v, rest, first, shapeless⟩ := unsupported
  have noCodes : currencyCodes? v = none :=
    Option.eq_none_iff_forall_ne_some.mpr fun codes given =>
      shapeless codes (currencyCodes?_eq_some_iff.mp given)
  rw [readCurrencies_of_firstValue first, noCodes]

theorem GivesCodes.accepted {codes : List String} (gives : GivesCodes text codes) :
    readCurrencies text = .ok codes := by
  obtain ⟨v, rest, first, lists, blank⟩ := gives
  rw [readCurrencies_of_firstValue first, currencyCodes?_eq_some_iff.mpr lists]
  simp [(tokens_isEmpty_iff rest).mpr blank]

end

/-- Every text is refused as JSON, refused for its shape or accepted, and which of these it is, and with
which codes, is told by its first value and by what stands behind that. -/
theorem readCurrencies_classified (text : String) :
    ((∃ f, readCurrencies text = .error (.json f)) ↔ Unreadable text) ∧
      (readCurrencies text = .error .unsupportedShape ↔ Unsupported text) ∧
      ∀ codes, readCurrencies text = .ok codes ↔ GivesCodes text codes := by
  rcases unreadable_or_unsupported_or_givesCodes text with unreadable | unsupported | ⟨given, gives⟩
  · obtain ⟨f, refused⟩ := unreadable.refused
    refine ⟨⟨fun _ => unreadable, Unreadable.refused⟩, ⟨?_, Unsupported.refused⟩, fun codes =>
      ⟨?_, GivesCodes.accepted⟩⟩ <;> simp [refused]
  · have refused := unsupported.refused
    refine ⟨⟨?_, Unreadable.refused⟩, ⟨fun _ => unsupported, Unsupported.refused⟩, fun codes =>
      ⟨?_, GivesCodes.accepted⟩⟩ <;> simp [refused]
  · have accepted := gives.accepted
    refine ⟨⟨?_, Unreadable.refused⟩, ⟨?_, Unsupported.refused⟩, fun codes =>
      ⟨?_, GivesCodes.accepted⟩⟩ <;> simp [accepted]
    rintro rfl
    exact gives

/-- What stands behind a value of another shape does not matter. -/
example : readCurrencies "[\"USD\", 978] EUR" = .error .unsupportedShape := by decide +kernel

example : readCurrencies "\x7b\"USD\": 840, \"EUR\": [], \"USD\": null\x7d\n" =
    .ok ["USD", "EUR"] := by decide +kernel

end BotTypings
