import BotTypings.Proofs.Json.Tree
import BotTypings.Proofs.TypeText.Standing

/-! Which listed values the text of a member lets through. A value gets in through the literal union
of its field, or, being a string, through wider strings. Where a field takes wider strings, strings
and integers no longer share one union, and a type that mixes the two kinds can lose one of them. -/
namespace BotTypings

def FieldType.isString : FieldType → Bool
  | string .. => true
  | _ => false

/-- Of the enumerations of integers that a type leads to, one is written. -/
def FieldType.WritesIntegers (t : FieldType) : Prop :=
  ∀ n, .integer n ∈ t.values → ∃ leaf ∈ t.written, ∃ k, ListedValue.integer k ∈ leaf.ownValues

/-- A type that leads to enumerations of strings writes a string, be it another one. -/
def FieldType.WritesStrings (t : FieldType) : Prop :=
  ∀ s, .string s ∈ t.values → ∃ leaf ∈ t.written, leaf.isString = true

namespace Mapper

/-- The text of the property names a literal union, where a part is written as such. -/
def NamesUnion (m : Mapper) (owner : Owner) (p : Property) (a : Alias) : Prop :=
  ∃ leaf ∈ p.kind.written, m.writesAlias owner.scope p.slot leaf = true ∧
    m.text owner p.slot leaf = a.name ∧ StandsIn a.name (m.text owner p.slot p.kind)

def HasWider (m : Mapper) (owner : Owner) (p : Property) (wider : String) : Prop :=
  ∃ leaf ∈ p.kind.written, leaf.isString = true ∧
    m.text owner p.slot leaf = wider ∧ StandsIn wider (m.text owner p.slot p.kind)

/-- The text of a property leaves room for a listed value. -/
def Admits (m : Mapper) (owner : Owner) (p : Property) (v : ListedValue) : Prop :=
  (∃ a, m.aliasFor owner p = some a ∧ v.literal ∈ a.literals ∧ m.NamesUnion owner p a) ∨
    ∃ s wider, v = .string s ∧ m.stringOverride owner.scope p.slot = some wider ∧
      m.HasWider owner p wider

theorem text_of_isString {m : Mapper} {owner : Owner} {slot : Slot} {wider : String}
    {t : FieldType} (widened : m.stringOverride owner.scope slot = some wider)
    (isString : t.isString = true) : m.text owner slot t = wider := by
  cases t with
  | string => simp only [text, widened]
  | _ => cases isString

theorem stringLiteral_ne_integerLiteral (s : String) (n : Int64) :
    (ListedValue.string s).literal ≠ (ListedValue.integer n).literal := by
  intro same
  -- The quote opens the one, while the other has a sign and digits alone.
  have quote : '"' ∈ (toString n.toInt).toList := by
    rw [show toString n.toInt = TypeText.literal s from same.symm, TypeText.literal_toList]
    exact List.mem_cons_self
  exact Json.notMem_integer (by decide) (by decide) n.toInt quote

section

variable {m : Mapper} {owner : Owner} {p : Property}

theorem namesUnion_iff {a : Alias} (declared : m.aliasFor owner p = some a) :
    m.NamesUnion owner p a ↔
      ∃ leaf ∈ p.kind.written, m.writesAlias owner.scope p.slot leaf = true := by
  obtain ⟨_, rfl⟩ := aliasFor_eq_some_iff.mp declared
  constructor
  · rintro ⟨leaf, written, named, _, _⟩
    exact ⟨leaf, written, named⟩
  · rintro ⟨leaf, written, named⟩
    have piece : m.text owner p.slot leaf = m.aliasName owner p.name := text_of_writesAlias named
    exact ⟨leaf, written, named, piece, stands_of_text written piece⟩

theorem hasWider_iff {wider : String}
    (widened : m.stringOverride owner.scope p.slot = some wider) :
    m.HasWider owner p wider ↔ ∃ leaf ∈ p.kind.written, leaf.isString = true := by
  constructor
  · rintro ⟨leaf, written, isString, _, _⟩
    exact ⟨leaf, written, isString⟩
  · rintro ⟨leaf, written, isString⟩
    have piece : m.text owner p.slot leaf = wider := text_of_isString widened isString
    exact ⟨leaf, written, isString, piece, stands_of_text written piece⟩

/-- Without wider strings every kind of enumeration is written alike, so the first one will do. -/
theorem exists_writesAlias_of_plain (plain : m.stringOverride owner.scope p.slot = none)
    {v : ListedValue} (listed : v ∈ p.kind.values) :
    ∃ leaf ∈ p.kind.written, m.writesAlias owner.scope p.slot leaf = true := by
  obtain ⟨part, below, lists⟩ := List.mem_flatMap.mp listed
  have enumerated : part.isEnumerated = true :=
    part.isEnumerated_iff.mpr (List.ne_nil_of_mem lists)
  obtain ⟨leaf, written, kind⟩ := p.kind.exists_written below enumerated
  refine ⟨leaf, written, (m.writesAlias_iff ..).mpr ?_⟩
  obtain ⟨w, own⟩ := List.exists_mem_of_ne_nil _ (leaf.isEnumerated_iff.mp kind)
  refine ⟨w, own, ?_⟩
  rw [plain]
  cases w <;> rfl

theorem writesAlias_iff_of_widened {wider : String} {leaf : FieldType}
    (widened : m.stringOverride owner.scope p.slot = some wider) :
    m.writesAlias owner.scope p.slot leaf = true ↔
      ∃ n, ListedValue.integer n ∈ leaf.ownValues := by
  rw [writesAlias_iff, widened]
  constructor
  · rintro ⟨v, own, kept⟩
    cases v with
    | string s => cases kept
    | integer n => exact ⟨n, own⟩
  · rintro ⟨n, own⟩
    exact ⟨_, own, rfl⟩

theorem unionValues_of_widened {wider : String} {v : ListedValue}
    (widened : m.stringOverride owner.scope p.slot = some wider) :
    v ∈ m.unionValues owner p ↔ v ∈ p.kind.values ∧ ∃ n, v = .integer n := by
  rw [unionValues, List.mem_filter, widened]
  cases v with
  | string s => simp [ListedValue.isKept]
  | integer n => simp [ListedValue.isKept]

theorem admits_of_plain (plain : m.stringOverride owner.scope p.slot = none) {v : ListedValue}
    (listed : v ∈ p.kind.values) : m.Admits owner p v := by
  have needed : v ∈ m.unionValues owner p := by
    rw [unionValues_of_plain plain]
    exact listed
  have declared := aliasFor_of_mem needed
  exact .inl ⟨_, declared, List.mem_map_of_mem needed,
    (namesUnion_iff declared).mpr (exists_writesAlias_of_plain plain listed)⟩

theorem admits_integer_iff {wider : String} {n : Int64}
    (widened : m.stringOverride owner.scope p.slot = some wider)
    (listed : .integer n ∈ p.kind.values) :
    m.Admits owner p (.integer n) ↔
      ∃ leaf ∈ p.kind.written, ∃ k, ListedValue.integer k ∈ leaf.ownValues := by
  have needed : .integer n ∈ m.unionValues owner p :=
    (unionValues_of_widened widened).mpr ⟨listed, n, rfl⟩
  have declared := aliasFor_of_mem needed
  have named := namesUnion_iff declared
  simp only [writesAlias_iff_of_widened widened] at named
  rw [← named]
  constructor
  · rintro (⟨a, given, _, names⟩ | ⟨s, _, impossible, _⟩)
    · rw [declared] at given
      cases given
      exact names
    · cases impossible
  · intro names
    exact .inl ⟨_, declared, List.mem_map_of_mem needed, names⟩

theorem admits_string_iff {wider s : String}
    (widened : m.stringOverride owner.scope p.slot = some wider) :
    m.Admits owner p (.string s) ↔ ∃ leaf ∈ p.kind.written, leaf.isString = true := by
  rw [← hasWider_iff widened]
  constructor
  · rintro (⟨a, declared, inside, _⟩ | ⟨_, other, _, given, has⟩)
    · -- The literal union of a field with wider strings holds integers alone.
      obtain ⟨_, rfl⟩ := aliasFor_eq_some_iff.mp declared
      obtain ⟨v, needed, same⟩ := List.mem_map.mp inside
      obtain ⟨_, n, rfl⟩ := (unionValues_of_widened widened).mp needed
      exact absurd same.symm (stringLiteral_ne_integerLiteral s n)
    · rw [widened] at given
      cases given
      exact has
  · intro has
    exact .inr ⟨s, wider, rfl, widened, has⟩

theorem namesUnion_of_plain (plain : m.stringOverride owner.scope p.slot = none) {a : Alias}
    (declared : m.aliasFor owner p = some a) : m.NamesUnion owner p a := by
  obtain ⟨some, _⟩ := aliasFor_eq_some_iff.mp declared
  obtain ⟨v, needed⟩ := List.exists_mem_of_ne_nil _ some
  have listed : v ∈ p.kind.values := (List.mem_filter.mp needed).1
  apply (namesUnion_iff declared).mpr
  exact exists_writesAlias_of_plain plain listed

theorem allNamed_iff_of_widened {wider : String}
    (widened : m.stringOverride owner.scope p.slot = some wider) :
    (∀ a, m.aliasFor owner p = some a → m.NamesUnion owner p a) ↔ p.kind.WritesIntegers := by
  constructor
  · intro named n listed
    have needed : .integer n ∈ m.unionValues owner p :=
      (unionValues_of_widened widened).mpr ⟨listed, n, rfl⟩
    have declared := aliasFor_of_mem needed
    have written := (namesUnion_iff declared).mp (named _ declared)
    simp only [writesAlias_iff_of_widened widened] at written
    exact written
  · intro integers a declared
    obtain ⟨some, _⟩ := aliasFor_eq_some_iff.mp declared
    obtain ⟨v, needed⟩ := List.exists_mem_of_ne_nil _ some
    obtain ⟨listed, n, rfl⟩ := (unionValues_of_widened widened).mp needed
    apply (namesUnion_iff declared).mpr
    simp only [writesAlias_iff_of_widened widened]
    exact integers n listed

theorem allAdmitted_iff_of_widened {wider : String}
    (widened : m.stringOverride owner.scope p.slot = some wider) :
    (∀ v ∈ p.kind.values, m.Admits owner p v) ↔
      p.kind.WritesIntegers ∧ p.kind.WritesStrings := by
  constructor
  · intro all
    constructor
    · intro n listed
      exact (admits_integer_iff widened listed).mp (all _ listed)
    · intro s listed
      exact (admits_string_iff widened).mp (all _ listed)
  · rintro ⟨integers, strings⟩ v listed
    cases v with
    | string s => exact (admits_string_iff widened).mpr (strings s listed)
    | integer n => exact (admits_integer_iff widened listed).mpr (integers n listed)

end

/-- A member lets every listed value through exactly if it takes no wider strings or writes a part
of each kind that it lists. Its literal union, if it has one, is then named; for that alone integers
matter. -/
theorem admits_listed_iff (m : Mapper) (owner : Owner) (p : Property) :
    ((∀ v ∈ p.kind.values, m.Admits owner p v) ↔
      m.stringOverride owner.scope p.slot = none ∨
        p.kind.WritesIntegers ∧ p.kind.WritesStrings) ∧
    ((∀ a, m.aliasFor owner p = some a → m.NamesUnion owner p a) ↔
      m.stringOverride owner.scope p.slot = none ∨ p.kind.WritesIntegers) := by
  cases widened : m.stringOverride owner.scope p.slot with
  | none =>
    have admitted : ∀ v ∈ p.kind.values, m.Admits owner p v := by
      intro v listed
      exact admits_of_plain widened listed
    have named : ∀ a, m.aliasFor owner p = some a → m.NamesUnion owner p a := by
      intro a declared
      exact namesUnion_of_plain widened declared
    exact ⟨iff_of_true admitted (.inl rfl), iff_of_true named (.inl rfl)⟩
  | some wider =>
    simp only [reduceCtorEq, false_or]
    exact ⟨allAdmitted_iff_of_widened widened, allNamed_iff_of_widened widened⟩

end Mapper

def attachment : Property where
  name := mediaField
  description := ""
  required := true
  kind := .anyOf [.string ["cover"] none none none, .integer [1] none none none]

/-- The union writes its first enumerated variant, which wider strings took over, and passes over
the number: a literal union is declared for it that no member names. -/
theorem attachment_loses_number :
    .integer 1 ∈ attachment.kind.values ∧
      Mapper.standard.aliasFor ⟨"Post", .objects⟩ attachment =
        some ⟨"TelegramPostMedia", ["1"]⟩ ∧
      Mapper.standard.text ⟨"Post", .objects⟩ attachment.slot attachment.kind =
        "TelegramInputFile | string" ∧
      ¬ StandsIn "TelegramPostMedia" "TelegramInputFile | string" ∧
      ¬ Mapper.standard.Admits ⟨"Post", .objects⟩ attachment (.integer 1) := by
  have declared : Mapper.standard.aliasFor ⟨"Post", .objects⟩ attachment =
      some ⟨"TelegramPostMedia", ["1"]⟩ := by decide +kernel
  have written : Mapper.standard.text ⟨"Post", .objects⟩ attachment.slot attachment.kind =
      "TelegramInputFile | string" := by decide +kernel
  have unnamed : ¬ StandsIn "TelegramPostMedia" "TelegramInputFile | string" := by
    intro stands
    exact absurd (stands.mem (c := 'M') (by decide)) (by decide)
  refine ⟨by decide, declared, written, unnamed, ?_⟩
  rintro (⟨a, given, _, _, _, _, _, stands⟩ | ⟨s, wider, impossible, _⟩)
  · rw [declared] at given
    cases given
    exact unnamed (written ▸ stands)
  · cases impossible

end BotTypings
