import BotTypings.Declaration.Module
import BotTypings.Proofs.Declaration.Anonymous
import BotTypings.Proofs.Declaration.Assembly
import BotTypings.Proofs.Declaration.LiteralUnions
import BotTypings.Proofs.Patch.Outcome

/-! Currency codes from the list that patches are given to the union that is declared for them. The
union depends on the codes alone. Whatever the schema holds, what is written for its first object of
currencies reads back as the given codes, in their order and with their repetitions, and the platform's
own currency stands behind them unless it was given. -/
namespace BotTypings

open BotTypings.Text

/-- What the module of objects writes for an object that stands for a union. -/
def unionLine (m : Mapper) (o : Object) (union : String) : String :=
  Documentation.block "" (o.declaration m).doc ++ "export type " ++ m.objectName o.name ++ " = " ++
    union ++ "\n"

/-- The module of objects writes the union for the first object of the name, in its place between the
texts of the others. -/
def Schema.WritesUnion (m : Mapper) (s : Schema) (name union : String) : Prop :=
  ∃ before o after, s.objects = before ++ o :: after ∧ o.name = name ∧
    (∀ other ∈ before, other.name ≠ name) ∧
    Module.body m s .objects =
      String.join (before.map (objectText m · ++ "\n")) ++ unionLine m o union ++
        String.join (after.map ("\n" ++ objectText m ·))

/-- A list is cut in one way only at the first entry that passes a test. -/
theorem first_unique {α : Type} {p : α → Prop} {before before' : List α} {x x' : α}
    {after after' : List α} (same : before ++ x :: after = before' ++ x' :: after')
    (here : p x) (here' : p x') (none : ∀ y ∈ before, ¬ p y) (none' : ∀ y ∈ before', ¬ p y) :
    before = before' ∧ x = x' ∧ after = after' := by
  induction before generalizing before' with
  | nil =>
    cases before' with
    | nil => simpa using same
    | cons y before' =>
      cases same
      exact absurd here (none' x List.mem_cons_self)
  | cons y before ih =>
    cases before' with
    | nil =>
      cases same
      exact absurd here' (none x' List.mem_cons_self)
    | cons y' before' =>
      obtain ⟨rfl, rest⟩ := List.cons.inj same
      obtain ⟨rfl, first, last⟩ := ih rest (fun z mem => none z (List.mem_cons_of_mem _ mem))
        fun z mem => none' z (List.mem_cons_of_mem _ mem)
      exact ⟨rfl, first, last⟩

theorem Schema.WritesUnion.unique {m : Mapper} {s : Schema} {name union other : String}
    (writes : s.WritesUnion m name union) (writesToo : s.WritesUnion m name other) :
    union = other := by
  obtain ⟨before, o, after, objects, named, first, body⟩ := writes
  obtain ⟨before', o', after', objects', named', first', body'⟩ := writesToo
  obtain ⟨rfl, rfl, rfl⟩ :=
    first_unique (p := (·.name = name)) (objects.symm.trans objects') named named' first first'
  have lines := congrArg String.toList (body.symm.trans body')
  simp only [unionLine, String.toList_append, List.append_cancel_right_eq,
    List.append_cancel_left_eq] at lines
  exact String.toList_inj.mp lines

/-- An object that stands for a union, without type parameters, is written as one line. -/
theorem objectText_union (m : Mapper) {o : Object} {variants : List FieldType}
    (kind : o.kind = .anyOf variants) (plain : o.typeParameters = none) :
    objectText m o = unionLine m o (m.union o.owner .anonymous variants) := by
  have aliases : (o.declaration m).aliases = [] := by
    simp [Object.declaration, Object.properties, kind, aliasesFor]
  have generics : (o.declaration m).generics = "" := by
    simp [Object.declaration, Object.generics, plain]
  have shape : (o.declaration m).shape = .union (m.union o.owner .anonymous variants) := by
    simp [Object.declaration, Object.shape, kind]
  have noAliases : String.join (([] : List Alias).map Alias.render) = "" := rfl
  simp only [objectText, Declaration.render, aliases, generics, shape, noAliases,
    String.empty_append, String.append_empty, unionLine, String.append_assoc]
  rfl

theorem Mapper.union_literals (m : Mapper) (owner : Owner) (codes : List String) :
    m.union owner .anonymous (codes.map FieldType.literal) =
      joined " | " ((codes.map ListedValue.string).map ListedValue.literal) := by
  have text (code : String) :
      m.text owner .anonymous (.literal code) = (ListedValue.string code).literal := by
    simp [FieldType.literal, Mapper.text, stringOverride_anonymous, ListedValue.literal]
  have variants : m.variantTexts owner .anonymous false (codes.map FieldType.literal) =
      (codes.map ListedValue.string).map ListedValue.literal := by
    induction codes with
    | nil => rfl
    | cons code codes ih =>
      have single : (FieldType.literal code).isEnumerated = false := rfl
      simp [Mapper.variantTexts, single, text, ih]
  have kept : ∀ parts, m.withoutUploaded owner.scope .anonymous parts = parts := fun _ => rfl
  rw [Mapper.union, Mapper.text, variants, kept]

/-- No patch behind that of the currencies stores or edits an object of their name. -/
theorem Schema.amended_currencies (codes : List String) (s : Schema) :
    (s.amended ⟨codes⟩).object? currenciesObject = some (currencyUnion codes) := by
  rw [Schema.object?, amended_objects,
    find?_modifyFirst_other Object.name inputFileObject currenciesObject (by decide)
      Object.asBlob_name,
    find?_storeAll (additions_apart codes)]
  rfl

theorem withStars_eq (codes : List String) :
    withStars codes = codes ++ if "XTR" ∈ codes then [] else ["XTR"] := by
  unfold withStars starsCurrency
  split <;> simp

theorem withStars_ne_nil (codes : List String) : withStars codes ≠ [] := by
  unfold withStars
  split <;> rename_i stars
  · exact List.ne_nil_of_mem stars
  · simp

/-- The text of the union for the given codes. -/
def currencyText (codes : List String) : String :=
  joined " | " (((withStars codes).map ListedValue.string).map ListedValue.literal)

theorem Schema.amended_writesUnion (codes : List String) (s : Schema) (m : Mapper) :
    (s.amended ⟨codes⟩).WritesUnion m currenciesObject (currencyText codes) := by
  obtain ⟨_, before, after, objects, first⟩ :=
    List.find?_eq_some_iff_append.mp (amended_currencies codes s)
  refine ⟨before, currencyUnion codes, after, objects, rfl, ?_, ?_⟩
  · intro o mem
    simpa using first o mem
  · rw [Module.body, objects, objectsText_around, objectText_union m rfl rfl,
      Mapper.union_literals]
    rfl

/-- After a run of the patches the first object of currencies is written as one union, from which the
given codes are read back, and the platform's own behind them if it was not given. The schema and the
mapper have no part in it. -/
theorem Schema.patched_currencies (codes : List String) :
    ∃ union, TypeText.readUnion union =
        some ((codes ++ if "XTR" ∈ codes then [] else ["XTR"]).map .string) ∧
      ∀ (s t : Schema) (m : Mapper), s.patched ⟨codes⟩ = .ok t →
        ∀ text, t.WritesUnion m "Currencies" text ↔ text = union := by
  refine ⟨currencyText codes, ?_, ?_⟩
  · rw [← withStars_eq]
    apply TypeText.readUnion_joined
    simpa using withStars_ne_nil codes
  · intro s t m done text
    have writes := amended_writesUnion codes s m
    rw [eq_amended done]
    constructor
    · intro other
      exact other.unique writes
    · rintro rfl
      exact writes

/-- Codes that look like quotes, separators and escapes, one of them given twice. -/
def oddCodes : List String := ["A\"", " | ", "A\"", ""]

/-- An object of currencies that a schema may hold before any patch. -/
def staleCurrencies : Object where
  name := "Currencies"
  description := "Codes of another list"
  documentationLink := ""
  kind := .properties [⟨"XTR", "", true, .plainString⟩]
  typeParameters := none

/-- A forum that holds two such objects, whose patched form writes the union for the first of them. -/
theorem Schema.forum_currencies :
    ∃ union, TypeText.readUnion union =
        some [.string "A\"", .string " | ", .string "A\"", .string "", .string "XTR"] ∧
      (forum [staleCurrencies, staleCurrencies]).patched ⟨oddCodes⟩ =
        .ok ((forum [staleCurrencies, staleCurrencies]).amended ⟨oddCodes⟩) ∧
      ((forum [staleCurrencies, staleCurrencies]).amended ⟨oddCodes⟩).WritesUnion .standard
        "Currencies" union := by
  obtain ⟨union, reads, written⟩ := patched_currencies oddCodes
  have done := forum_patched [staleCurrencies, staleCurrencies] "A\"" [" | ", "A\"", ""]
  exact ⟨union, reads, done, (written _ _ .standard done union).mpr rfl⟩

end BotTypings
