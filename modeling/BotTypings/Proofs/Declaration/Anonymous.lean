import BotTypings.Proofs.Declaration.Names
import BotTypings.Proofs.TypeText.Standing

/-! Types in anonymous positions: what a union object stands for, and what a method returns. No
literal union is declared for such a position, yet an enumeration in it is written as the union of a
field without a name: for an object that is its own name, for a method the method's in capitals. -/
namespace BotTypings

open BotTypings.Text

def Schema.aliases (m : Mapper) (s : Schema) : List Alias :=
  (s.objectDeclarations m ++ s.paramsDeclarations m).flatMap (·.aliases)

/-- In its anonymous position a type is written as a text, and each of its enumerations through a
declared literal union that holds the values. -/
structure Mapper.Resolved (m : Mapper) (declared : List Alias) (owner : Owner) (t : FieldType) :
    Prop where
  filled : m.text owner .anonymous t ≠ ""
  named : ∀ part ∈ t.parts, part.isEnumerated = true → ∃ a ∈ declared,
    m.text owner .anonymous part = a.name ∧ StandsIn a.name (m.text owner .anonymous t) ∧
      ∀ v ∈ part.ownValues, v.literal ∈ a.literals

namespace FieldType

/-- Nothing at all is written for the type of an owner that is called so. -/
inductive Blank (own : String) : FieldType → Prop
  | verbatim : Blank own (.expression "")
  | empty : Blank own (.anyOf [])
  | unnamed {t : FieldType} : own = "" → t.isEnumerated = true → Blank own t
  | unnamedVariants {ts : List FieldType} :
    own = "" → (∀ t ∈ ts, t.isEnumerated = true) → Blank own (.anyOf ts)
  | only {t : FieldType} : Blank own t → Blank own (.anyOf [t])

/-- Something is written, and a declared literal union bears the owner's own name and holds the
values of every enumeration. -/
structure Resolvable (declared : List Alias) (own : String) (t : FieldType) : Prop where
  filled : ¬ t.Blank own
  named : ∀ part ∈ t.parts, part.isEnumerated = true → ∃ a ∈ declared,
    a.name = own ∧ ∀ v ∈ part.ownValues, v.literal ∈ a.literals

end FieldType

namespace Mapper

theorem stringOverride_anonymous (m : Mapper) (scope : Scope) :
    m.stringOverride scope .anonymous = none := rfl

theorem text_anonymous (m : Mapper) (owner : Owner) {t : FieldType}
    (enumerated : t.isEnumerated = true) :
    m.text owner .anonymous t = m.aliasName owner "" := by
  refine text_of_writesAlias ((m.writesAlias_iff ..).mpr ?_)
  obtain ⟨v, own⟩ := List.exists_mem_of_ne_nil _ (t.isEnumerated_iff.mp enumerated)
  refine ⟨v, own, ?_⟩
  rw [stringOverride_anonymous]
  cases v <;> rfl

/-- Whichever of its enumerations a type writes, the name is the same. -/
theorem aliasName_stands_anonymous (m : Mapper) (owner : Owner) {t part : FieldType}
    (below : part ∈ t.parts) (enumerated : part.isEnumerated = true) :
    StandsIn (m.aliasName owner "") (m.text owner .anonymous t) := by
  obtain ⟨leaf, written, kind⟩ := t.exists_written below enumerated
  exact stands_of_text written (m.text_anonymous owner kind)

theorem aliasName_object (m : Mapper) (o : Object) : m.aliasName o.owner "" = m.objectName o.name :=
  String.append_empty

theorem aliasName_method (m : Mapper) (method : Method) :
    m.aliasName method.owner "" = capitalize method.name :=
  String.append_empty

theorem joined_eq_empty_iff {first : String} {rest : List String} :
    joined " | " (first :: rest) = "" ↔ first = "" ∧ rest = [] := by
  cases rest with
  | nil => simp [joined]
  | cons next rest => simp [joined]

theorem objectName_standard (name : String) : standard.objectName name ≠ "" := by
  rw [objectName, Ne, String.append_eq_empty_iff]
  exact fun empty => absurd empty.1 (by decide)

theorem reference_standard (target : String) (scope : Scope) :
    standard.reference target scope ≠ "" := by
  cases scope with
  | objects => exact objectName_standard target
  | methods =>
    rw [reference, Ne, String.append_eq_empty_iff]
    exact fun empty => objectName_standard target empty.2

theorem referenceText_standard (scope : Scope) (target : String) :
    standard.referenceText scope target ≠ "" := by
  unfold referenceText
  split
  · simp [reference_standard]
  · exact reference_standard target scope

theorem literal_ne_empty (value : String) : TypeText.literal value ≠ "" := by
  intro empty
  have nothing := TypeText.literal_toList value
  rw [empty] at nothing
  cases nothing

theorem arrayText_ne_empty (inner : String) : arrayText inner ≠ "" := by
  unfold arrayText
  split <;> simp

section

variable (owner : Owner)

theorem blank_of_no_union {t : FieldType} (noUnion : ∀ variants, t ≠ .anyOf variants)
    (nothing : standard.text owner .anonymous t = "") : t.Blank (standard.aliasName owner "") := by
  by_cases enumerated : t.isEnumerated = true
  · rw [standard.text_anonymous owner enumerated] at nothing
    exact .unnamed nothing enumerated
  · cases t with
    | integer values =>
      cases values with
      | nil => simp [text] at nothing
      | cons => exact absurd rfl enumerated
    | float => simp [text] at nothing
    | string values default =>
      cases values with
      | nil =>
        simp only [text, stringOverride_anonymous] at nothing
        cases default with
        | none => simp at nothing
        | some value => exact absurd nothing (literal_ne_empty value)
      | cons => exact absurd rfl enumerated
    | bool default =>
      cases default with
      | none => simp [text] at nothing
      | some value => simp [text, Slot.anonymous] at nothing
    | reference target =>
      rw [text] at nothing
      exact absurd nothing (referenceText_standard owner.scope target)
    | array element =>
      rw [text] at nothing
      exact absurd nothing (arrayText_ne_empty _)
    | anyOf variants => exact absurd rfl (noUnion variants)
    | expression written =>
      rw [text] at nothing
      subst nothing
      exact .verbatim

theorem text_anyOf_anonymous (variants : List FieldType) :
    standard.text owner .anonymous (.anyOf variants) =
      joined " | " (standard.variantTexts owner .anonymous false variants) := by
  rw [text, withoutUploaded, if_neg fun media => absurd media.1 (by decide)]

/-- Behind an enumerated variant only other kinds are written. -/
theorem variantTexts_true_eq_nil_iff (ts : List FieldType) :
    standard.variantTexts owner .anonymous true ts = [] ↔ ∀ t ∈ ts, t.isEnumerated = true := by
  induction ts with
  | nil => simp [variantTexts]
  | cons t rest ih =>
    rw [variantTexts]
    by_cases enumerated : t.isEnumerated = true
    · simp [enumerated, ih]
    · simp [enumerated]

theorem variantTexts_false_eq_nil_iff (ts : List FieldType) :
    standard.variantTexts owner .anonymous false ts = [] ↔ ts = [] := by
  cases ts with
  | nil => simp [variantTexts]
  | cons t rest =>
    rw [variantTexts]
    split <;> simp

theorem text_anyOf_eq_empty_iff (first : FieldType) (rest : List FieldType) :
    standard.text owner .anonymous (.anyOf (first :: rest)) = "" ↔
      standard.text owner .anonymous first = "" ∧
        (rest = [] ∨ ∀ t ∈ first :: rest, t.isEnumerated = true) := by
  rw [text_anyOf_anonymous, variantTexts, if_neg Bool.false_ne_true]
  by_cases enumerated : first.isEnumerated = true
  · rw [if_pos enumerated, joined_eq_empty_iff, variantTexts_true_eq_nil_iff,
      List.forall_mem_cons]
    refine and_congr_right fun _ => ⟨fun all => .inr ⟨enumerated, all⟩, ?_⟩
    rintro (rfl | ⟨_, all⟩)
    · exact List.forall_mem_nil _
    · exact all
  · rw [if_neg enumerated, joined_eq_empty_iff, variantTexts_false_eq_nil_iff,
      List.forall_mem_cons]
    simp [enumerated]

theorem text_of_blank {t : FieldType} (blank : t.Blank (standard.aliasName owner "")) :
    standard.text owner .anonymous t = "" := by
  induction blank with
  | verbatim => rfl
  | empty => rfl
  | unnamed nameless enumerated => rw [standard.text_anonymous owner enumerated, nameless]
  | @unnamedVariants ts nameless all =>
    cases ts with
    | nil => rfl
    | cons first rest =>
      refine (text_anyOf_eq_empty_iff owner first rest).mpr ⟨?_, .inr all⟩
      rw [standard.text_anonymous owner (all first List.mem_cons_self), nameless]
  | only _ ih => exact (text_anyOf_eq_empty_iff owner _ []).mpr ⟨ih, .inl rfl⟩

theorem blank_of_text : (t : FieldType) → standard.text owner .anonymous t = "" →
    t.Blank (standard.aliasName owner "")
  | .integer .., nothing | .float .., nothing | .string .., nothing | .bool .., nothing
  | .reference .., nothing | .array .., nothing | .expression .., nothing =>
    blank_of_no_union owner nofun nothing
  | .anyOf [], _ => .empty
  | .anyOf (first :: rest), nothing => by
    obtain ⟨nothingFirst, alone | all⟩ := (text_anyOf_eq_empty_iff owner first rest).mp nothing
    · subst alone
      exact .only (blank_of_text first nothingFirst)
    · rw [standard.text_anonymous owner (all first List.mem_cons_self)] at nothingFirst
      exact .unnamedVariants nothingFirst all

theorem text_eq_empty_iff (t : FieldType) :
    standard.text owner .anonymous t = "" ↔ t.Blank (standard.aliasName owner "") :=
  ⟨blank_of_text owner t, text_of_blank owner⟩

theorem resolved_iff (declared : List Alias) (t : FieldType) :
    standard.Resolved declared owner t ↔ t.Resolvable declared (standard.aliasName owner "") := by
  constructor
  · intro resolved
    refine ⟨(text_eq_empty_iff owner t).not.mp resolved.filled, ?_⟩
    intro part below enumerated
    obtain ⟨a, known, written, _, holds⟩ := resolved.named part below enumerated
    rw [standard.text_anonymous owner enumerated] at written
    exact ⟨a, known, written.symm, holds⟩
  · intro resolvable
    refine ⟨(text_eq_empty_iff owner t).not.mpr resolvable.filled, ?_⟩
    intro part below enumerated
    obtain ⟨a, known, named, holds⟩ := resolvable.named part below enumerated
    refine ⟨a, known, ?_, ?_, holds⟩
    · rw [standard.text_anonymous owner enumerated, named]
    · rw [named]
      exact standard.aliasName_stands_anonymous owner below enumerated

end

end Mapper

/-- The type of a union object is resolved exactly when something is written for it and a declared
literal union of the object's own name has the values of every enumeration in it. For what a method
returns, that is the name of the method in capitals. -/
theorem Schema.anonymous_resolved_iff (s : Schema) :
    (∀ o ∈ s.objects, ∀ variants, o.kind = .anyOf variants →
      (∃ before, objectText .standard o = before ++ ("export type " ++
        Mapper.standard.objectName o.name ++ o.generics ++ " = " ++
          Mapper.standard.text o.owner .anonymous (.anyOf variants) ++ "\n")) ∧
      (Mapper.standard.Resolved (s.aliases .standard) o.owner (.anyOf variants) ↔
        (FieldType.anyOf variants).Resolvable (s.aliases .standard)
          (Mapper.standard.objectName o.name))) ∧
    ∀ method ∈ s.methods,
      (∃ before, method.signature .standard =
        before ++ Mapper.standard.text method.owner .anonymous method.returns ++ ">") ∧
      (Mapper.standard.Resolved (s.aliases .standard) method.owner method.returns ↔
        method.returns.Resolvable (s.aliases .standard) (capitalize method.name)) := by
  constructor
  · intro o _ variants kind
    constructor
    · refine ⟨String.join ((o.declaration .standard).aliases.map Alias.render) ++
        Documentation.block "" (o.declaration .standard).doc, ?_⟩
      have shape : (o.declaration .standard).shape =
          .union (Mapper.standard.text o.owner .anonymous (.anyOf variants)) := by
        change o.shape .standard = _
        rw [Object.shape, kind]
        rfl
      rw [objectText, Declaration.render, shape]
      rfl
    · rw [← Mapper.standard.aliasName_object]
      exact Mapper.resolved_iff o.owner _ _
  · intro method _
    constructor
    · rw [Method.signature]
      cases method.paramsShape with
      | none => exact ⟨"CallAPIWithoutParams<", rfl⟩
      | optional => exact ⟨_, rfl⟩
      | required => exact ⟨_, rfl⟩
    · rw [← Mapper.standard.aliasName_method]
      exact Mapper.resolved_iff method.owner _ _

def pollType : FieldType := .string ["regular", "quiz"] none none none

def pollTypeUnion : Object := ⟨"PollType", "", "", .anyOf [pollType], none⟩

def poll : Object := ⟨"Poll", "", "", .properties [⟨"type", "", true, pollType⟩], none⟩

/-- With a field of another object that makes the same name the union is resolved. -/
theorem Schema.poll_anonymous_resolved :
    (Schema.forum [pollTypeUnion, poll]).aliases .standard =
        [⟨"TelegramPollType", ["\"regular\"", "\"quiz\""]⟩] ∧
      Mapper.standard.Resolved ((Schema.forum [pollTypeUnion, poll]).aliases .standard)
        pollTypeUnion.owner (.anyOf [pollType]) ∧
      Mapper.standard.Resolved ((Schema.forum [pollTypeUnion, poll]).aliases .standard)
        ⟨menuButtonMethod, .methods⟩ (.bool (some true)) := by
  have aliases : (Schema.forum [pollTypeUnion, poll]).aliases .standard =
      [⟨"TelegramPollType", ["\"regular\"", "\"quiz\""]⟩] := by decide +kernel
  refine ⟨aliases, ?_, ?_⟩
  · have exactly := ((anonymous_resolved_iff (.forum [pollTypeUnion, poll])).1 pollTypeUnion
      (by decide) [pollType] rfl).2
    refine exactly.mpr ⟨?_, ?_⟩
    · exact (Mapper.text_eq_empty_iff pollTypeUnion.owner _).not.mp (by decide +kernel)
    · intro part below enumerated
      rw [aliases]
      rcases List.mem_cons.mp below with rfl | below
      · cases enumerated
      · cases List.mem_singleton.mp below
        exact ⟨_, List.mem_singleton_self _, rfl, by decide +kernel⟩
  · have exactly := ((anonymous_resolved_iff (.forum [pollTypeUnion, poll])).2
      ⟨menuButtonMethod, "", "", [], .bool (some true)⟩ (by decide)).2
    refine exactly.mpr ⟨?_, ?_⟩
    · exact (Mapper.text_eq_empty_iff ⟨menuButtonMethod, .methods⟩ _).not.mp (by decide +kernel)
    · intro part below enumerated
      cases List.mem_singleton.mp below
      cases enumerated

theorem Schema.pollTypeUnion_loads : ∃ text, Schema.load text = .ok (.forum [pollTypeUnion]) := by
  have portable : (Schema.forum [pollTypeUnion]).Portable := by
    constructor
    · decide
    · decide
    · simp [pollTypeUnion, pollType, forum, fieldTypes, Method.parts, ObjectKind.parts,
        FieldType.plainString, FieldType.plainInteger, FieldType.parts, FieldType.partsOfAll]
    · decide
    · simp [FieldType.FloatsBare, pollTypeUnion, pollType, forum, fieldTypes, Method.parts,
        ObjectKind.parts, FieldType.plainString, FieldType.plainInteger, FieldType.parts,
        FieldType.partsOfAll]
    · intro v written
      cases written
      decide
  obtain ⟨v, written⟩ := (Schema.forum [pollTypeUnion]).writable_iff.mpr portable.noExpression
  exact ⟨v.compact, portable.load_compact written⟩

/-- Without such a field the type is declared as itself. -/
theorem Schema.pollTypeUnion_circular :
    ∃ text t, Schema.load text = .ok (.forum [pollTypeUnion]) ∧
      (Schema.forum [pollTypeUnion]).patched ⟨["EUR"]⟩ = .ok t ∧ pollTypeUnion ∈ t.objects ∧
      objectText .standard pollTypeUnion = "export type TelegramPollType = TelegramPollType\n" ∧
      ¬ Mapper.standard.Resolved (t.aliases .standard) pollTypeUnion.owner (.anyOf [pollType]) := by
  obtain ⟨text, loaded⟩ := pollTypeUnion_loads
  refine ⟨text, _, loaded, forum_patched [pollTypeUnion] "EUR" [], by decide +kernel,
    by decide +kernel, ?_⟩
  intro resolved
  obtain ⟨a, known, written, _⟩ := resolved.named pollType (by decide) rfl
  have undeclared : ∀ a ∈ ((Schema.forum [pollTypeUnion]).amended ⟨["EUR"]⟩).aliases .standard,
      Mapper.standard.text pollTypeUnion.owner .anonymous pollType ≠ a.name := by decide +kernel
  exact undeclared a known written

end BotTypings
