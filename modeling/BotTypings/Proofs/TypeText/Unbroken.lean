import BotTypings.Proofs.Json.Tree
import BotTypings.Proofs.Text.Casing
import BotTypings.Proofs.TypeText.Listed

/-! Type texts on a single line. Whatever a type is built of, its text breaks no line unless a text
that is copied into it does: the name of an owner or a field, a reference, a verbatim text, a value. -/
namespace BotTypings

open BotTypings.Text

namespace FieldType

/-- What a type holds that is copied into its text. -/
def ownTexts : FieldType → List String
  | string enumeration default _ _ => enumeration ++ default.toList
  | reference name => [name]
  | expression text => [text]
  | _ => []

def Unbroken (t : FieldType) : Prop := ∀ part ∈ t.parts, ∀ text ∈ part.ownTexts, Text.Unbroken text

instance : DecidablePred FieldType.Unbroken := fun t =>
  inferInstanceAs (Decidable (∀ part ∈ t.parts, ∀ text ∈ part.ownTexts, Text.Unbroken text))

theorem mem_parts_self (t : FieldType) : t ∈ t.parts := by
  cases t <;> simp [parts]

theorem unbroken_array {element : FieldType} (unbroken : (array element).Unbroken) :
    element.Unbroken :=
  fun part below => unbroken part (by simp [parts, below])

theorem mem_partsOfAll {part : FieldType} {ts : List FieldType} :
    part ∈ partsOfAll ts ↔ ∃ t ∈ ts, part ∈ t.parts := by
  induction ts with
  | nil => simp [partsOfAll]
  | cons t ts ih => simp [partsOfAll, ih]

theorem unbroken_anyOf_iff {variants : List FieldType} :
    (anyOf variants).Unbroken ↔ ∀ t ∈ variants, t.Unbroken := by
  constructor
  · intro unbroken t mem part below
    refine unbroken part ?_
    rw [parts, List.mem_cons, mem_partsOfAll]
    exact .inr ⟨t, mem, below⟩
  · intro each part below
    rw [parts, List.mem_cons, mem_partsOfAll] at below
    rcases below with rfl | ⟨t, mem, inside⟩
    · nofun
    · exact each t mem part inside

end FieldType

structure Mapper.Unbroken (m : Mapper) : Prop where
  lead : Text.Unbroken m.lead
  objectsNamespace : Text.Unbroken m.objectsNamespace

theorem Mapper.standard_unbroken : Mapper.standard.Unbroken := ⟨by decide, by decide⟩

theorem TypeText.unbroken_literal {value : String} (unbroken : Unbroken value) :
    Unbroken (literal value) := by
  rw [Unbroken, mem_literal_iff (by decide) (by decide)]
  exact unbroken

theorem unbroken_integer (i : Int) : Unbroken (toString i) :=
  Json.notMem_integer (by decide) (by decide) i

namespace Mapper

theorem unbroken_arrayText {inner : String} (unbroken : Text.Unbroken inner) :
    Text.Unbroken (arrayText inner) := by
  rw [arrayText]
  split
  · exact unbroken_append.mpr ⟨unbroken_append.mpr ⟨by decide, unbroken⟩, by decide⟩
  · exact unbroken_append.mpr ⟨unbroken, by decide⟩

theorem mem_of_withoutUploaded {m : Mapper} {scope : Scope} {slot : Slot} {texts : List String}
    {text : String} (kept : text ∈ m.withoutUploaded scope slot texts) : text ∈ texts := by
  rw [withoutUploaded] at kept
  split at kept
  · exact (List.mem_filter.mp kept).1
  · exact kept

section

variable {m : Mapper} (plain : m.Unbroken)
include plain

theorem unbroken_objectName {name : String} (unbroken : Text.Unbroken name) :
    Text.Unbroken (m.objectName name) :=
  unbroken_append.mpr ⟨plain.lead, unbroken_capitalize unbroken⟩

theorem unbroken_reference {target : String} (unbroken : Text.Unbroken target) (scope : Scope) :
    Text.Unbroken (m.reference target scope) := by
  have name := unbroken_objectName plain unbroken
  cases scope with
  | objects => exact name
  | methods =>
    rw [reference, unbroken_append, unbroken_append]
    exact ⟨⟨plain.objectsNamespace, by decide⟩, name⟩

theorem unbroken_referenceText {target : String} (unbroken : Text.Unbroken target) (scope : Scope) :
    Text.Unbroken (m.referenceText scope target) := by
  have name := unbroken_reference plain unbroken scope
  rw [referenceText]
  split
  · simp only [unbroken_append]
    exact ⟨⟨⟨name, by decide⟩, name⟩, by decide⟩
  · exact name

theorem unbroken_stringOverride {scope : Scope} {slot : Slot} {wider : String}
    (widened : m.stringOverride scope slot = some wider) : Text.Unbroken wider := by
  unfold stringOverride at widened
  split at widened
  · cases widened
    exact unbroken_append.mpr ⟨unbroken_reference plain (by decide) scope, by decide⟩
  · split at widened
    · cases widened
      decide
    · split at widened
      · cases widened
        decide
      · split at widened
        · cases widened
          decide
        · cases widened

theorem unbroken_aliasName {owner : Owner} (ownerName : Text.Unbroken owner.name) {field : String}
    (fieldName : Text.Unbroken field) : Text.Unbroken (m.aliasName owner field) := by
  have suffix := unbroken_pascalCase fieldName
  unfold aliasName
  split
  · exact unbroken_append.mpr ⟨unbroken_objectName plain ownerName, suffix⟩
  · exact unbroken_append.mpr ⟨unbroken_capitalize ownerName, suffix⟩

end

section

variable {m : Mapper} {owner : Owner} {slot : Slot}

mutual

theorem unbroken_text (plain : m.Unbroken) (ownerName : Text.Unbroken owner.name)
    (slotName : Text.Unbroken slot.name) : (t : FieldType) → t.Unbroken →
      Text.Unbroken (m.text owner slot t)
  | .integer values _ _ _, _ => by
    rw [text]
    split
    · decide
    · exact unbroken_aliasName plain ownerName slotName
  | .float .., _ => by
    rw [text]
    decide
  | .bool none, _ => (by decide : Text.Unbroken "boolean")
  | .bool (some value), _ => by
    simp only [text]
    split
    · split <;> decide
    · decide
  | .string values default least most, unbroken => by
    cases widened : m.stringOverride owner.scope slot with
    | some wider =>
      simp only [text, widened]
      exact unbroken_stringOverride plain widened
    | none =>
      simp only [text, widened]
      split
      · cases default with
        | none => exact (by decide : Text.Unbroken "string")
        | some value =>
          exact TypeText.unbroken_literal
            (unbroken _ (FieldType.mem_parts_self _) value (by simp [FieldType.ownTexts]))
      · exact unbroken_aliasName plain ownerName slotName
  | .reference target, unbroken => by
    rw [text]
    refine unbroken_referenceText plain ?_ owner.scope
    exact unbroken _ (FieldType.mem_parts_self _) target (by simp [FieldType.ownTexts])
  | .array element, unbroken => by
    rw [text]
    exact unbroken_arrayText (unbroken_text plain ownerName slotName element
      (FieldType.unbroken_array unbroken))
  | .anyOf variants, unbroken => by
    rw [text]
    refine unbroken_joined (by decide) fun part kept => ?_
    exact unbroken_variantTexts plain ownerName slotName false variants
      (FieldType.unbroken_anyOf_iff.mp unbroken) part (mem_of_withoutUploaded kept)
  | .expression written, unbroken => by
    rw [text]
    exact unbroken _ (FieldType.mem_parts_self _) written (by simp [FieldType.ownTexts])

theorem unbroken_variantTexts (plain : m.Unbroken) (ownerName : Text.Unbroken owner.name)
    (slotName : Text.Unbroken slot.name) (enumerated : Bool) : (ts : List FieldType) →
      (∀ t ∈ ts, t.Unbroken) → ∀ part ∈ m.variantTexts owner slot enumerated ts, Text.Unbroken part
  | [], _, _, mem => by
    rw [variantTexts] at mem
    cases mem
  | t :: ts, unbroken, part, mem => by
    have later (passed : Bool) (mem : part ∈ m.variantTexts owner slot passed ts) :
        Text.Unbroken part :=
      unbroken_variantTexts plain ownerName slotName passed ts
        (fun u below => unbroken u (List.mem_cons_of_mem _ below)) part mem
    have here : Text.Unbroken (m.text owner slot t) :=
      unbroken_text plain ownerName slotName t (unbroken t List.mem_cons_self)
    rw [variantTexts] at mem
    split at mem
    · split at mem
      · exact later true mem
      · rcases List.mem_cons.mp mem with rfl | after
        · exact here
        · exact later true after
    · rcases List.mem_cons.mp mem with rfl | after
      · exact here
      · exact later enumerated after

end

end

end Mapper

structure Property.Unbroken (p : Property) : Prop where
  name : Text.Unbroken p.name
  kind : p.kind.Unbroken

structure Alias.Unbroken (a : Alias) : Prop where
  name : Text.Unbroken a.name
  literals : ∀ value ∈ a.literals, Text.Unbroken value

theorem FieldType.unbroken_value {t : FieldType} (unbroken : t.Unbroken) {v : ListedValue}
    (below : ∃ part ∈ t.parts, v ∈ part.ownValues) : Text.Unbroken v.literal := by
  obtain ⟨part, inside, lists⟩ := below
  cases v with
  | integer n => exact unbroken_integer n.toInt
  | string value =>
    refine TypeText.unbroken_literal (unbroken part inside value ?_)
    cases part <;> simp_all [ownValues, ownTexts]

theorem Mapper.unbroken_aliasFor {m : Mapper} (plain : m.Unbroken) {owner : Owner}
    (ownerName : Text.Unbroken owner.name) {p : Property} (unbroken : p.Unbroken) {a : Alias}
    (declared : m.aliasFor owner p = some a) : a.Unbroken := by
  obtain ⟨_, rfl⟩ := aliasFor_eq_some_iff.mp declared
  refine ⟨unbroken_aliasName plain ownerName unbroken.name, fun value mem => ?_⟩
  obtain ⟨v, needed, rfl⟩ := List.mem_map.mp mem
  exact FieldType.unbroken_value unbroken.kind (mem_unionValues.mp needed).1

end BotTypings
