import BotTypings.Proofs.Schema.Parts
import BotTypings.TypeText.Mapper

/-! The values that a field type lists, gathered from all of its parts. The literal union of a field
holds exactly these, in their order; where the field takes wider strings, only the integers. -/
namespace BotTypings

inductive ListedValue where
  | string (value : String)
  | integer (value : Int64)
  deriving DecidableEq

def ListedValue.literal : ListedValue → String
  | string value => TypeText.literal value
  | integer value => toString value.toInt

/-- A field that takes wider strings has no use for the listed ones. -/
def ListedValue.isKept (widened : Bool) : ListedValue → Bool
  | string _ => !widened
  | integer _ => true

@[simp] theorem ListedValue.isKept_false (v : ListedValue) : v.isKept false = true := by
  cases v <;> rfl

def Enumeration.values : Enumeration → List ListedValue
  | strings values => values.map .string
  | integers values => values.map .integer

namespace FieldType

/-- The values that a type lists itself, those of its parts left out. -/
def ownValues : FieldType → List ListedValue
  | integer values _ _ _ => values.map .integer
  | string values _ _ _ => values.map .string
  | _ => []

def values (t : FieldType) : List ListedValue := t.parts.flatMap ownValues

theorem isEnumerated_iff (t : FieldType) : t.isEnumerated = true ↔ t.ownValues ≠ [] := by
  cases t with
  | integer values => cases values <;> simp [isEnumerated, ownValues]
  | string values => cases values <;> simp [isEnumerated, ownValues]
  | _ => simp [isEnumerated, ownValues]

mutual

theorem enumerations_values : (t : FieldType) →
    t.enumerations.flatMap Enumeration.values = t.parts.flatMap ownValues
  | integer [] .. | string [] .. => by simp [enumerations, parts, ownValues]
  | integer (_ :: _) .. | string (_ :: _) .. => by
    simp [enumerations, parts, ownValues, Enumeration.values]
  | float .. | bool .. | reference .. | expression .. => by simp [enumerations, parts, ownValues]
  | array element => by
    rw [enumerations, parts, List.flatMap_cons, enumerations_values element]
    rfl
  | anyOf variants => by
    rw [enumerations, parts, List.flatMap_cons, enumerationsOfAll_values variants]
    rfl

theorem enumerationsOfAll_values : (ts : List FieldType) →
    (enumerationsOfAll ts).flatMap Enumeration.values = (partsOfAll ts).flatMap ownValues
  | [] => rfl
  | t :: ts => by
    rw [enumerationsOfAll, partsOfAll, List.flatMap_append, List.flatMap_append,
      enumerations_values t, enumerationsOfAll_values ts]

end

end FieldType

namespace Mapper

theorem literalsOf_eq (widened : Bool) (e : Enumeration) :
    literalsOf widened e = (e.values.filter (·.isKept widened)).map ListedValue.literal := by
  cases e with
  | strings values =>
    cases widened with
    | true => simp [literalsOf, Enumeration.values, ListedValue.isKept]
    | false =>
      have all : (e : List ListedValue) → e.filter (·.isKept false) = e := by simp
      rw [all, Enumeration.values, List.map_map]
      rfl
  | integers values =>
    have all : ∀ v ∈ values.map ListedValue.integer, v.isKept widened = true := by
      simp [ListedValue.isKept]
    rw [Enumeration.values, List.filter_eq_self.mpr all, List.map_map]
    rfl

def unionValues (m : Mapper) (owner : Owner) (p : Property) : List ListedValue :=
  p.kind.values.filter (·.isKept (m.stringOverride owner.scope p.slot).isSome)

theorem unionValues_of_plain {m : Mapper} {owner : Owner} {p : Property}
    (plain : m.stringOverride owner.scope p.slot = none) :
    m.unionValues owner p = p.kind.values := by
  simp [unionValues, plain]

theorem aliasFor_eq (m : Mapper) (owner : Owner) (p : Property) :
    m.aliasFor owner p =
      if (m.unionValues owner p).isEmpty then none
      else some ⟨m.aliasName owner p.name, (m.unionValues owner p).map ListedValue.literal⟩ := by
  have literals (widened : Bool) :
      p.kind.enumerations.flatMap (literalsOf widened) =
        (p.kind.values.filter (·.isKept widened)).map ListedValue.literal := by
    rw [FieldType.values, ← FieldType.enumerations_values, List.filter_flatMap, List.map_flatMap]
    exact congrArg (p.kind.enumerations.flatMap ·) (funext (literalsOf_eq widened))
  rw [aliasFor, literals, ← unionValues]
  cases m.unionValues owner p <;> rfl

theorem aliasFor_eq_some_iff {m : Mapper} {owner : Owner} {p : Property} {a : Alias} :
    m.aliasFor owner p = some a ↔
      m.unionValues owner p ≠ [] ∧
        a = ⟨m.aliasName owner p.name, (m.unionValues owner p).map ListedValue.literal⟩ := by
  rw [aliasFor_eq]
  cases m.unionValues owner p with
  | nil => simp
  | cons v vs => simp [eq_comm]

theorem aliasFor_of_mem {m : Mapper} {owner : Owner} {p : Property} {v : ListedValue}
    (needed : v ∈ m.unionValues owner p) :
    m.aliasFor owner p =
      some ⟨m.aliasName owner p.name, (m.unionValues owner p).map ListedValue.literal⟩ :=
  aliasFor_eq_some_iff.mpr ⟨List.ne_nil_of_mem needed, rfl⟩

def writesAlias (m : Mapper) (scope : Scope) (slot : Slot) : FieldType → Bool
  | .integer values _ _ _ => !values.isEmpty
  | .string values _ _ _ => !values.isEmpty && (m.stringOverride scope slot).isNone
  | _ => false

theorem text_of_writesAlias {m : Mapper} {owner : Owner} {slot : Slot} {t : FieldType}
    (named : m.writesAlias owner.scope slot t = true) :
    m.text owner slot t = m.aliasName owner slot.name := by
  cases t with
  | integer values =>
    rw [writesAlias, Bool.not_eq_true'] at named
    rw [text, if_neg (by simp [named])]
  | string values =>
    rw [writesAlias, Bool.and_eq_true, Bool.not_eq_true', Option.isNone_iff_eq_none] at named
    simp only [text, named]
    rfl
  | _ => cases named

theorem writesAlias_iff (m : Mapper) (scope : Scope) (slot : Slot) (t : FieldType) :
    m.writesAlias scope slot t = true ↔
      ∃ v ∈ t.ownValues, v.isKept (m.stringOverride scope slot).isSome = true := by
  cases t with
  | integer values => cases values <;> simp [writesAlias, FieldType.ownValues, ListedValue.isKept]
  | string values => cases values <;> simp [writesAlias, FieldType.ownValues, ListedValue.isKept]
  | _ => simp [writesAlias, FieldType.ownValues]

theorem mem_unionValues {m : Mapper} {owner : Owner} {p : Property} {v : ListedValue} :
    v ∈ m.unionValues owner p ↔
      (∃ part ∈ p.kind.parts, v ∈ part.ownValues) ∧
        v.isKept (m.stringOverride owner.scope p.slot).isSome = true := by
  rw [unionValues, List.mem_filter, FieldType.values, List.mem_flatMap]

theorem unionValues_ne_nil_iff {m : Mapper} {owner : Owner} {p : Property} :
    m.unionValues owner p ≠ [] ↔
      ∃ part ∈ p.kind.parts, m.writesAlias owner.scope p.slot part = true := by
  simp only [writesAlias_iff]
  constructor
  · intro some
    obtain ⟨v, needed⟩ := List.exists_mem_of_ne_nil _ some
    obtain ⟨⟨part, below, lists⟩, kept⟩ := mem_unionValues.mp needed
    exact ⟨part, below, v, lists, kept⟩
  · rintro ⟨part, below, v, lists, kept⟩
    exact List.ne_nil_of_mem (mem_unionValues.mpr ⟨⟨part, below, lists⟩, kept⟩)

end Mapper

end BotTypings
