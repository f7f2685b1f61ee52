import BotTypings.Proofs.Schema.Places

/-! Changes that a record does not notice. Its members may change their order, others may come in
between under foreign names, a name may give way to another for the same thing, and a content to one
that is read as it was. What is given under the names of a reader stays as it was, and so does all that
is read from the record. -/
namespace BotTypings

open BotTypings.Json

/-- Whatever is read from the one is read from the other. -/
def Kept {ν ε α : Type} (read : ν → Except ε α) (v w : ν) : Prop :=
  ∀ x, read v = .ok x → read w = .ok x

section Altered

variable {κ ν : Type}

/-- One change of the members of a record. -/
inductive Altered (foreign : κ → ν → Prop) (alike : κ → κ → Prop) (kept : κ → ν → ν → Prop) :
    List (κ × ν) → List (κ × ν) → Prop
  | permute {members others} (same : members.Perm others) :
    Altered foreign alike kept members others
  | insert {front back key v} (new : foreign key v) :
    Altered foreign alike kept (front ++ back) (front ++ (key, v) :: back)
  | rename {front back key other v} (meant : alike key other) :
    Altered foreign alike kept (front ++ (key, v) :: back) (front ++ (other, v) :: back)
  | replace {front back key v w} (read : kept key v w) :
    Altered foreign alike kept (front ++ (key, v) :: back) (front ++ (key, w) :: back)

variable {foreign : κ → ν → Prop} {alike : κ → κ → Prop} {kept : κ → ν → ν → Prop}
  {members others : List (κ × ν)} {ε α : Type}

theorem held_perm {found : Option α} {given : List (Except ε α)}
    (same : (held found).Perm given) : given = held found := by
  cases found with
  | none => exact List.nil_perm.mp same
  | some x => exact List.singleton_perm.mp same |>.symm

/-- A reader of some names is given what it was given before. -/
theorem Altered.given {mine : κ → Bool} {read : ν → Except ε α} {found : Option α}
    (altered : Altered foreign alike kept members others)
    (new : ∀ key v, foreign key v → mine key = false)
    (meant : ∀ key other, alike key other → mine key = mine other)
    (keep : ∀ key v w, mine key → kept key v w → Kept read v w)
    (all : given mine read members = held found) : given mine read others = held found := by
  cases altered with
  | permute same =>
    refine held_perm ?_
    rw [← all]
    exact (same.filter _).map _
  | insert foreignKey =>
    rw [given_append, given_cons, new _ _ foreignKey, ← all, given_append]
    rfl
  | rename alikeKeys =>
    rw [given_append, given_cons, ← meant _ _ alikeKeys, ← all, given_append, given_cons]
  | @replace front back key v w keptContent =>
    rw [given_append, given_cons] at all ⊢
    cases own : mine key with
    | false =>
      rw [own] at all
      exact all
    | true =>
      rw [own] at all
      have mem : read v ∈ held found := by
        rw [← all]
        simp
      obtain ⟨x, answer, _⟩ := mem_held.mp mem
      rw [← all, answer, keep key v w own keptContent x answer]

/-- A change of a record is a change, if any, of those of its members that are looked at. -/
theorem Altered.filter (keep : κ → Bool) (altered : Altered foreign alike kept members others)
    (meant : ∀ key other, alike key other → keep key = keep other) :
    Altered foreign alike kept (members.filter fun member => keep member.1)
      (others.filter fun member => keep member.1) := by
  cases altered with
  | permute same => exact .permute (same.filter _)
  | @insert front back key v new =>
    rw [List.filter_append, List.filter_append, List.filter_cons]
    split
    · exact .insert new
    · exact .permute (.refl _)
  | @rename front back key other v alikeKeys =>
    rw [List.filter_append, List.filter_append, List.filter_cons, List.filter_cons]
    simp only [meant _ _ alikeKeys]
    split
    · exact .rename alikeKeys
    · exact .permute (.refl _)
  | @replace front back key v w keptContent =>
    rw [List.filter_append, List.filter_append, List.filter_cons, List.filter_cons]
    dsimp only
    split
    · exact .replace keptContent
    · exact .permute (.refl _)

/-- What holds of all members goes on to hold of all. -/
theorem Altered.all {P : κ × ν → Prop} (altered : Altered foreign alike kept members others)
    (new : ∀ key v, foreign key v → P (key, v))
    (meant : ∀ key other v, alike key other → P (key, v) → P (other, v))
    (keep : ∀ key v w, kept key v w → P (key, v) → P (key, w))
    (all : ∀ member ∈ members, P member) : ∀ member ∈ others, P member := by
  cases altered with
  | permute same => exact fun member mem => all member (same.mem_iff.mpr mem)
  | insert foreignKey =>
    simp only [List.forall_mem_append, List.forall_mem_cons] at all ⊢
    exact ⟨all.1, new _ _ foreignKey, all.2⟩
  | rename alikeKeys =>
    simp only [List.forall_mem_append, List.forall_mem_cons] at all ⊢
    exact ⟨all.1, meant _ _ _ alikeKeys all.2.1, all.2.2⟩
  | replace keptContent =>
    simp only [List.forall_mem_append, List.forall_mem_cons] at all ⊢
    exact ⟨all.1, keep _ _ _ keptContent all.2.1, all.2.2⟩

end Altered

/-- The names by which a union goes, as a tag and as a member. -/
def unionNames : List String := ["any_of", "one_of", "oneOf"]

/-- Names for the same member. -/
def Place.aliases : Place → List (List String)
  | method => [["parameters", "arguments"], ["returns", "return_type"]]
  | object => [unionNames]
  | _ => []

def Place.Alias (p : Place) (name other : String) : Prop :=
  ∃ names ∈ p.aliases, name ∈ names ∧ other ∈ names

/-- Every name that the model knows. -/
def modelNames : List String :=
  ["version", "recent_changes", "methods", "objects", "major", "minor", "patch", "year", "month",
    "day", "name", "description", "documentation_link", "parameters", "arguments", "returns",
    "return_type", "required", "type", "properties", "any_of", "one_of", "oneOf", "enumeration",
    "default", "min", "max", "min_len", "max_len", "reference", "array"]

/-- In memory, the one value is read at the place as the other is. What stands at the other places is
read in the text only. -/
def Place.Same : Place → Value → Value → Prop
  | objects, v, w => Kept (Value.each Object.ofValue) v w
  | object, v, w => Kept Object.ofValue v w
  | kindTag, v, w => Kept objectTags.ofValue v w
  | properties, v, w => Kept (Value.each Property.ofValue) v w
  | property, v, w => Kept Property.ofValue v w
  | type, v, w =>
    (v.isFlat → w = v) ∧ Kept FieldType.ofValue v w ∧ Kept FieldType.listOfValue v w
  | returns, v, w => (v.Spelled → w.Spelled) ∧ Kept FieldType.ofValue v w
  | other, v, w => v.isFlat → w = v
  | _, _, _ => True

/-- One change of loaded members that stand at a place. -/
abbrev Place.AlteredValues (p : Place) : List (String × Value) → List (String × Value) → Prop :=
  Altered (fun key _ => key ∉ modelNames) p.Alias fun key => (p.member (.ok key)).Same

section Values

variable {p : Place} {members others : List (String × Value)} {α : Type}

theorem Place.AlteredValues.keeps {read : Value → Except Mismatch α} {found : Option α}
    (altered : p.AlteredValues members others) {name : String} (known : name ∈ modelNames)
    (single : ∀ names ∈ p.aliases, name ∉ names)
    (keep : ∀ v w, (p.member (.ok name)).Same v w → Kept read v w)
    (all : given (· == name) read members = held found) :
    given (· == name) read others = held found := by
  refine Altered.given altered (fun key _ new => ?_) (fun key other meant => ?_)
    (fun key v w own same => ?_) all
  · refine beq_false_of_ne ?_
    rintro rfl
    exact new known
  · obtain ⟨names, mem, one, two⟩ := meant
    have apart := single names mem
    rw [beq_false_of_ne (ne_of_mem_of_not_mem one apart),
      beq_false_of_ne (ne_of_mem_of_not_mem two apart)]
  · cases beq_iff_eq.mp own
    exact keep v w same

theorem kept_of_flat {read : Value → Except Mismatch α} (flat : ReadsFlat read) {v w : Value}
    (same : v.isFlat → w = v) : Kept read v w := by
  intro x given
  rw [same (flat v x given)]
  exact given

/-- An attribute that is no type. -/
theorem Place.AlteredValues.keepsFlat {read : Value → Except Mismatch α} {found : Option α}
    (altered : type.AlteredValues members others) (flat : ReadsFlat read) {name : String}
    (known : name ∈ modelNames) (plain : type.member (.ok name) = other)
    (all : given (· == name) read members = held found) :
    given (· == name) read others = held found := by
  refine altered.keeps known nofun (fun v w same => ?_) all
  rw [plain] at same
  exact kept_of_flat flat same

theorem FieldType.ofMembers_kept (altered : Place.type.AlteredValues members others)
    (tag : FieldTag) : Kept (ofMembers tag) members others := by
  intro t read
  cases tag with
  | integer =>
    obtain ⟨_, _, _, _, first, second, third, fourth, rfl⟩ :=
      (integerOfMembers_eq_ok_iff members t).mp read
    exact (integerOfMembers_eq_ok_iff others _).mpr ⟨_, _, _, _,
      altered.keepsFlat int64s_readsFlat (by decide) rfl first,
      altered.keepsFlat integerOption_readsFlat (by decide) rfl second,
      altered.keepsFlat integerOption_readsFlat (by decide) rfl third,
      altered.keepsFlat integerOption_readsFlat (by decide) rfl fourth, rfl⟩
  | float =>
    obtain ⟨_, _, _, first, second, third, rfl⟩ := (floatOfMembers_eq_ok_iff members t).mp read
    exact (floatOfMembers_eq_ok_iff others _).mpr ⟨_, _, _,
      altered.keepsFlat floatOption_readsFlat (by decide) rfl first,
      altered.keepsFlat floatOption_readsFlat (by decide) rfl second,
      altered.keepsFlat floatOption_readsFlat (by decide) rfl third, rfl⟩
  | string =>
    obtain ⟨_, _, _, _, first, second, third, fourth, rfl⟩ :=
      (stringOfMembers_eq_ok_iff members t).mp read
    exact (stringOfMembers_eq_ok_iff others _).mpr ⟨_, _, _, _,
      altered.keepsFlat texts_readsFlat (by decide) rfl first,
      altered.keepsFlat textOption_readsFlat (by decide) rfl second,
      altered.keepsFlat lengthOption_readsFlat (by decide) rfl third,
      altered.keepsFlat lengthOption_readsFlat (by decide) rfl fourth, rfl⟩
  | bool =>
    obtain ⟨_, first, rfl⟩ := (boolOfMembers_eq_ok_iff members t).mp read
    exact (boolOfMembers_eq_ok_iff others _).mpr
      ⟨_, altered.keepsFlat boolOption_readsFlat (by decide) rfl first, rfl⟩
  | reference =>
    obtain ⟨_, first, rfl⟩ := (referenceOfMembers_eq_ok_iff members t).mp read
    exact (referenceOfMembers_eq_ok_iff others _).mpr ⟨_, altered.keepsFlat
      (scalar_readsFlat asText_onlyScalars) (by decide) rfl first, rfl⟩
  | array =>
    obtain ⟨_, first, rfl⟩ := (arrayOfMembers_eq_ok_iff members t).mp read
    exact (arrayOfMembers_eq_ok_iff others _).mpr
      ⟨_, altered.keeps (by decide) nofun (fun _ _ same => same.2.1) first, rfl⟩
  | anyOf =>
    obtain ⟨_, first, rfl⟩ := (anyOfOfMembers_eq_ok_iff members t).mp read
    exact (anyOfOfMembers_eq_ok_iff others _).mpr
      ⟨_, altered.keeps (by decide) nofun (fun _ _ same => same.2.2) first, rfl⟩

theorem ofValue_readsFlat {τ : Type} (tags : Tagging τ) : ReadsFlat tags.ofValue := by
  intro v tag read
  cases v <;> first | cases read | rfl

theorem FieldType.ofValue_record_kept (altered : Place.type.AlteredValues members others) :
    Kept ofValue (.record members) (.record others) := by
  intro t read
  obtain ⟨tag, counted, read⟩ := ofValue_record_eq_ok_iff.mp read
  exact ofValue_record_eq_ok_iff.mpr ⟨tag,
    altered.keepsFlat (ofValue_readsFlat fieldTags) (by decide) rfl counted,
    ofMembers_kept altered tag t read⟩

theorem Property.ofValue_record_kept (altered : Place.property.AlteredValues members others) :
    Kept Property.ofValue (.record members) (.record others) := by
  have altered : Place.type.AlteredValues members others := altered
  intro p read
  obtain ⟨name, kind, ⟨description, described, same⟩, required, needed, last⟩ :=
    Property.ofValue_record.mp read
  have text := FieldType.scalar_readsFlat asText_onlyScalars
  have flag := FieldType.scalar_readsFlat asBool_onlyScalars
  have inner : Place.type.AlteredValues (members.filter fun member => isHeld member.1)
      (others.filter fun member => isHeld member.1) :=
    altered.filter isHeld fun key other meant => nomatch meant
  exact Property.ofValue_record.mpr ⟨altered.keepsFlat text (by decide) rfl name,
    FieldType.ofValue_record_kept inner p.kind kind,
    ⟨description, altered.keepsFlat text (by decide) rfl described, same⟩,
    required, altered.keepsFlat flag (by decide) rfl needed, last⟩

theorem isVariantsKey_iff {key : String} : ObjectKind.isVariantsKey key ↔ key ∈ unionNames := by
  simp [ObjectKind.isVariantsKey, unionNames, or_assoc]

theorem ObjectKind.ofMembers_kept (altered : Place.object.AlteredValues members others)
    (tag : ObjectTag) : Kept (ofMembers tag) members others := by
  intro k read
  cases tag with
  | properties =>
    obtain ⟨fields, all, rfl⟩ := (propertiesOfMembers_eq_ok_iff members k).mp read
    exact (propertiesOfMembers_eq_ok_iff others _).mpr
      ⟨fields, altered.keeps (by decide) (by decide) (fun _ _ same => same) all, rfl⟩
  | anyOf =>
    obtain ⟨variants, all, rfl⟩ := (variantsOfMembers_eq_ok_iff members k).mp read
    refine (variantsOfMembers_eq_ok_iff others _).mpr ⟨variants, ?_, rfl⟩
    refine Altered.given altered (fun key _ new => ?_) (fun key other meant => ?_)
      (fun key v w own same => ?_) all
    · rw [← Bool.not_eq_true, isVariantsKey_iff]
      rintro (_ | ⟨_, _ | ⟨_, _ | ⟨_, impossible⟩⟩⟩)
      · exact new (by decide)
      · exact new (by decide)
      · exact new (by decide)
      · cases impossible
    · obtain ⟨names, mem, one, two⟩ := meant
      cases List.mem_singleton.mp mem
      rw [isVariantsKey_iff.mpr one, isVariantsKey_iff.mpr two]
    · have place : Place.object.member (.ok key) = .type := by
        rcases isVariantsKey_iff.mp own with _ | ⟨_, _ | ⟨_, _ | ⟨_, impossible⟩⟩⟩
        · rfl
        · rfl
        · rfl
        · cases impossible
      rw [place] at same
      exact same.2.2
  | unknown => exact read

theorem Object.ofValue_record_kept (altered : Place.object.AlteredValues members others) :
    Kept Object.ofValue (.record members) (.record others) := by
  intro o read
  obtain ⟨name, kind, ⟨description, described, same⟩, ⟨link, linked, last⟩, unparameterised⟩ :=
    Object.ofValue_record.mp read
  have text {found : Option String} {name : String} (known : name ∈ modelNames)
      (single : ∀ names ∈ Place.object.aliases, name ∉ names)
      (plain : Place.object.member (.ok name) = .other)
      (all : given (· == name) (Value.scalar Found.asText) members = held found) :
      given (· == name) (Value.scalar Found.asText) others = held found := by
    refine altered.keeps known single (fun v w same => ?_) all
    rw [plain] at same
    exact kept_of_flat (FieldType.scalar_readsFlat asText_onlyScalars) same
  have inner : Place.object.AlteredValues (members.filter fun member => isHeld member.1)
      (others.filter fun member => isHeld member.1) := by
    refine altered.filter isHeld fun key other meant => ?_
    obtain ⟨names, mem, one, two⟩ := meant
    cases List.mem_singleton.mp mem
    have own : ∀ name ∈ unionNames, isHeld name = true := by decide
    rw [own key one, own other two]
  obtain ⟨tag, counted, kind⟩ := ObjectKind.ofRecord_eq_ok_iff.mp kind
  exact Object.ofValue_record.mpr ⟨text (by decide) (by decide) rfl name,
    ObjectKind.ofRecord_eq_ok_iff.mpr ⟨tag,
      inner.keeps (by decide) (by decide) (fun _ _ same => same) counted,
      ObjectKind.ofMembers_kept inner tag o.kind kind⟩,
    ⟨description, text (by decide) (by decide) rfl described, same⟩,
    ⟨link, text (by decide) (by decide) rfl linked, last⟩, unparameterised⟩

theorem spelled_record_kept (altered : Place.type.AlteredValues members others)
    (spelled : (Value.record members).Spelled) : (Value.record others).Spelled := by
  refine Altered.all (P := fun member => member.1 = "type" → ∃ s, member.2 = .text s) altered
    (fun key v new own => ?_) (fun _ _ _ meant => nomatch meant) (fun key v w same text own => ?_)
    spelled
  · subst own
    exact absurd (by decide) new
  · subst own
    obtain ⟨s, rfl⟩ := text rfl
    exact ⟨s, same rfl⟩

/-- At every place, a record reads as it did before the change. -/
theorem Place.same_record (altered : p.AlteredValues members others) :
    p.Same (.record members) (.record others) := by
  cases p with
  | object => exact Object.ofValue_record_kept altered
  | property => exact Property.ofValue_record_kept altered
  | type => exact ⟨nofun, FieldType.ofValue_record_kept altered, nofun⟩
  | returns => exact ⟨spelled_record_kept altered, FieldType.ofValue_record_kept altered⟩
  | objects | properties | kindTag | other => exact nofun
  | _ => trivial

end Values

section Items

theorem mapM_set {ε α β : Type} {f : α → Except ε β} {xs : List α} {i : Nat} {x y : α}
    (there : xs[i]? = some x) (kept : Kept f x y) :
    Kept (List.mapM f) xs (xs.set i y) := by
  induction xs generalizing i with
  | nil => cases there
  | cons z xs ih =>
    intro out answer
    obtain ⟨first, rest, given, others, rfl⟩ := mapM_cons_eq_ok.mp answer
    cases i with
    | zero =>
      cases there
      exact mapM_cons_eq_ok.mpr ⟨first, rest, kept first given, others, rfl⟩
    | succ i => exact mapM_cons_eq_ok.mpr ⟨first, rest, given, ih there rest others, rfl⟩

theorem each_set {α : Type} {read : Value → Except Mismatch α} {vs : List Value} {i : Nat}
    {v w : Value} (there : vs[i]? = some v) (kept : Kept read v w) :
    Kept (Value.each read) (.list vs) (.list (vs.set i w)) := by
  intro xs listed
  obtain ⟨_, same, each⟩ := Value.each_eq_ok_iff.mp listed
  cases same
  exact Value.each_eq_ok_iff.mpr ⟨_, rfl, mapM_set there kept xs each⟩

theorem set_eq_self {α : Type} {xs : List α} {i : Nat} {x : α} (there : xs[i]? = some x) :
    xs.set i x = xs := by
  obtain ⟨bound, rfl⟩ := List.getElem?_eq_some_iff.mp there
  exact List.set_getElem_self bound

theorem FieldType.ofItems_set {tag : FieldTag} {items : List Value} {i : Nat} {v w : Value}
    (there : items[i]? = some v) (same : Place.type.Same v w) :
    Kept (ofItems tag) items (items.set i w) := by
  intro t read
  have only {x : Value} (single : items = [x]) : v = x ∧ items.set i w = [w] := by
    subst single
    cases i with
    | zero =>
      cases there
      exact ⟨rfl, rfl⟩
    | succ _ => cases there
  by_cases isArray : tag = .array
  · subst isArray
    obtain ⟨x, element, single, inner, rfl⟩ := arrayOfItems_eq_ok_iff.mp read
    obtain ⟨rfl, changed⟩ := only single
    exact arrayOfItems_eq_ok_iff.mpr ⟨w, element, changed, same.2.1 element inner, rfl⟩
  by_cases isUnion : tag = .anyOf
  · subst isUnion
    obtain ⟨x, variants, single, inner, rfl⟩ := anyOfOfItems_eq_ok_iff.mp read
    obtain ⟨rfl, changed⟩ := only single
    exact anyOfOfItems_eq_ok_iff.mpr ⟨w, variants, changed, same.2.2 variants inner, rfl⟩
  · have flat := (flat_of_ofItems isArray isUnion read).1 v (List.mem_of_getElem? there)
    rw [same.1 flat, set_eq_self there]
    exact read

theorem FieldType.ofValue_set {vs : List Value} {i : Nat} {v w : Value} (there : vs[i]? = some v)
    (same : Place.type.Same v w) : Kept ofValue (.list vs) (.list (vs.set i w)) := by
  intro t read
  cases vs with
  | nil => cases there
  | cons head rest =>
    obtain ⟨tag, counted, read⟩ := ofValue_list_eq_ok_iff.mp read
    cases i with
    | zero =>
      cases there
      rw [same.1 (ofValue_readsFlat fieldTags _ tag counted)]
      exact read
    | succ i =>
      have behind : rest[i]? = some v := there
      exact ofValue_list_eq_ok_iff.mpr ⟨tag, counted, ofItems_set behind same t read⟩

/-- At every place, a list reads as it did before the change of an item. -/
theorem Place.same_list {p : Place} {vs : List Value} {i : Nat} {v w : Value}
    (there : vs[i]? = some v) (same : (p.item i).Same v w) :
    p.Same (.list vs) (.list (vs.set i w)) := by
  have mem : v ∈ vs := List.mem_of_getElem? there
  cases p with
  | objects => exact each_set there same
  | properties => exact each_set there same
  | object | property | kindTag => exact nofun
  | type =>
    refine ⟨fun flat => ?_, FieldType.ofValue_set there same, ?_⟩
    · have scalar := List.all_eq_true.mp flat v mem
      rw [same.1 (FieldType.isFlat_of_isScalar scalar), set_eq_self there]
    · intro ts listed
      rw [FieldType.listOfValue_eq_each] at listed ⊢
      exact each_set there same.2.1 ts listed
  | returns =>
    refine ⟨fun spelled => ?_, FieldType.ofValue_set there same⟩
    cases vs with
    | nil => cases there
    | cons head rest =>
      cases i with
      | zero =>
        cases there
        obtain ⟨s, rfl⟩ := spelled
        exact ⟨s, same.1 rfl⟩
      | succ _ => exact spelled
  | other =>
    intro flat
    have scalar := List.all_eq_true.mp flat v mem
    rw [same (FieldType.isFlat_of_isScalar scalar), set_eq_self there]
  | _ => trivial

end Items

end BotTypings
