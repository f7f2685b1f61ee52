import BotTypings.Proofs.Schema.Parts
import BotTypings.Proofs.Text.Casing
import BotTypings.Proofs.TypeText.Rendered

/-! The text of a field type says what the type means. Every array is an array of exactly what its
element says, and every union says what its variants say one after the other, whatever quoted defaults,
widened strings and builders put into the text; nothing else can be read out of it. -/
namespace BotTypings

open BotTypings.Text BotTypings.TypeText

namespace TypeText

theorem wordChar_recased {c d : Char} (word : isWordChar c = true)
    (image : d ∈ upper c ∨ d ∈ lower c) : isWordChar d = true := by
  have ascii := ascii_of_wordChar word
  have cased : isWordChar c = true → isWordChar c.toUpper = true ∧ isWordChar c.toLower = true := by
    refine ascii_forall (P := fun c => isWordChar c = true →
      isWordChar c.toUpper = true ∧ isWordChar c.toLower = true) ?_ ascii
    decide
  rw [upper_ascii ascii, lower_ascii ascii, List.mem_singleton, List.mem_singleton] at image
  rcases image with rfl | rfl
  · exact (cased word).1
  · exact (cased word).2

theorem wordStart_toUpper {c : Char} (ascii : c.toNat < 128) :
    isWordStart c = true → isWordStart c.toUpper = true := by
  refine ascii_forall (P := fun c => isWordStart c = true → isWordStart c.toUpper = true) ?_ ascii
  decide

theorem wordChars_capitalize {name : String} (chars : WordChars name) :
    WordChars (capitalize name) := by
  intro d mem
  obtain ⟨c, inside, raised | rfl⟩ := mem_capitalize mem
  · exact wordChar_recased (chars c inside) (.inl raised)
  · exact chars d inside

theorem wordChars_pascalCase {name : String} (chars : WordChars name) :
    WordChars (pascalCase name) := by
  intro d mem
  cases recased_of_mem_pascalCase mem with
  | raised inside image => exact wordChar_recased (chars _ inside) (.inl image)
  | lowered inside image => exact wordChar_recased (chars _ inside) (.inr image)
  | sigma inside _ => exact absurd (chars _ inside) (by decide)

theorem IsWord.append {a b : String} (word : IsWord a) (chars : WordChars b) : IsWord (a ++ b) := by
  refine ⟨?_, fun c mem => ?_⟩
  · have start := word.start
    rw [String.toList_append, List.head?_append]
    cases first : a.toList.head? with
    | none =>
      rw [first] at start
      cases start
    | some c =>
      rw [first] at start
      exact start
  · rw [String.toList_append, List.mem_append] at mem
    exact mem.elim (word.chars c) (chars c)

theorem IsWord.capitalize {name : String} (word : IsWord name) : IsWord (Text.capitalize name) := by
  refine ⟨?_, wordChars_capitalize word.chars⟩
  obtain ⟨start, chars⟩ := word
  unfold Text.capitalize
  cases cut : name.toList with
  | nil =>
    rw [cut] at start
    cases start
  | cons c cs =>
    rw [WordChars, cut, List.forall_mem_cons] at chars
    rw [cut] at start
    have ascii := ascii_of_wordChar chars.1
    rw [String.toList_ofList, upper_ascii ascii]
    exact wordStart_toUpper ascii start

end TypeText

/-- A part of a type about which something can be said: what it refers to is a word behind a lead, and
a union has variants. -/
def FieldType.Plain : FieldType → Prop
  | .reference target => WordChars target
  | .anyOf variants => variants ≠ []
  | .expression _ => False
  | _ => True

namespace Mapper

def word (name : String) : UnionMember := .name ⟨name, []⟩

def referenceName (m : Mapper) (target : String) : Scope → DottedName
  | .objects => ⟨m.objectName target, []⟩
  | .methods => ⟨m.objectsNamespace, [m.objectName target]⟩

def referenceMembers (m : Mapper) (scope : Scope) (target : String) : List UnionMember :=
  let name := m.referenceName target scope
  if target ∈ markupObjects then [.name name, .builder name] else [.name name]

/-- What the wider strings say. -/
def overrideMembers (m : Mapper) (scope : Scope) (slot : Slot) : Option (List UnionMember) :=
  if slot.name = mediaField then
    some [.name (m.referenceName uploadedObject scope), word "string"]
  else if slot.name = "parse_mode" then
    some [.literal "HTML", .literal "MarkdownV2", .literal "Markdown"]
  else if slot.name = "message_text" then some [word "string", .formattable]
  else if contains formattedText slot.description.toList then some [word "string", .formattable]
  else none

/-- The bare uploaded file. -/
def isUploaded (m : Mapper) (scope : Scope) : List UnionMember → Bool
  | [.name n] => n = m.referenceName uploadedObject scope
  | _ => false

/-- The uploaded file or a string. -/
def isUploadedOrString (m : Mapper) (scope : Scope) : List UnionMember → Bool
  | [.name n, .name other] => n = m.referenceName uploadedObject scope ∧ other = ⟨"string", []⟩
  | _ => false

def keptMembers (m : Mapper) (scope : Scope) (slot : Slot) (parts : List (List UnionMember)) :
    List (List UnionMember) :=
  if slot.name = mediaField ∧ parts.any (m.isUploadedOrString scope) then
    parts.filter fun part => !m.isUploaded scope part
  else parts

mutual

/-- What a type says in a slot of its owner. -/
def members (m : Mapper) (owner : Owner) (slot : Slot) : FieldType → List UnionMember
  | .integer enumeration _ _ _ =>
    if enumeration.isEmpty then [word "number"] else [word (m.aliasName owner slot.name)]
  | .float _ _ _ => [word "number"]
  | .bool default =>
    match default with
    | some value =>
      if slot.required then [word (if value then "true" else "false")] else [word "boolean"]
    | none => [word "boolean"]
  | .string enumeration default _ _ =>
    match m.overrideMembers owner.scope slot with
    | some wider => wider
    | none =>
      if enumeration.isEmpty then
        match default with
        | some value => [.literal value]
        | none => [word "string"]
      else [word (m.aliasName owner slot.name)]
  | .reference target => m.referenceMembers owner.scope target
  | .array element => [.array (m.members owner slot element)]
  | .anyOf variants =>
    (m.keptMembers owner.scope slot (m.variantMembers owner slot false variants)).flatten
  | .expression _ => []

/-- What the variants of a union say, less the enumerated ones behind the first. -/
def variantMembers (m : Mapper) (owner : Owner) (slot : Slot) (enumerated : Bool) :
    List FieldType → List (List UnionMember)
  | [] => []
  | variant :: rest =>
    if variant.isEnumerated then
      if enumerated then m.variantMembers owner slot true rest
      else m.members owner slot variant :: m.variantMembers owner slot true rest
    else m.members owner slot variant :: m.variantMembers owner slot enumerated rest

end

/-- There is something to say, and it can be written. -/
structure Sayable (members : List UnionMember) : Prop where
  given : members ≠ []
  proper : ∀ member ∈ members, member.Proper

theorem Sayable.append {first second : List UnionMember} (sayable : Sayable first)
    (proper : ∀ member ∈ second, member.Proper) : Sayable (first ++ second) := by
  refine ⟨fun none => sayable.given (List.append_eq_nil_iff.mp none).1, fun member mem => ?_⟩
  exact (List.mem_append.mp mem).elim (sayable.proper member) (proper member)

theorem sayable_name {n : DottedName} (proper : n.Proper) : Sayable [.name n] := by
  refine ⟨List.cons_ne_nil _ _, fun member mem => ?_⟩
  rw [List.mem_singleton.mp mem]
  exact .name proper

theorem sayable_word {name : String} (word : IsWord name) : Sayable [Mapper.word name] :=
  sayable_name ⟨word, nofun⟩

theorem unionText_eq_iff {first second : List UnionMember} (sayable : Sayable first)
    (sayableToo : Sayable second) : unionText first = unionText second ↔ first = second := by
  constructor
  · intro same
    exact unionText_inj sayable.proper sayableToo.proper sayable.given sayableToo.given same
  · rintro rfl
    rfl

theorem unionText_append {first second : List UnionMember} (given : first ≠ [])
    (givenToo : second ≠ []) :
    unionText (first ++ second) = unionText first ++ " | " ++ unionText second := by
  induction first with
  | nil => exact absurd rfl given
  | cons member rest ih =>
    cases rest with
    | nil =>
      have more : second.map UnionMember.text ≠ [] :=
        fun none => givenToo (List.map_eq_nil_iff.mp none)
      exact joined_cons more
    | cons next rest =>
      have behind := ih (List.cons_ne_nil _ _)
      change member.text ++ " | " ++ unionText (next :: rest ++ second) = _
      rw [behind, ← String.append_assoc, ← String.append_assoc]
      rfl

theorem joined_unionText {parts : List (List UnionMember)} (given : ∀ part ∈ parts, part ≠ []) :
    joined " | " (parts.map unionText) = unionText parts.flatten := by
  induction parts with
  | nil => rfl
  | cons part rest ih =>
    obtain ⟨here, behind⟩ := List.forall_mem_cons.mp given
    cases rest with
    | nil => rw [List.flatten_singleton]; rfl
    | cons next rest =>
      have more : (next :: rest).flatten ≠ [] := by
        rw [List.flatten_cons]
        exact fun none => behind next List.mem_cons_self (List.append_eq_nil_iff.mp none).1
      rw [List.flatten_cons, unionText_append here more, ← ih behind]
      rfl

section

variable {m : Mapper} {owner : Owner} {slot : Slot}

theorem reference_eq (target : String) (scope : Scope) :
    m.reference target scope = (m.referenceName target scope).text := by
  cases scope with
  | objects => rfl
  | methods => rfl

theorem referenceText_eq (target : String) (scope : Scope) :
    m.referenceText scope target = unionText (m.referenceMembers scope target) := by
  rw [referenceText, referenceMembers, reference_eq]
  split
  · apply String.toList_inj.mp
    simp [unionText, joined, UnionMember.text]
  · rfl

theorem uploadedOrString_text (m : Mapper) (scope : Scope) :
    m.reference uploadedObject scope ++ " | string" =
      unionText [.name (m.referenceName uploadedObject scope), word "string"] := by
  rw [reference_eq]
  apply String.toList_inj.mp
  simp [unionText, joined, UnionMember.text, word, DottedName.text]

theorem stringOverride_eq (m : Mapper) (scope : Scope) (slot : Slot) :
    m.stringOverride scope slot = (m.overrideMembers scope slot).map unionText := by
  unfold stringOverride overrideMembers
  split
  · rw [uploadedOrString_text]
    rfl
  · split
    · rfl
    · split
      · rfl
      · split <;> rfl

theorem isUploaded_iff {scope : Scope} {part : List UnionMember} :
    m.isUploaded scope part = true ↔ part = [.name (m.referenceName uploadedObject scope)] := by
  unfold isUploaded
  split
  · simp
  · rename_i other
    exact ⟨nofun, fun same => absurd same (other _)⟩

theorem isUploadedOrString_iff {scope : Scope} {part : List UnionMember} :
    m.isUploadedOrString scope part = true ↔
      part = [.name (m.referenceName uploadedObject scope), word "string"] := by
  unfold isUploadedOrString
  split
  · simp [word]
  · rename_i other
    exact ⟨nofun, fun same => absurd same (other _ _)⟩

theorem keptMembers_ne_nil {scope : Scope} {parts : List (List UnionMember)} (given : parts ≠ []) :
    m.keptMembers scope slot parts ≠ [] := by
  unfold keptMembers
  split
  · rename_i media
    obtain ⟨part, mem, is⟩ := List.any_eq_true.mp media.2
    refine List.ne_nil_of_mem (List.mem_filter.mpr ⟨mem, ?_⟩)
    rw [isUploadedOrString_iff] at is
    rw [is]
    rfl
  · exact given

theorem keptMembers_subset {scope : Scope} (parts : List (List UnionMember)) :
    m.keptMembers scope slot parts ⊆ parts := by
  unfold keptMembers
  split
  · exact List.filter_sublist.subset
  · exact List.Subset.refl parts

end

/-- Names of which words can be made. -/
structure PlainNames (m : Mapper) (owner : Owner) (slot : Slot) : Prop where
  lead : IsWord m.lead
  space : IsWord m.objectsNamespace
  owner : IsWord owner.name
  field : WordChars slot.name

section

variable {m : Mapper} {owner : Owner} {slot : Slot} (names : PlainNames m owner slot)

include names

theorem PlainNames.objectName {target : String} (chars : WordChars target) :
    IsWord (m.objectName target) :=
  names.lead.append (wordChars_capitalize chars)

theorem PlainNames.referenceName {target : String} (chars : WordChars target) (scope : Scope) :
    (m.referenceName target scope).Proper := by
  have word := names.objectName chars
  cases scope with
  | objects => exact ⟨word, nofun⟩
  | methods => exact ⟨names.space, List.forall_mem_singleton.mpr word⟩

theorem PlainNames.uploaded (scope : Scope) : (m.referenceName uploadedObject scope).Proper :=
  names.referenceName (by decide) scope

theorem PlainNames.aliasName : IsWord (m.aliasName owner slot.name) := by
  have suffix := wordChars_pascalCase names.field
  unfold Mapper.aliasName
  split
  · exact (names.objectName names.owner.chars).append suffix
  · exact names.owner.capitalize.append suffix

theorem PlainNames.uploadedOrString (scope : Scope) :
    Sayable [.name (m.referenceName uploadedObject scope), word "string"] := by
  have text : Sayable [word "string"] := sayable_word ⟨by decide, by decide⟩
  exact (sayable_name (names.uploaded scope)).append text.proper

theorem PlainNames.override {scope : Scope} {members : List UnionMember}
    (wider : m.overrideMembers scope slot = some members) : Sayable members := by
  have formattable : Sayable [word "string", .formattable] := by
    have text : Sayable [word "string"] := sayable_word ⟨by decide, by decide⟩
    exact text.append (List.forall_mem_singleton.mpr .formattable)
  unfold overrideMembers at wider
  split at wider
  · cases wider
    exact names.uploadedOrString scope
  · split at wider
    · cases wider
      refine ⟨List.cons_ne_nil _ _, fun member mem => ?_⟩
      simp only [List.mem_cons, List.not_mem_nil, or_false] at mem
      rcases mem with rfl | rfl | rfl <;> exact .literal _
    · split at wider
      · cases wider
        exact formattable
      · split at wider
        · cases wider
          exact formattable
        · cases wider

theorem PlainNames.reference {target : String} (chars : WordChars target) (scope : Scope) :
    Sayable (m.referenceMembers scope target) := by
  have name := names.referenceName chars scope
  unfold referenceMembers
  split
  · exact (sayable_name name).append (List.forall_mem_singleton.mpr (.builder name))
  · exact sayable_name name

/-- Variants have one text exactly when they say the same, so the same ones are dropped. -/
theorem PlainNames.withoutUploaded {scope : Scope} {parts : List (List UnionMember)}
    (sayable : ∀ part ∈ parts, Sayable part) :
    m.withoutUploaded scope slot (parts.map unionText) =
      (m.keptMembers scope slot parts).map unionText := by
  have bare : ∀ part ∈ parts, unionText part = m.reference uploadedObject scope ↔
      m.isUploaded scope part = true := by
    intro part mem
    rw [isUploaded_iff, reference_eq]
    exact unionText_eq_iff (sayable part mem) (sayable_name (names.uploaded scope))
  have either : ∀ part ∈ parts, unionText part = m.reference uploadedObject scope ++ " | string" ↔
      m.isUploadedOrString scope part = true := by
    intro part mem
    rw [isUploadedOrString_iff, uploadedOrString_text]
    exact unionText_eq_iff (sayable part mem) (names.uploadedOrString scope)
  have found : (m.reference uploadedObject scope ++ " | string") ∈ parts.map unionText ↔
      parts.any (m.isUploadedOrString scope) = true := by
    rw [List.mem_map, List.any_eq_true]
    constructor
    · rintro ⟨part, mem, same⟩
      exact ⟨part, mem, (either part mem).mp same⟩
    · rintro ⟨part, mem, is⟩
      exact ⟨part, mem, (either part mem).mpr is⟩
  simp only [Mapper.withoutUploaded, keptMembers, found]
  split
  · rw [List.filter_map]
    congr 1
    refine List.filter_congr fun part mem => ?_
    have same := bare part mem
    by_cases is : m.isUploaded scope part = true
    · simp [is, same.mpr is]
    · have other : ¬unionText part = m.reference uploadedObject scope :=
        fun text => is (same.mp text)
      simp [is, other]
  · rfl

end

section

variable {m : Mapper} {owner : Owner} {slot : Slot}

mutual

theorem PlainNames.text (names : PlainNames m owner slot) : (t : FieldType) →
    (∀ part ∈ t.parts, part.Plain) →
    m.text owner slot t = unionText (m.members owner slot t) ∧ Sayable (m.members owner slot t)
  | .integer enumeration _ _ _, _ => by
    rw [Mapper.text, members]
    split
    · exact ⟨rfl, sayable_word ⟨by decide, by decide⟩⟩
    · exact ⟨rfl, sayable_word names.aliasName⟩
  | .float _ _ _, _ => by
    rw [Mapper.text, members]
    exact ⟨rfl, sayable_word ⟨by decide, by decide⟩⟩
  | .bool default, _ => by
    cases default with
    | none =>
      simp only [Mapper.text, members]
      exact ⟨rfl, sayable_word ⟨by decide, by decide⟩⟩
    | some value =>
      simp only [Mapper.text, members]
      cases slot.required with
      | false => exact ⟨rfl, sayable_word ⟨by decide, by decide⟩⟩
      | true => cases value <;> exact ⟨rfl, sayable_word ⟨by decide, by decide⟩⟩
  | .string enumeration default _ _, _ => by
    have override := m.stringOverride_eq owner.scope slot
    cases wider : m.overrideMembers owner.scope slot with
    | some members =>
      rw [wider] at override
      simp only [Mapper.text, Mapper.members, wider, override, Option.map_some]
      exact ⟨trivial, names.override wider⟩
    | none =>
      rw [wider] at override
      simp only [Mapper.text, Mapper.members, wider, override, Option.map_none]
      split
      · cases default with
        | some value =>
          refine ⟨rfl, List.cons_ne_nil _ _, ?_⟩
          exact List.forall_mem_singleton.mpr (.literal value)
        | none => exact ⟨rfl, sayable_word ⟨by decide, by decide⟩⟩
      · exact ⟨rfl, sayable_word names.aliasName⟩
  | .reference target, plain => by
    have chars : WordChars target := plain _ (List.mem_singleton_self _)
    rw [Mapper.text, members, referenceText_eq]
    exact ⟨rfl, names.reference chars owner.scope⟩
  | .array element, plain => by
    obtain ⟨same, sayable⟩ :=
      names.text element fun part mem => plain part (List.mem_cons_of_mem _ mem)
    rw [Mapper.text, members, same]
    refine ⟨(text_array _).symm, List.cons_ne_nil _ _, ?_⟩
    exact List.forall_mem_singleton.mpr (.array sayable.given sayable.proper)
  | .anyOf variants, plain => by
    have some : variants ≠ [] := plain _ List.mem_cons_self
    obtain ⟨same, sayable, written⟩ := names.variantTexts false variants
      fun part mem => plain part (List.mem_cons_of_mem _ mem)
    have kept : m.keptMembers owner.scope slot (m.variantMembers owner slot false variants) ≠ [] :=
      keptMembers_ne_nil (written rfl some)
    have each : ∀ part ∈ m.keptMembers owner.scope slot (m.variantMembers owner slot false variants),
        Sayable part := fun part mem => sayable part (keptMembers_subset _ mem)
    rw [Mapper.text, members, same, names.withoutUploaded sayable,
      joined_unionText fun part mem => (each part mem).given]
    refine ⟨rfl, fun none => ?_, fun member mem => ?_⟩
    · obtain ⟨part, mem⟩ := List.exists_mem_of_ne_nil _ kept
      exact (each part mem).given (List.flatten_eq_nil_iff.mp none part mem)
    · obtain ⟨part, inside, own⟩ := List.mem_flatten.mp mem
      exact (each part inside).proper member own
  | .expression text, plain => (plain _ (List.mem_singleton_self _)).elim

theorem PlainNames.variantTexts (names : PlainNames m owner slot) : (enumerated : Bool) →
    (ts : List FieldType) →
    (∀ part ∈ FieldType.partsOfAll ts, part.Plain) →
    m.variantTexts owner slot enumerated ts =
        (m.variantMembers owner slot enumerated ts).map unionText ∧
      (∀ part ∈ m.variantMembers owner slot enumerated ts, Sayable part) ∧
      (enumerated = false → ts ≠ [] → m.variantMembers owner slot enumerated ts ≠ [])
  | _, [], _ => ⟨rfl, nofun, fun _ given => absurd rfl given⟩
  | enumerated, t :: ts, plain => by
    obtain ⟨same, sayable⟩ :=
      names.text t fun part mem => plain part (List.mem_append_left _ mem)
    have others (next : Bool) := names.variantTexts next ts
      fun part mem => plain part (List.mem_append_right _ mem)
    -- A variant that is written says something, whatever comes behind it.
    have first (next : Bool) :
        m.text owner slot t :: m.variantTexts owner slot next ts =
            (m.members owner slot t :: m.variantMembers owner slot next ts).map unionText ∧
          (∀ part ∈ m.members owner slot t :: m.variantMembers owner slot next ts, Sayable part) ∧
          (enumerated = false → t :: ts ≠ [] →
            m.members owner slot t :: m.variantMembers owner slot next ts ≠ []) := by
      obtain ⟨texts, rest, _⟩ := others next
      refine ⟨by rw [same, texts, List.map_cons], ?_, fun _ _ => List.cons_ne_nil _ _⟩
      exact List.forall_mem_cons.mpr ⟨sayable, rest⟩
    rw [Mapper.variantTexts, variantMembers]
    split
    · split
      · rename_i passed
        obtain ⟨texts, rest, _⟩ := others true
        exact ⟨texts, rest, fun unseen => absurd passed (by simp [unseen])⟩
      · exact first true
    · exact first enumerated

end

end

/-- The text of a type is read in one way only, and says what the type means. -/
theorem text_reads {m : Mapper} {owner : Owner} {slot : Slot} (names : PlainNames m owner slot)
    {t : FieldType} (plain : ∀ part ∈ t.parts, part.Plain) :
    ∃ u : UnionTree, Reads (m.text owner slot t) u ∧ u.members = m.members owner slot t ∧
      ∀ other, Reads (m.text owner slot t) other → other = u := by
  obtain ⟨same, sayable⟩ := names.text t plain
  obtain ⟨u, reads, means⟩ := reads_unionText sayable.proper sayable.given
  rw [← same] at reads
  exact ⟨u, reads, means, fun other readsToo => readsToo.unique reads⟩

/-- A quoted bar, a builder and nested arrays inside an array. -/
def photos : FieldType :=
  .array (.anyOf [.string [] (some "a|\"b\"") none none, .reference "ForceReply",
    .array (.array .plainInteger)])

def uploads : FieldType := .anyOf [.reference uploadedObject, .array .plainString, .plainString]

theorem text_reads_gallery :
    (∃ u : UnionTree,
      Reads (standard.text ⟨"sendGallery", .methods⟩ ⟨"photos", "", true⟩ photos) u ∧
      u.members = [.array [.literal "a|\"b\"", .name ⟨"Objects", ["TelegramForceReply"]⟩,
        .builder ⟨"Objects", ["TelegramForceReply"]⟩, .array [.array [word "number"]]]]) ∧
    ∃ u : UnionTree, Reads (standard.text ⟨"Gallery", .objects⟩ ⟨"media", "", true⟩ uploads) u ∧
      u.members = [.array [word "TelegramInputFile", word "string"], word "TelegramInputFile",
        word "string"] := by
  constructor
  · have names : PlainNames standard ⟨"sendGallery", .methods⟩ ⟨"photos", "", true⟩ := by
      refine ⟨⟨?_, ?_⟩, ⟨?_, ?_⟩, ⟨?_, ?_⟩, ?_⟩ <;> decide
    have plain : ∀ part ∈ photos.parts, part.Plain := by
      simp [photos, FieldType.parts, FieldType.partsOfAll, FieldType.Plain, FieldType.plainInteger]
      decide
    obtain ⟨u, reads, means, _⟩ := text_reads names plain
    exact ⟨u, reads, means⟩
  · have names : PlainNames standard ⟨"Gallery", .objects⟩ ⟨"media", "", true⟩ := by
      refine ⟨⟨?_, ?_⟩, ⟨?_, ?_⟩, ⟨?_, ?_⟩, ?_⟩ <;> decide
    have plain : ∀ part ∈ uploads.parts, part.Plain := by
      simp [uploads, FieldType.parts, FieldType.partsOfAll, FieldType.Plain, FieldType.plainString]
      decide
    obtain ⟨u, reads, means, _⟩ := text_reads names plain
    exact ⟨u, reads, means⟩

end Mapper

end BotTypings
