import BotTypings.Proofs.TypeText.Listed

/-! Where the text of a part is found in the text of the whole. A union passes over every enumerated
variant but the first, and a media field may drop a bare uploaded file; whatever else a type leads
to is written, and stands in the text as a piece of its own. -/
namespace BotTypings

def OpensPiece (before : String) : Prop :=
  ∀ c, before.toList.getLast? = some c → c ∈ [' ', '(']

def ClosesPiece (after : String) : Prop :=
  ∀ c, after.toList.head? = some c → c ∈ [' ', ')', '[']

/-- A text is found in another, not grown together with what is around it. -/
def StandsIn (piece whole : String) : Prop :=
  ∃ before after, whole = before ++ piece ++ after ∧ OpensPiece before ∧ ClosesPiece after

namespace StandsIn

theorem refl (piece : String) : StandsIn piece piece := by
  refine ⟨"", "", ?_, ?_, ?_⟩
  · rw [String.empty_append, String.append_empty]
  · intro c last
    cases last
  · intro c first
    cases first

theorem trans {piece middle whole : String} (inner : StandsIn piece middle)
    (outer : StandsIn middle whole) : StandsIn piece whole := by
  obtain ⟨before, after, rfl, opens, closes⟩ := inner
  obtain ⟨first, last, rfl, opensFirst, closesLast⟩ := outer
  refine ⟨first ++ before, after ++ last, ?_, ?_, ?_⟩
  · simp only [String.append_assoc]
  -- What is next to the piece is next to it in the middle already, or the piece reaches its end.
  · intro c last
    rw [String.toList_append, List.getLast?_append, Option.or_eq_some_iff] at last
    rcases last with own | ⟨_, outside⟩
    · exact opens c own
    · exact opensFirst c outside
  · intro c first
    rw [String.toList_append, List.head?_append, Option.or_eq_some_iff] at first
    rcases first with own | ⟨_, outside⟩
    · exact closes c own
    · exact closesLast c outside

theorem mem {piece whole : String} (stands : StandsIn piece whole) {c : Char}
    (inside : c ∈ piece.toList) : c ∈ whole.toList := by
  obtain ⟨before, after, rfl, _, _⟩ := stands
  rw [String.toList_append, String.toList_append]
  exact List.mem_append_left _ (List.mem_append_right _ inside)

theorem arrayText (inner : String) : StandsIn inner (Mapper.arrayText inner) := by
  unfold Mapper.arrayText
  split
  · refine ⟨"(", ")[]", rfl, ?_, ?_⟩
    · intro c last
      cases last
      decide
    · intro c first
      cases first
      decide
  · refine ⟨"", "[]", ?_, ?_, ?_⟩
    · rw [String.empty_append]
    · intro c last
      cases last
    · intro c first
      cases first
      decide

theorem behind (text piece : String) : StandsIn piece (text ++ " | " ++ piece) := by
  refine ⟨text ++ " | ", "", ?_, ?_, ?_⟩
  · rw [String.append_empty]
  · intro c last
    rw [String.toList_append, List.getLast?_append] at last
    cases last
    decide
  · intro c first
    cases first

theorem ahead (piece text : String) : StandsIn piece (piece ++ " | " ++ text) := by
  refine ⟨"", " | " ++ text, ?_, ?_, ?_⟩
  · rw [String.empty_append, String.append_assoc]
  · intro c last
    cases last
  · intro c first
    rw [String.toList_append, List.head?_append] at first
    cases first
    decide

theorem joined {piece : String} : {pieces : List String} → piece ∈ pieces →
    StandsIn piece (Text.joined " | " pieces)
  | [_], here => List.mem_singleton.mp here ▸ refl _
  | first :: next :: rest, there => by
    rw [Text.joined]
    rcases List.mem_cons.mp there with rfl | later
    · exact ahead _ _
    · exact (joined later).trans (behind first _)

end StandsIn

namespace FieldType

mutual

/-- The innermost parts that are written. -/
def written : FieldType → List FieldType
  | array element => element.written
  | anyOf variants => writtenOfAll false variants
  | t => [t]

/-- The same for the variants of a union, where an enumerated one may have come before. -/
def writtenOfAll (enumerated : Bool) : List FieldType → List FieldType
  | [] => []
  | variant :: rest =>
    if variant.isEnumerated then
      if enumerated then writtenOfAll true rest
      else variant.written ++ writtenOfAll true rest
    else variant.written ++ writtenOfAll enumerated rest

end

mutual

theorem written_subset_parts : (t : FieldType) → t.written ⊆ t.parts
  | integer .. | float .. | string .. | bool .. | reference .. | expression .. =>
    List.Subset.refl _
  | array element => by
    rw [written, parts]
    exact List.subset_cons_of_subset _ (written_subset_parts element)
  | anyOf variants => by
    rw [written, parts]
    exact List.subset_cons_of_subset _ (writtenOfAll_subset_parts false variants)

theorem writtenOfAll_subset_parts : (enumerated : Bool) → (ts : List FieldType) →
    writtenOfAll enumerated ts ⊆ partsOfAll ts
  | _, [] => List.Subset.refl _
  | enumerated, t :: ts => by
    have own (next : Bool) : t.written ++ writtenOfAll next ts ⊆ t.parts ++ partsOfAll ts :=
      List.append_subset.mpr
        ⟨List.subset_append_of_subset_left _ (written_subset_parts t),
          List.subset_append_of_subset_right _ (writtenOfAll_subset_parts next ts)⟩
    rw [writtenOfAll, partsOfAll]
    split
    · split
      · exact List.subset_append_of_subset_right _ (writtenOfAll_subset_parts true ts)
      · exact own true
    · exact own enumerated

end

theorem written_of_isEnumerated {t : FieldType} (enumerated : t.isEnumerated = true) :
    t.written = [t] := by
  cases t with
  | integer | string => rfl
  | _ => cases enumerated

mutual

/-- Not every enumeration is written, but where a type leads to any, one of them is. -/
theorem exists_written : (t : FieldType) → {part : FieldType} → part ∈ t.parts →
    part.isEnumerated = true → ∃ leaf ∈ t.written, leaf.isEnumerated = true
  | integer .., _, inside, enumerated | float .., _, inside, enumerated
  | string .., _, inside, enumerated | bool .., _, inside, enumerated
  | reference .., _, inside, enumerated | expression .., _, inside, enumerated =>
    ⟨_, List.mem_singleton_self _, List.mem_singleton.mp inside ▸ enumerated⟩
  | array element, _, inside, enumerated => by
    rw [parts, List.mem_cons] at inside
    rcases inside with rfl | below
    · cases enumerated
    · exact exists_written element below enumerated
  | anyOf variants, _, inside, enumerated => by
    rw [parts, List.mem_cons] at inside
    rcases inside with rfl | below
    · cases enumerated
    · exact exists_writtenOfAll variants below enumerated

theorem exists_writtenOfAll : (ts : List FieldType) → {part : FieldType} → part ∈ partsOfAll ts →
    part.isEnumerated = true → ∃ leaf ∈ writtenOfAll false ts, leaf.isEnumerated = true
  | t :: ts, _, inside, enumerated => by
    rw [writtenOfAll]
    by_cases first : t.isEnumerated = true
    · rw [if_pos first, if_neg Bool.false_ne_true, written_of_isEnumerated first]
      exact ⟨t, List.mem_cons_self, first⟩
    · rw [if_neg first]
      rw [partsOfAll, List.mem_append] at inside
      rcases inside with here | later
      · obtain ⟨leaf, own, kind⟩ := exists_written t here enumerated
        exact ⟨leaf, List.mem_append_left _ own, kind⟩
      · obtain ⟨leaf, other, kind⟩ := exists_writtenOfAll ts later enumerated
        exact ⟨leaf, List.mem_append_right _ other, kind⟩

end

end FieldType

namespace Mapper

/-- A bare uploaded file is dropped only beside a variant that says as much. -/
theorem withoutUploaded_stands (m : Mapper) (scope : Scope) (slot : Slot) {texts : List String}
    {text : String} (given : text ∈ texts) :
    ∃ kept ∈ m.withoutUploaded scope slot texts, StandsIn text kept := by
  rw [withoutUploaded]
  split
  · rename_i dropping
    by_cases bare : text = m.reference uploadedObject scope
    -- The variant that stays says the file first, and is longer than the bare one.
    · refine ⟨_, List.mem_filter.mpr ⟨dropping.2, ?_⟩, ?_⟩
      · rw [bne_iff_ne]
        intro same
        have longer := congrArg String.length same
        rw [String.length_append] at longer
        exact absurd longer (by simp)
      · subst bare
        have beside := StandsIn.ahead (m.reference uploadedObject scope) "string"
        rw [String.append_assoc] at beside
        exact beside
    · exact ⟨text, List.mem_filter.mpr ⟨given, bne_iff_ne.mpr bare⟩, .refl text⟩
  · exact ⟨text, given, .refl text⟩

section

variable (m : Mapper) (owner : Owner) (slot : Slot) {leaf : FieldType}

mutual

theorem written_stands : (t : FieldType) → leaf ∈ t.written →
    StandsIn (m.text owner slot leaf) (m.text owner slot t)
  | .integer .., here | .float .., here | .string .., here | .bool .., here
  | .reference .., here | .expression .., here => List.mem_singleton.mp here ▸ .refl _
  | .array element, below => by
    rw [FieldType.written] at below
    rw [text]
    exact (written_stands element below).trans (.arrayText _)
  | .anyOf variants, below => by
    rw [FieldType.written] at below
    obtain ⟨variant, given, inVariant⟩ := writtenOfAll_stands false variants below
    obtain ⟨kept, left, inKept⟩ := m.withoutUploaded_stands owner.scope slot given
    rw [text]
    exact inVariant.trans (inKept.trans (.joined left))

theorem writtenOfAll_stands : (enumerated : Bool) → (ts : List FieldType) →
    leaf ∈ FieldType.writtenOfAll enumerated ts →
    ∃ x ∈ m.variantTexts owner slot enumerated ts, StandsIn (m.text owner slot leaf) x
  | enumerated, t :: ts, below => by
    rw [FieldType.writtenOfAll] at below
    rw [variantTexts]
    have own (next : Bool) : leaf ∈ t.written ++ FieldType.writtenOfAll next ts →
        ∃ x ∈ m.text owner slot t :: m.variantTexts owner slot next ts,
          StandsIn (m.text owner slot leaf) x := by
      intro inside
      rcases List.mem_append.mp inside with here | later
      · exact ⟨_, List.mem_cons_self, written_stands t here⟩
      · obtain ⟨x, given, stands⟩ := writtenOfAll_stands next ts later
        exact ⟨x, List.mem_cons_of_mem _ given, stands⟩
    by_cases first : t.isEnumerated = true
    · rw [if_pos first] at below ⊢
      by_cases again : enumerated = true
      · rw [if_pos again] at below ⊢
        exact writtenOfAll_stands true ts below
      · rw [if_neg again] at below ⊢
        exact own true below
    · rw [if_neg first] at below ⊢
      exact own enumerated below

end

variable {m owner slot}

theorem stands_of_text {t : FieldType} {name : String} (reached : leaf ∈ t.written)
    (piece : m.text owner slot leaf = name) : StandsIn name (m.text owner slot t) := by
  have stands := m.written_stands owner slot t reached
  rw [piece] at stands
  exact stands

end

end Mapper

end BotTypings
