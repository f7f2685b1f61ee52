import BotTypings.Proofs.Declaration.Layout
import BotTypings.Proofs.TypeText.Standing

/-! Interfaces and the literal unions before them. A member can be written through a literal union
wherever its type lists values, at any depth; the union that is meant is always the one declared for
the property, on a line of its own before the interface. -/
namespace BotTypings

open BotTypings.Text

/-- How a property stands in the text of its interface, the properties before and after it being
given. -/
structure MemberClosed (m : Mapper) (owner : Owner) (name : String) (before : List Property)
    (p : Property) (after : List Property) (text : String) : Prop where
  /-- A part of the type that is written as a literal union is written as the name that a line of the
  property's own declares for all the values that are listed. -/
  declared : ∀ part ∈ p.kind.parts, m.writesAlias owner.scope p.slot part = true →
    m.text owner p.slot part = m.aliasName owner p.name ∧
      unionLines m owner p = ["export type " ++ m.aliasName owner p.name ++ " = " ++
        joined " | " ((p.kind.values.filter
          (·.isKept (m.stringOverride owner.scope p.slot).isSome)).map ListedValue.literal), ""]
  needed : unionLines m owner p ≠ [] ↔
    ∃ part ∈ p.kind.parts, m.writesAlias owner.scope p.slot part = true
  /-- A part of the type reaches the member as a piece of its type text. -/
  written : ∀ leaf ∈ p.kind.written, leaf ∈ p.kind.parts ∧
    StandsIn (m.text owner p.slot leaf) (m.text owner p.slot p.kind)
  /-- The lines of the union stand before the interface, and the lines of the member in it. -/
  placed : ∃ note above own below, IsNote "" note ∧
    List.Forall₂ (IsField m owner) before above ∧ IsField m owner p own ∧
    List.Forall₂ (IsField m owner) after below ∧
    text = laidOut (before.flatMap (unionLines m owner) ++ unionLines m owner p ++
      after.flatMap (unionLines m owner) ++ note ++
      ("export interface " ++ name ++ " \x7b") ::
        (above.flatten ++ own ++ below.flatten ++ ["\x7d"]))

theorem forall₂_append_left {α β : Type} {R : α → β → Prop} {xs ys : List α} {zs : List β}
    (all : List.Forall₂ R (xs ++ ys) zs) :
    ∃ us vs, List.Forall₂ R xs us ∧ List.Forall₂ R ys vs ∧ zs = us ++ vs := by
  induction xs generalizing zs with
  | nil => exact ⟨[], zs, .nil, all, rfl⟩
  | cons x xs ih =>
    obtain ⟨z, rest, first, others, rfl⟩ := List.forall₂_cons_left_iff.mp all
    obtain ⟨us, vs, left, right, rfl⟩ := ih others
    exact ⟨z :: us, vs, .cons first left, right, rfl⟩

theorem memberClosed_laidOut {m : Mapper} {owner : Owner} {name : String} {before : List Property}
    {p : Property} {after : List Property} {members : List (List String)} {lines : List String}
    (isInterface : IsInterface m owner name (before ++ p :: after) members lines) :
    MemberClosed m owner name before p after (laidOut lines) where
  declared part below named := by
    refine ⟨Mapper.text_of_writesAlias named, if_neg ?_⟩
    rw [List.isEmpty_iff]
    exact Mapper.unionValues_ne_nil_iff.mpr ⟨part, below, named⟩
  needed := unionLines_ne_nil_iff
  written leaf reached :=
    ⟨p.kind.written_subset_parts reached, m.written_stands owner p.slot p.kind reached⟩
  placed := by
    obtain ⟨fields, note, isNote, rfl⟩ := isInterface
    obtain ⟨above, rest, first, others, rfl⟩ := forall₂_append_left fields
    obtain ⟨own, below, field, last, rfl⟩ := List.forall₂_cons_left_iff.mp others
    refine ⟨note, above, own, below, isNote, first, field, last, ?_⟩
    simp only [List.flatMap_append, List.flatMap_cons, List.flatten_append, List.flatten_cons,
      List.append_assoc]

/-- In the text of an object or of the params of a method, every literal union that a member is
written through has its line before the interface. A property has one exactly if a part of its type
is written as such, and it holds the values of all those parts in their order. -/
theorem members_closed (m : Mapper) :
    (∀ (o : Object) before p after, o.kind = .properties (before ++ p :: after) →
      MemberClosed m o.owner (m.objectName o.name ++ o.generics) before p after (objectText m o)) ∧
    ∀ (method : Method) before p after, method.parameters = before ++ p :: after →
      ∃ text, paramsText? m method = some text ∧
        MemberClosed m method.owner (paramsName method.name) before p after text := by
  constructor
  · intro o before p after kind
    obtain ⟨members, lines, text, isInterface⟩ := objectText_laidOut m kind (by simp)
    rw [text]
    exact memberClosed_laidOut isInterface
  · intro method before p after parameters
    obtain ⟨members, lines, text, isInterface⟩ := paramsText?_laidOut m
      (show method.parameters ≠ [] by simp [parameters])
    rw [parameters] at isInterface
    exact ⟨laidOut lines, text, memberClosed_laidOut isInterface⟩

def quizAnswer : Property where
  name := "answer"
  description := ""
  required := true
  kind := .anyOf [.array (.anyOf [.string ["first", "last"] none none none, .bool none]),
    .integer [7, 7] none none none, .string ["none"] none none none]

theorem quizAnswer_closed :
    unionLines .standard ⟨"Quiz", .objects⟩ quizAnswer =
        ["export type TelegramQuizAnswer = \"first\" | \"last\" | 7 | 7 | \"none\"", ""] ∧
      MemberClosed .standard ⟨"Quiz", .objects⟩ "TelegramQuiz" [⟨"id", "", true, .plainInteger⟩]
        quizAnswer []
        (objectText .standard
          ⟨"Quiz", "", "", .properties [⟨"id", "", true, .plainInteger⟩, quizAnswer], none⟩) ∧
      ∃ text,
        paramsText? .standard ⟨"sendQuiz", "", "", [quizAnswer], .bool none⟩ = some text ∧
          MemberClosed .standard ⟨"sendQuiz", .methods⟩ "SendQuizParams" [] quizAnswer [] text := by
  refine ⟨by decide +kernel, ?_, ?_⟩
  · exact (members_closed .standard).1
      ⟨"Quiz", "", "", .properties [⟨"id", "", true, .plainInteger⟩, quizAnswer], none⟩
      [⟨"id", "", true, .plainInteger⟩] quizAnswer [] rfl
  · exact (members_closed .standard).2 ⟨"sendQuiz", "", "", [quizAnswer], .bool none⟩
      [] quizAnswer [] rfl

end BotTypings
