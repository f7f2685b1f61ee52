import BotTypings.Declaration.Methods
import BotTypings.Declaration.Objects
import BotTypings.Proofs.Declaration.Documentation
import BotTypings.Proofs.TypeText.Listed
import Mathlib.Data.List.Forall2

/-! The lines of interfaces, written out. A comment may stand above an interface and above each of its
members; every other line says what it declares, and no line is left open to anything else. -/
namespace BotTypings

open BotTypings.Text

/-- No lines, or a comment that nothing ends before its last line. -/
def IsNote (indent : String) (lines : List String) : Prop :=
  lines = [] ∨ ∃ inner, lines = (indent ++ "/**") :: (inner ++ [indent ++ " */"]) ∧
    ∀ line ∈ inner, Unbroken line ∧ holdsTerminator line = false

def IsMember (name mark type : String) (lines : List String) : Prop :=
  ∃ note, IsNote "\t" note ∧ lines = note ++ ["\t" ++ name ++ mark ++ ": " ++ type]

/-- The lines of a property in the interface of its owner. -/
def IsField (m : Mapper) (owner : Owner) (p : Property) : List String → Prop :=
  IsMember p.name (if p.required then "" else "?") (m.text owner p.slot p.kind)

/-- The line that declares the literal union of a property, and an empty one; none without values for
it. -/
def unionLines (m : Mapper) (owner : Owner) (p : Property) : List String :=
  if (m.unionValues owner p).isEmpty then []
  else ["export type " ++ m.aliasName owner p.name ++ " = " ++
    joined " | " ((m.unionValues owner p).map ListedValue.literal), ""]

/-- The lines of an interface whose members are given: literal unions, a comment, and the interface
itself. -/
def IsInterface (m : Mapper) (owner : Owner) (name : String) (properties : List Property)
    (members : List (List String)) (lines : List String) : Prop :=
  List.Forall₂ (IsField m owner) properties members ∧
    ∃ note, IsNote "" note ∧
      lines = properties.flatMap (unionLines m owner) ++ note ++
        ("export interface " ++ name ++ " \x7b") :: (members.flatten ++ ["\x7d"])

theorem block_laidOut {indent : String} (margin : indent ∈ ["", "\t"]) {doc : List String}
    (unbroken : ∀ line ∈ doc, Unbroken line) :
    ∃ note, IsNote indent note ∧ Documentation.block indent doc = laidOut note := by
  refine ⟨_, ?_, Documentation.block_eq indent doc⟩
  unfold Documentation.comments
  split
  · exact .inl rfl
  · refine .inr ⟨doc.map (Documentation.commentLine indent), ?_, fun line mem => ⟨?_, ?_⟩⟩
    · rw [List.flatten_singleton, Documentation.comment]
    · refine Documentation.unbroken_comment margin unbroken line ?_
      exact List.mem_cons_of_mem _ (List.mem_append_left _ mem)
    · obtain ⟨text, _, rfl⟩ := List.mem_map.mp mem
      exact Documentation.holdsTerminator_commentLine margin text

def Member.IsLaidOut (x : Member) : List String → Prop :=
  IsMember x.name (if x.isOptional then "?" else "") x.type

theorem Member.render_laidOut (x : Member) (unbroken : ∀ line ∈ x.doc, Unbroken line) :
    ∃ lines, x.IsLaidOut lines ∧ x.render = laidOut lines := by
  obtain ⟨note, isNote, block⟩ := block_laidOut (by decide : "\t" ∈ ["", "\t"]) unbroken
  refine ⟨_, ⟨note, isNote, rfl⟩, ?_⟩
  rw [render, block]
  simp [String.append_assoc]

theorem members_laidOut {xs : List Member}
    (unbroken : ∀ x ∈ xs, ∀ line ∈ x.doc, Unbroken line) :
    ∃ members, List.Forall₂ Member.IsLaidOut xs members ∧
      String.join (xs.map Member.render) = laidOut members.flatten := by
  induction xs with
  | nil => exact ⟨[], .nil, rfl⟩
  | cons x rest ih =>
    obtain ⟨here, behind⟩ := List.forall_mem_cons.mp unbroken
    obtain ⟨lines, own, rendered⟩ := x.render_laidOut here
    obtain ⟨members, others, joined⟩ := ih behind
    refine ⟨lines :: members, .cons own others, ?_⟩
    rw [List.map_cons, String.join_cons, rendered, joined, List.flatten_cons, laidOut_append]

theorem interfaceText_eq (name : String) {members : List Member} (some : members ≠ []) :
    interfaceText name members = "export interface " ++ name ++ " \x7b" ++ "\n" ++
      String.join (members.map Member.render) ++ ("\x7d" ++ "\n") := by
  have head : "export interface " ++ name ++ " \x7b" ++ "\n" =
      "export interface " ++ name ++ " \x7b\n" := by
    rw [String.append_assoc]
    rfl
  cases members with
  | nil => exact absurd rfl some
  | cons x rest =>
    rw [head]
    rfl

theorem interfaceText_laidOut (name : String) {xs : List Member} (some : xs ≠ [])
    (unbroken : ∀ x ∈ xs, ∀ line ∈ x.doc, Unbroken line) :
    ∃ members, List.Forall₂ Member.IsLaidOut xs members ∧
      interfaceText name xs =
        laidOut (("export interface " ++ name ++ " \x7b") :: (members.flatten ++ ["\x7d"])) := by
  obtain ⟨members, each, joined⟩ := members_laidOut unbroken
  refine ⟨members, each, ?_⟩
  rw [interfaceText_eq name some, joined]
  simp [String.append_assoc]

theorem Alias.render_laidOut (a : Alias) :
    a.render = laidOut ["export type " ++ a.name ++ " = " ++ joined " | " a.literals, ""] := by
  have ending : "\n\n" = "\n" ++ "\n" := rfl
  unfold render
  rw [ending, ← String.append_assoc, laidOut_cons, laidOut_cons, laidOut_nil, String.append_empty,
    String.empty_append]

/-- What the literal union of a property is written as, if it has one. -/
def aliasLine (m : Mapper) (owner : Owner) (p : Property) : String :=
  match m.aliasFor owner p with
  | some a => a.render
  | none => ""

theorem unionLines_ne_nil_iff {m : Mapper} {owner : Owner} {p : Property} :
    unionLines m owner p ≠ [] ↔
      ∃ part ∈ p.kind.parts, m.writesAlias owner.scope p.slot part = true := by
  rw [← Mapper.unionValues_ne_nil_iff, unionLines]
  split <;> simp_all

theorem aliasLine_laidOut (m : Mapper) (owner : Owner) (p : Property) :
    aliasLine m owner p = laidOut (unionLines m owner p) := by
  rw [aliasLine, unionLines, Mapper.aliasFor_eq]
  cases m.unionValues owner p with
  | nil => rfl
  | cons v values => exact Alias.render_laidOut _

theorem aliases_laidOut (m : Mapper) (owner : Owner) (properties : List Property) :
    String.join ((aliasesFor m owner properties).map Alias.render) =
      laidOut (properties.flatMap (unionLines m owner)) := by
  induction properties with
  | nil => rfl
  | cons p rest ih =>
    have own := aliasLine_laidOut m owner p
    rw [aliasLine] at own
    rw [List.flatMap_cons, laidOut_append, ← ih, ← own, aliasesFor]
    cases given : m.aliasFor owner p with
    | none =>
      rw [List.filterMap_cons_none given, String.empty_append]
      rfl
    | some a =>
      rw [List.filterMap_cons_some given, List.map_cons, String.join_cons]
      rfl

theorem fields_laidOut {m : Mapper} {owner : Owner} {properties : List Property}
    {members : List (List String)}
    (each : List.Forall₂ Member.IsLaidOut (properties.map (Property.member m owner)) members) :
    List.Forall₂ (IsField m owner) properties members := by
  refine (List.forall₂_map_left_iff.mp each).imp fun p lines own => ?_
  rw [Member.IsLaidOut] at own
  rw [IsField]
  cases required : p.required <;> simpa [Property.member, required] using own

/-- A declaration that has the members of some properties, and the literal unions that these need, is
laid out as their interface. -/
theorem Declaration.render_laidOut (m : Mapper) (owner : Owner) {properties : List Property}
    (some : properties ≠ []) (d : Declaration) (doc : ∀ line ∈ d.doc, Unbroken line)
    (aliases : d.aliases = aliasesFor m owner properties)
    (shape : d.shape = .interface (properties.map (Property.member m owner))) :
    ∃ members lines, d.render = laidOut lines ∧
      IsInterface m owner (d.name ++ d.generics) properties members lines := by
  have docs : ∀ x ∈ properties.map (Property.member m owner), ∀ line ∈ x.doc, Unbroken line := by
    intro x mem
    obtain ⟨p, _, rfl⟩ := List.mem_map.mp mem
    exact Documentation.unbroken_lines p.description
  obtain ⟨note, isNote, block⟩ := block_laidOut (by decide : "" ∈ ["", "\t"]) doc
  obtain ⟨members, each, text⟩ := interfaceText_laidOut (d.name ++ d.generics)
    (fun none => some (List.map_eq_nil_iff.mp none)) docs
  refine ⟨members, _, ?_, fields_laidOut each, note, isNote, rfl⟩
  rw [laidOut_append, laidOut_append, ← aliases_laidOut, ← block, ← text, ← aliases,
    Declaration.render, shape]

theorem objectText_laidOut (m : Mapper) {o : Object} {properties : List Property}
    (kind : o.kind = .properties properties) (given : properties ≠ []) :
    ∃ members lines, objectText m o = laidOut lines ∧
      IsInterface m o.owner (m.objectName o.name ++ o.generics) properties members lines := by
  have aliases : (o.declaration m).aliases = aliasesFor m o.owner properties := by
    rw [Object.declaration, Object.properties, kind]
  have shape : (o.declaration m).shape =
      .interface (properties.map (Property.member m o.owner)) := by
    rw [Object.declaration, Object.shape, kind]
  have doc : ∀ line ∈ (o.declaration m).doc, Unbroken line := by
    simp only [Object.declaration]
    exact Documentation.unbroken_lines _
  exact (o.declaration m).render_laidOut m o.owner given doc aliases shape

theorem paramsText?_of_nil (m : Mapper) {method : Method} (nothing : method.parameters = []) :
    paramsText? m method = none := by
  rw [paramsText?, nothing]
  rfl

theorem paramsText?_of_ne_nil (m : Mapper) {method : Method} (given : method.parameters ≠ []) :
    paramsText? m method = some (method.paramsDeclaration m).render := by
  rw [paramsText?, if_neg (by simpa using given)]

theorem paramsText?_laidOut (m : Mapper) {method : Method} (given : method.parameters ≠ []) :
    ∃ members lines, paramsText? m method = some (laidOut lines) ∧
      IsInterface m method.owner (paramsName method.name) method.parameters members lines := by
  obtain ⟨members, lines, text, isInterface⟩ := (method.paramsDeclaration m).render_laidOut m
    method.owner given (Documentation.unbroken_lines _) rfl rfl
  rw [show (method.paramsDeclaration m).generics = "" from rfl, String.append_empty] at isInterface
  exact ⟨members, lines, by rw [paramsText?_of_ne_nil m given, text], isInterface⟩

end BotTypings
