import BotTypings.Declaration.Module
import BotTypings.Proofs.Declaration.Layout
import BotTypings.Proofs.TypeText.Unbroken

/-! Documentation in the declaration modules. What a reader finds as comments is what the
descriptions and links were made into; what is left without them is the same declarations, written
without documentation. -/
namespace BotTypings

open BotTypings.Text

structure Member.Unbroken (x : Member) : Prop where
  name : Text.Unbroken x.name
  type : Text.Unbroken x.type
  doc : ∀ line ∈ x.doc, Text.Unbroken line

def Shape.Unbroken : Shape → Prop
  | union text => Text.Unbroken text
  | interface members => ∀ x ∈ members, x.Unbroken

structure Declaration.Unbroken (d : Declaration) : Prop where
  name : Text.Unbroken d.name
  generics : Text.Unbroken d.generics
  doc : ∀ line ∈ d.doc, Text.Unbroken line
  aliases : ∀ a ∈ d.aliases, a.Unbroken
  shape : d.shape.Unbroken

def Member.undocumented (x : Member) : Member := { x with doc := [] }

def Shape.undocumented : Shape → Shape
  | union text => union text
  | interface members => interface (members.map Member.undocumented)

def Declaration.undocumented (d : Declaration) : Declaration :=
  { d with doc := [], shape := d.shape.undocumented }

def Member.comments (x : Member) : List (List String) := Documentation.comments "\t" x.doc

def Shape.comments : Shape → List (List String)
  | union _ => []
  | interface members => members.flatMap Member.comments

def Declaration.comments (d : Declaration) : List (List String) :=
  Documentation.comments "" d.doc ++ d.shape.comments

theorem isOpening_of_mem {line : String} {c : Char} (foreign : c ∉ ['\t', '/', '*'])
    (inside : c ∈ line.toList) : isOpening line = false := by
  rw [isOpening, Bool.or_eq_false_iff, beq_eq_false_iff_ne, beq_eq_false_iff_ne]
  constructor
  · rintro rfl
    exact foreign (by revert inside; simp +contextual)
  · rintro rfl
    exact foreign (by revert inside; simp +contextual)

theorem Alias.Unbroken.line {a : Alias} (unbroken : a.Unbroken) :
    Text.Unbroken ("export type " ++ a.name ++ " = " ++ joined " | " a.literals) := by
  simp only [unbroken_append]
  exact ⟨⟨⟨by decide, unbroken.name⟩, by decide⟩, unbroken_joined (by decide) unbroken.literals⟩

theorem Alias.Unbroken.render_commented {a : Alias} (unbroken : a.Unbroken) :
    Commented a.render a.render [] := by
  have line : Commented ("export type " ++ a.name ++ " = " ++ joined " | " a.literals ++ "\n")
      ("export type " ++ a.name ++ " = " ++ joined " | " a.literals ++ "\n") [] :=
    .ofLine unbroken.line (isOpening_of_mem (c := '=') (by decide) (by simp))
  have blank : Commented ("" ++ "\n") ("" ++ "\n") [] := .ofLine (by decide) (by decide)
  have both := line.append blank
  rwa [String.append_assoc] at both

def Member.line (x : Member) : String :=
  "\t" ++ x.name ++ (if x.isOptional then "?" else "") ++ ": " ++ x.type

theorem Member.render_eq (x : Member) :
    x.render = Documentation.block "\t" x.doc ++ (x.line ++ "\n") := by
  simp only [render, line, String.append_assoc]

theorem Member.Unbroken.line {x : Member} (unbroken : x.Unbroken) : Text.Unbroken x.line := by
  simp only [Member.line, unbroken_append]
  refine ⟨⟨⟨⟨by decide, unbroken.name⟩, ?_⟩, by decide⟩, unbroken.type⟩
  split <;> decide

theorem Member.Unbroken.render_commented {x : Member} (unbroken : x.Unbroken) :
    Commented x.render x.undocumented.render x.comments := by
  have line : Commented (x.line ++ "\n") (x.line ++ "\n") [] :=
    .ofLine unbroken.line (isOpening_of_mem (c := ':') (by decide) (by simp [Member.line]))
  have margin : "\t" ∈ ["", "\t"] := by decide
  have whole := (Documentation.block_commented margin unbroken.doc).append line
  rw [List.append_nil] at whole
  rw [Member.render_eq, Member.render_eq]
  exact whole

theorem interfaceText_commented {name : String} (unbroken : Text.Unbroken name)
    {members : List Member} (each : ∀ x ∈ members, x.Unbroken) :
    Commented (interfaceText name members)
      (interfaceText name (members.map Member.undocumented)) (members.flatMap Member.comments) := by
  have head {tail : String} (plain : Text.Unbroken tail) :
      Commented ("export interface " ++ name ++ tail ++ "\n")
        ("export interface " ++ name ++ tail ++ "\n") [] := by
    refine .ofLine ?_ (isOpening_of_mem (c := 'e') (by decide) (by simp))
    simp only [unbroken_append]
    exact ⟨⟨by decide, unbroken⟩, plain⟩
  by_cases none : members = []
  · subst none
    have line := head (by decide : Text.Unbroken " \x7b\x7d")
    rw [String.append_assoc] at line
    exact line
  · have opening := head (by decide : Text.Unbroken " \x7b")
    have body := Commented.join fun x mem => (each x mem).render_commented
    have closing : Commented ("\x7d" ++ "\n") ("\x7d" ++ "\n") [] := .ofLine (by decide) (by decide)
    have whole := (opening.append body).append closing
    rw [List.nil_append, List.append_nil] at whole
    rw [interfaceText_eq name none, interfaceText_eq name (by simpa using none), List.map_map]
    exact whole

theorem Declaration.Unbroken.render_commented {d : Declaration} (unbroken : d.Unbroken) :
    Commented d.render d.undocumented.render d.comments := by
  have name : Text.Unbroken (d.name ++ d.generics) :=
    unbroken_append.mpr ⟨unbroken.name, unbroken.generics⟩
  have aliases : Commented (String.join (d.aliases.map Alias.render))
      (String.join (d.aliases.map Alias.render)) [] := by
    have each := Commented.join fun a mem => (unbroken.aliases a mem).render_commented
    rwa [List.flatMap_eq_nil_iff.mpr fun _ _ => rfl] at each
  have margin : "" ∈ ["", "\t"] := by decide
  have doc := aliases.append (Documentation.block_commented margin unbroken.doc)
  have lines := unbroken.shape
  obtain ⟨own, generics, text, unions, shape⟩ := d
  cases shape with
  | union text =>
    have line : Commented ("export type " ++ own ++ generics ++ " = " ++ text ++ "\n")
        ("export type " ++ own ++ generics ++ " = " ++ text ++ "\n") [] := by
      refine .ofLine ?_ (isOpening_of_mem (c := '=') (by decide) (by simp))
      simp only [unbroken_append] at name ⊢
      exact ⟨⟨⟨⟨by decide, name.1⟩, name.2⟩, by decide⟩, lines⟩
    exact doc.append line
  | interface members => exact doc.append (interfaceText_commented name lines)

theorem renderAll_commented {ds : List Declaration} (unbroken : ∀ d ∈ ds, d.Unbroken) :
    Commented (renderAll ds) (renderAll (ds.map Declaration.undocumented))
      (ds.flatMap Declaration.comments) := by
  rw [renderAll, renderAll, List.map_map]
  exact .joined fun d mem => (unbroken d mem).render_commented

end BotTypings
