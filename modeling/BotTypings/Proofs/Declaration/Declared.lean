import BotTypings.Declaration.Objects
import BotTypings.Proofs.Text.Lines

/-! What the module of objects declares. Each object has a line of its own that opens the declaration of
its name. -/
namespace BotTypings

open BotTypings.Text

/-- A line may start behind the text. -/
def EndsLine (text : String) : Prop := text = "" ∨ ∃ rest, text = rest ++ "\n"

/-- A line of the text opens the declaration of a type or an interface of the name, which a blank or a
list of type parameters ends. -/
def Declares (text name : String) : Prop :=
  ∃ before keyword after, text = before ++ keyword ++ name ++ after ∧
    keyword ∈ ["export type ", "export interface "] ∧ EndsLine before ∧
    ∃ rest, after = " " ++ rest ∨ after = "<" ++ rest

namespace EndsLine

theorem empty : EndsLine "" := .inl rfl

theorem line (rest : String) : EndsLine (rest ++ "\n") := .inr ⟨rest, rfl⟩

theorem append {first second : String} (ends : EndsLine first) (endsToo : EndsLine second) :
    EndsLine (first ++ second) := by
  rcases endsToo with rfl | ⟨rest, rfl⟩
  · simpa using ends
  · exact .inr ⟨first ++ rest, by rw [String.append_assoc]⟩

theorem join {texts : List String} (each : ∀ text ∈ texts, EndsLine text) :
    EndsLine (String.join texts) := by
  induction texts with
  | nil => exact empty
  | cons text texts ih =>
    obtain ⟨here, behind⟩ := List.forall_mem_cons.mp each
    rw [String.join_cons]
    exact here.append (ih behind)

theorem ofBlock (indent : String) (lines : List String) :
    EndsLine (Documentation.block indent lines) := by
  unfold Documentation.block
  split
  · exact empty
  · have last : indent ++ " */\n" = indent ++ " */" ++ "\n" := by
      rw [String.append_assoc]
      rfl
    rw [String.append_assoc, last, ← String.append_assoc]
    exact line _

theorem ofAlias (a : Alias) : EndsLine a.render := by
  have last : "\n\n" = "\n" ++ "\n" := rfl
  unfold Alias.render
  rw [last, ← String.append_assoc]
  exact line _

end EndsLine

theorem Declares.within {part name before after : String} (declares : Declares part name)
    (ends : EndsLine before) : Declares (before ++ part ++ after) name := by
  obtain ⟨first, keyword, last, rfl, known, endsFirst, rest, opens⟩ := declares
  refine ⟨before ++ first, keyword, last ++ after, ?_, known, ends.append endsFirst,
    rest ++ after, ?_⟩
  · simp only [String.append_assoc]
  · rcases opens with rfl | rfl
    · exact .inl (String.append_assoc ..)
    · exact .inr (String.append_assoc ..)

theorem joined_split {part : String} : {parts : List String} → part ∈ parts →
    ∃ before after, joined "\n" parts = before ++ part ++ after ∧ EndsLine before
  | [only], here => by
    refine ⟨"", "", ?_, .empty⟩
    simp [joined, List.mem_singleton.mp here]
  | first :: next :: rest, there => by
    rw [joined]
    rcases List.mem_cons.mp there with rfl | later
    · exact ⟨"", "\n" ++ joined "\n" (next :: rest), by simp [String.append_assoc], .empty⟩
    · obtain ⟨before, after, split, ends⟩ := joined_split later
      refine ⟨first ++ "\n" ++ before, after, ?_, (EndsLine.line first).append ends⟩
      rw [split]
      simp only [String.append_assoc]

theorem interfaceText_opens (name : String) (members : List Member) :
    ∃ rest, interfaceText name members = "export interface " ++ name ++ (" " ++ rest) := by
  cases members with
  | nil => exact ⟨"\x7b\x7d\n", rfl⟩
  | cons member members =>
    refine ⟨"\x7b\n" ++ String.join ((member :: members).map Member.render) ++ "\x7d\n", ?_⟩
    change "export interface " ++ name ++ (" " ++ "\x7b\n") ++ _ ++ _ = _
    simp only [String.append_assoc]

theorem Declaration.declares (d : Declaration)
    (generic : d.generics = "" ∨ ∃ rest, d.generics = "<" ++ rest) : Declares d.render d.name := by
  let lead := String.join (d.aliases.map Alias.render) ++ Documentation.block "" d.doc
  have ends : EndsLine lead := by
    refine .append (.join fun text mem => ?_) (.ofBlock "" d.doc)
    obtain ⟨a, _, rfl⟩ := List.mem_map.mp mem
    exact .ofAlias a
  have opens (more : String) :
      ∃ rest, d.generics ++ (" " ++ more) = " " ++ rest ∨
        d.generics ++ (" " ++ more) = "<" ++ rest := by
    rcases generic with none | ⟨rest, some⟩
    · exact ⟨more, .inl (by simp [none])⟩
    · exact ⟨rest ++ (" " ++ more), .inr (by rw [some, String.append_assoc])⟩
  cases shape : d.shape with
  | union text =>
    refine ⟨lead, "export type ", d.generics ++ (" " ++ ("= " ++ text ++ "\n")), ?_, by simp, ends,
      opens _⟩
    have blank : " = " = " " ++ "= " := rfl
    simp only [Declaration.render, shape, lead, blank, String.append_assoc]
  | interface members =>
    obtain ⟨rest, opened⟩ := interfaceText_opens (d.name ++ d.generics) members
    refine ⟨lead, "export interface ", d.generics ++ (" " ++ rest), ?_, by simp, ends, opens _⟩
    simp only [Declaration.render, shape, opened, lead, String.append_assoc]

theorem Object.generic (o : Object) : o.generics = "" ∨ ∃ rest, o.generics = "<" ++ rest := by
  unfold generics
  cases o.typeParameters with
  | none => exact .inl rfl
  | some parameters => exact .inr ⟨parameters ++ ">", String.append_assoc ..⟩

theorem objectsText_declares (m : Mapper) {objects : List Object} {name : String}
    (mem : name ∈ objects.map (·.name)) : Declares (objectsText m objects) (m.objectName name) := by
  obtain ⟨o, inside, rfl⟩ := List.mem_map.mp mem
  have given : (o.declaration m).render ∈ (objects.map (Object.declaration m)).map
      Declaration.render :=
    List.mem_map.mpr ⟨_, List.mem_map.mpr ⟨o, inside, rfl⟩, rfl⟩
  obtain ⟨before, after, split, ends⟩ := joined_split given
  have own : Declares (o.declaration m).render (m.objectName o.name) :=
    (o.declaration m).declares o.generic
  unfold objectsText renderAll
  rw [split]
  exact own.within ends

end BotTypings
