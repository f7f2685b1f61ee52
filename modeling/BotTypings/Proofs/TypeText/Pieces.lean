import BotTypings.Proofs.Schema.Parts
import BotTypings.TypeText.Mapper

/-! Type texts taken apart into the names of objects and what stands between them. Put together again
they are the text of the type, and each name is the target of a reference somewhere in the type or the
uploaded file of a media field. -/
namespace BotTypings

open BotTypings.Text

/-- A piece of a text: written as it is, or the name of an object. -/
inductive Piece where
  | plain (text : String)
  | object (target : String)
  deriving DecidableEq

def Piece.render (m : Mapper) (scope : Scope) : Piece → String
  | plain text => text
  | object target => m.reference target scope

def renderPieces (m : Mapper) (scope : Scope) (pieces : List Piece) : String :=
  String.join (pieces.map (Piece.render m scope))

section

variable (m : Mapper) (scope : Scope)

@[simp] theorem renderPieces_nil : renderPieces m scope [] = "" := rfl

@[simp] theorem renderPieces_cons (piece : Piece) (pieces : List Piece) :
    renderPieces m scope (piece :: pieces) = piece.render m scope ++ renderPieces m scope pieces := by
  simp [renderPieces, String.join_cons]

@[simp] theorem renderPieces_append (first second : List Piece) :
    renderPieces m scope (first ++ second) =
      renderPieces m scope first ++ renderPieces m scope second := by
  simp [renderPieces, String.join_append]

@[simp] theorem render_plain (text : String) : (Piece.plain text).render m scope = text := rfl

theorem renderPieces_plain (text : String) : renderPieces m scope [.plain text] = text := by simp

@[simp] theorem render_object (target : String) :
    (Piece.object target).render m scope = m.reference target scope := rfl

end

def joinedPieces (sep : String) : List (List Piece) → List Piece
  | [] => []
  | [only] => only
  | first :: rest => first ++ .plain sep :: joinedPieces sep rest

theorem render_joinedPieces (m : Mapper) (scope : Scope) (sep : String) :
    (parts : List (List Piece)) →
    renderPieces m scope (joinedPieces sep parts) = joined sep (parts.map (renderPieces m scope))
  | [] => rfl
  | [only] => rfl
  | first :: next :: rest => by
    have ih := render_joinedPieces m scope sep (next :: rest)
    rw [List.map_cons] at ih
    simp only [joinedPieces, List.map_cons, joined, renderPieces_append, renderPieces_cons,
      render_plain, ih, String.append_assoc]

theorem mem_joinedPieces {sep target : String} : {parts : List (List Piece)} →
    .object target ∈ joinedPieces sep parts → ∃ part ∈ parts, .object target ∈ part
  | [], inside => absurd inside List.not_mem_nil
  | [only], inside => ⟨only, List.mem_singleton_self only, inside⟩
  | first :: next :: rest, inside => by
    simp only [joinedPieces, List.mem_append, List.mem_cons] at inside
    rcases inside with here | impossible | behind
    · exact ⟨first, List.mem_cons_self, here⟩
    · cases impossible
    · obtain ⟨part, mem, found⟩ := mem_joinedPieces behind
      exact ⟨part, List.mem_cons_of_mem _ mem, found⟩

namespace Mapper

def referencePieces (target : String) : List Piece :=
  if target ∈ markupObjects then
    [.object target, .plain " | \x7b toJSON(): ", .object target, .plain " \x7d"]
  else [.object target]

def arrayPieces (m : Mapper) (scope : Scope) (inner : List Piece) : List Piece :=
  if '|' ∈ (renderPieces m scope inner).toList then .plain "(" :: inner ++ [.plain ")[]"]
  else inner ++ [.plain "[]"]

def piecesWithoutUploaded (m : Mapper) (scope : Scope) (slot : Slot) (parts : List (List Piece)) :
    List (List Piece) :=
  let uploaded := m.reference uploadedObject scope
  if slot.name = mediaField ∧ (uploaded ++ " | string") ∈ parts.map (renderPieces m scope) then
    parts.filter fun part => renderPieces m scope part != uploaded
  else parts

mutual

/-- The pieces of the text that a type has in a slot of its owner. -/
def pieces (m : Mapper) (owner : Owner) (slot : Slot) : FieldType → List Piece
  | .string enumeration default minLength maxLength =>
    if slot.name = mediaField then [.object uploadedObject, .plain " | string"]
    else [.plain (m.text owner slot (.string enumeration default minLength maxLength))]
  | .reference target => referencePieces target
  | .array element => m.arrayPieces owner.scope (m.pieces owner slot element)
  | .anyOf variants =>
    joinedPieces " | "
      (m.piecesWithoutUploaded owner.scope slot (m.variantPieces owner slot false variants))
  | t => [.plain (m.text owner slot t)]

def variantPieces (m : Mapper) (owner : Owner) (slot : Slot) (enumerated : Bool) :
    List FieldType → List (List Piece)
  | [] => []
  | variant :: rest =>
    if variant.isEnumerated then
      if enumerated then m.variantPieces owner slot true rest
      else m.pieces owner slot variant :: m.variantPieces owner slot true rest
    else m.pieces owner slot variant :: m.variantPieces owner slot enumerated rest

end

theorem render_referencePieces (m : Mapper) (scope : Scope) (target : String) :
    renderPieces m scope (referencePieces target) = m.referenceText scope target := by
  unfold referencePieces referenceText
  split <;> simp [String.append_assoc]

theorem render_arrayPieces (m : Mapper) (scope : Scope) (inner : List Piece) :
    renderPieces m scope (m.arrayPieces scope inner) = arrayText (renderPieces m scope inner) := by
  unfold arrayPieces arrayText
  split <;> simp [String.append_assoc]

theorem render_piecesWithoutUploaded (m : Mapper) (scope : Scope) (slot : Slot)
    (parts : List (List Piece)) :
    (m.piecesWithoutUploaded scope slot parts).map (renderPieces m scope) =
      m.withoutUploaded scope slot (parts.map (renderPieces m scope)) := by
  rw [piecesWithoutUploaded, withoutUploaded]
  split
  · rw [List.filter_map]
    rfl
  · rfl

section

variable (m : Mapper) (owner : Owner) (slot : Slot)

mutual

theorem render_pieces : (t : FieldType) →
    renderPieces m owner.scope (m.pieces owner slot t) = m.text owner slot t
  | .integer .. | .float .. | .bool .. | .expression .. => by simp [pieces]
  | .string .. => by
    by_cases media : slot.name = mediaField
    · simp [pieces, text, stringOverride, media]
    · simp [pieces, media]
  | .reference target => by rw [pieces, text, render_referencePieces]
  | .array element => by rw [pieces, text, render_arrayPieces, render_pieces element]
  | .anyOf variants => by
    rw [pieces, text, render_joinedPieces, render_piecesWithoutUploaded,
      render_variantPieces false variants]

theorem render_variantPieces : (enumerated : Bool) → (ts : List FieldType) →
    (m.variantPieces owner slot enumerated ts).map (renderPieces m owner.scope) =
      m.variantTexts owner slot enumerated ts
  | _, [] => rfl
  | enumerated, t :: ts => by
    rw [variantPieces, variantTexts]
    split
    · split
      · exact render_variantPieces true ts
      · rw [List.map_cons, render_pieces t, render_variantPieces true ts]
    · rw [List.map_cons, render_pieces t, render_variantPieces enumerated ts]

end

variable {m owner slot}

theorem mem_referencePieces {target named : String}
    (inside : .object named ∈ referencePieces target) : named = target := by
  unfold referencePieces at inside
  split at inside <;> simpa using inside

theorem mem_arrayPieces {scope : Scope} {inner : List Piece} {named : String}
    (inside : .object named ∈ m.arrayPieces scope inner) : .object named ∈ inner := by
  unfold arrayPieces at inside
  split at inside <;> simpa using inside

theorem piecesWithoutUploaded_subset {scope : Scope} (parts : List (List Piece)) :
    m.piecesWithoutUploaded scope slot parts ⊆ parts := by
  rw [piecesWithoutUploaded]
  split
  · exact List.filter_sublist.subset
  · exact List.Subset.refl parts

mutual

theorem mem_pieces {named : String} : (t : FieldType) → .object named ∈ m.pieces owner slot t →
    .reference named ∈ t.parts ∨ named = uploadedObject
  | .integer .., inside | .float .., inside | .bool .., inside | .expression .., inside => by
    simp [pieces] at inside
  -- A string in a media field says the uploaded file, whatever the schema refers to.
  | .string .., inside => by
    rw [pieces] at inside
    split at inside
    · exact .inr (by simpa using inside)
    · simp at inside
  | .reference target, inside => by
    rw [pieces] at inside
    rw [mem_referencePieces inside]
    exact .inl (List.mem_singleton_self _)
  | .array element, inside => by
    rw [pieces] at inside
    rcases mem_pieces element (mem_arrayPieces inside) with below | uploaded
    · exact .inl (List.mem_cons_of_mem _ below)
    · exact .inr uploaded
  | .anyOf variants, inside => by
    rw [pieces] at inside
    obtain ⟨part, kept, found⟩ := mem_joinedPieces inside
    have given := piecesWithoutUploaded_subset _ kept
    rcases mem_variantPieces false variants given found with below | uploaded
    · exact .inl (List.mem_cons_of_mem _ below)
    · exact .inr uploaded

theorem mem_variantPieces {named : String} {part : List Piece} : (enumerated : Bool) →
    (ts : List FieldType) → part ∈ m.variantPieces owner slot enumerated ts →
    .object named ∈ part → .reference named ∈ FieldType.partsOfAll ts ∨ named = uploadedObject
  | enumerated, t :: ts, given, inside => by
    rw [FieldType.partsOfAll, List.mem_append]
    have own (next : Bool) : part ∈ m.pieces owner slot t :: m.variantPieces owner slot next ts →
        (.reference named ∈ t.parts ∨ .reference named ∈ FieldType.partsOfAll ts) ∨
          named = uploadedObject := by
      intro mem
      rcases List.mem_cons.mp mem with rfl | later
      · exact (mem_pieces t inside).imp_left .inl
      · exact (mem_variantPieces next ts later inside).imp_left .inr
    rw [variantPieces] at given
    split at given
    · split at given
      · exact (mem_variantPieces true ts given inside).imp_left .inr
      · exact own true given
    · exact own enumerated given

end

end

end Mapper

end BotTypings
