import BotTypings.Proofs.TypeText.Pieces

/-! Type texts outside the objects. They are the texts that would be written among the objects if the
object names carried the namespace in their lead: whether an array needs parentheses and which variant
a media field drops is decided on texts, and all of these texts change together. -/
namespace BotTypings

namespace Mapper

/-- The same names, the namespace being part of the lead. -/
def qualified (m : Mapper) : Mapper := ⟨m.objectsNamespace ++ "." ++ m.lead, m.objectsNamespace⟩

theorem reference_qualified (m : Mapper) (target : String) :
    m.qualified.reference target .objects = m.reference target .methods := by
  simp only [reference, objectName, qualified, String.append_assoc]

theorem renderPieces_qualified (m : Mapper) :
    renderPieces m.qualified .objects = renderPieces m .methods := by
  have piece : Piece.render m.qualified .objects = Piece.render m .methods := by
    funext piece
    cases piece with
    | plain text => rfl
    | object target => exact m.reference_qualified target
  funext pieces
  rw [renderPieces, renderPieces, piece]

/-- Only the uploaded file of a media field shows which names the objects have. -/
theorem text_string_qualified (m : Mapper) {slot : Slot} (other : slot.name ≠ mediaField) (a b : String)
    (default : Option String) (least most : Option UInt64) :
    m.qualified.text ⟨b, .objects⟩ slot (.string [] default least most) =
      m.text ⟨a, .methods⟩ slot (.string [] default least most) := by
  have wider : m.qualified.stringOverride .objects slot = m.stringOverride .methods slot := by
    rw [stringOverride, stringOverride, if_neg other, if_neg other]
  simp only [text, wider, List.isEmpty_nil, if_true]

section

variable (m : Mapper) (slot : Slot) (a b : String)

mutual

theorem pieces_qualified : (t : FieldType) → t.enumerations = [] →
    m.qualified.pieces ⟨b, .objects⟩ slot t = m.pieces ⟨a, .methods⟩ slot t
  | .integer [] .., _ | .float .., _ | .bool .., _ | .expression .., _ => by
    simp only [pieces, text, List.isEmpty_nil, if_true]
  | .integer (_ :: _) .., listed | .string (_ :: _) .., listed => by cases listed
  | .string [] default least most, _ => by
    by_cases media : slot.name = mediaField
    · rw [pieces, pieces, if_pos media, if_pos media]
    · rw [pieces, pieces, if_neg media, if_neg media, m.text_string_qualified media a b]
  | .reference target, _ => rfl
  | .array element, unlisted => by
    rw [pieces, pieces, pieces_qualified element unlisted, arrayPieces, arrayPieces,
      renderPieces_qualified]
  | .anyOf variants, unlisted => by
    rw [pieces, pieces, variantPieces_qualified false variants unlisted, piecesWithoutUploaded,
      piecesWithoutUploaded, renderPieces_qualified, reference_qualified]

theorem variantPieces_qualified : (enumerated : Bool) → (ts : List FieldType) →
    FieldType.enumerationsOfAll ts = [] →
    m.qualified.variantPieces ⟨b, .objects⟩ slot enumerated ts =
      m.variantPieces ⟨a, .methods⟩ slot enumerated ts
  | _, [], _ => rfl
  | enumerated, t :: ts, unlisted => by
    obtain ⟨first, others⟩ := List.append_eq_nil_iff.mp unlisted
    rw [variantPieces, variantPieces, pieces_qualified t first,
      variantPieces_qualified true ts others, variantPieces_qualified enumerated ts others]

end

end

/-- Where nothing is enumerated, a type outside the objects is written as among objects whose names
carry the namespace: the same pieces in the same order, and nothing but the names rendered anew. -/
theorem text_methods_eq (lead space : String) (slot : Slot) (a b : String) {t : FieldType}
    (unlisted : t.enumerations = []) :
    (mk lead space).text ⟨a, .methods⟩ slot t =
        (mk (space ++ "." ++ lead) space).text ⟨b, .objects⟩ slot t ∧
      (mk lead space).pieces ⟨a, .methods⟩ slot t =
        (mk (space ++ "." ++ lead) space).pieces ⟨b, .objects⟩ slot t := by
  have pieces := pieces_qualified ⟨lead, space⟩ slot a b t unlisted
  refine ⟨?_, pieces.symm⟩
  calc (mk lead space).text ⟨a, .methods⟩ slot t
      = renderPieces ⟨lead, space⟩ .methods ((mk lead space).pieces ⟨a, .methods⟩ slot t) :=
        (render_pieces _ ⟨a, .methods⟩ slot t).symm
    _ = renderPieces (qualified ⟨lead, space⟩) .objects
          ((qualified ⟨lead, space⟩).pieces ⟨b, .objects⟩ slot t) := by
        rw [pieces, renderPieces_qualified]
    _ = (qualified ⟨lead, space⟩).text ⟨b, .objects⟩ slot t := render_pieces _ ⟨b, .objects⟩ slot t

/-- Uploads, one variant of which is dropped, beside an array of builders. -/
def uploadsOrReplies : FieldType :=
  .array (.anyOf [.reference uploadedObject, .array (.reference "ForceReply"), .plainString])

theorem uploadsOrReplies_qualified :
    uploadsOrReplies.enumerations = [] ∧
      (mk "Telegram" "Objects").text ⟨"sendMedia", .methods⟩ ⟨"media", "", true⟩ uploadsOrReplies =
        "((Objects.TelegramForceReply | \x7b toJSON(): Objects.TelegramForceReply \x7d)[] | " ++
          "Objects.TelegramInputFile | string)[]" ∧
      (mk "Objects.Telegram" "Objects").text ⟨"Media", .objects⟩ ⟨"media", "", true⟩
          uploadsOrReplies =
        "((Objects.TelegramForceReply | \x7b toJSON(): Objects.TelegramForceReply \x7d)[] | " ++
          "Objects.TelegramInputFile | string)[]" := by
  have unlisted : uploadsOrReplies.enumerations = [] := by decide
  have written : (mk "Telegram" "Objects").text ⟨"sendMedia", .methods⟩ ⟨"media", "", true⟩
      uploadsOrReplies =
        "((Objects.TelegramForceReply | \x7b toJSON(): Objects.TelegramForceReply \x7d)[] | " ++
          "Objects.TelegramInputFile | string)[]" := by decide +kernel
  have same := text_methods_eq "Telegram" "Objects" ⟨"media", "", true⟩ "sendMedia" "Media" unlisted
  exact ⟨unlisted, written, same.1.symm.trans written⟩

end Mapper

end BotTypings
