import BotTypings.Schema.Basic
import BotTypings.Text.Blank
import BotTypings.Text.Naming
import BotTypings.TypeText.Literal

/-! Field types as type texts. The text of a type depends on where it is written: references are bare
among the objects and qualified elsewhere, an enumeration is written as the name of a literal union
declared for its field, and a few named fields are wider than the description says. -/
namespace BotTypings

open BotTypings.Text BotTypings.TypeText

inductive Scope where
  | objects
  | methods
  deriving DecidableEq, Repr

structure Owner where
  name : String
  scope : Scope
  deriving DecidableEq, Repr

/-- The position that a type text fills. Union objects and return types fill an anonymous one. -/
structure Slot where
  name : String
  description : String
  required : Bool
  deriving DecidableEq, Repr

def Slot.anonymous : Slot := ⟨"", "", false⟩

def Property.slot (p : Property) : Slot := ⟨p.name, p.description, p.required⟩

structure Mapper where
  lead : String
  objectsNamespace : String
  deriving DecidableEq, Repr

structure Alias where
  name : String
  literals : List String
  deriving DecidableEq, Repr

def standardLead : String := "Telegram"
def standardNamespace : String := "Objects"

def markupObjects : List String :=
  ["InlineKeyboardMarkup", "ReplyKeyboardMarkup", "ReplyKeyboardRemove", "ForceReply"]

def mediaField : String := "media"
def uploadedObject : String := "InputFile"
def parseModes : String := "\"HTML\" | \"MarkdownV2\" | \"Markdown\""
def formattable : String := "string | \x7b toString(): string \x7d"
def formattedText : List Char := "after entities parsing".toList

namespace Mapper

def standard : Mapper := ⟨standardLead, standardNamespace⟩

/-- The declared name of an object: `Message` becomes `TelegramMessage`. -/
def objectName (m : Mapper) (name : String) : String := m.lead ++ capitalize name

def reference (m : Mapper) (target : String) : Scope → String
  | .objects => m.objectName target
  | .methods => m.objectsNamespace ++ "." ++ m.objectName target

def aliasName (m : Mapper) (owner : Owner) (field : String) : String :=
  match owner.scope with
  | .objects => m.objectName owner.name ++ pascalCase field
  | .methods => capitalize owner.name ++ pascalCase field

/-- Fields whose strings are wider than the general rules make them. -/
def stringOverride (m : Mapper) (scope : Scope) (slot : Slot) : Option String :=
  if slot.name = mediaField then some (m.reference uploadedObject scope ++ " | string")
  else if slot.name = "parse_mode" then some parseModes
  else if slot.name = "message_text" then some formattable
  else if contains formattedText slot.description.toList then some formattable
  else none

def referenceText (m : Mapper) (scope : Scope) (target : String) : String :=
  let name := m.reference target scope
  if target ∈ markupObjects then name ++ " | \x7b toJSON(): " ++ name ++ " \x7d" else name

/-- An array of what a text says. A bar anywhere in it asks for parentheses. -/
def arrayText (inner : String) : String :=
  if '|' ∈ inner.toList then "(" ++ inner ++ ")[]" else inner ++ "[]"

/-- In a media field a string names the uploaded file already, so a variant of its own is dropped. -/
def withoutUploaded (m : Mapper) (scope : Scope) (slot : Slot) (parts : List String) :
    List String :=
  let uploaded := m.reference uploadedObject scope
  if slot.name = mediaField ∧ (uploaded ++ " | string") ∈ parts then
    parts.filter (· != uploaded)
  else parts

mutual

def text (m : Mapper) (owner : Owner) (slot : Slot) : FieldType → String
  | .integer enumeration _ _ _ =>
    if enumeration.isEmpty then "number" else m.aliasName owner slot.name
  | .float _ _ _ => "number"
  | .bool default =>
    match default with
    | some value => if slot.required then (if value then "true" else "false") else "boolean"
    | none => "boolean"
  | .string enumeration default _ _ =>
    match m.stringOverride owner.scope slot with
    | some wider => wider
    | none =>
      if enumeration.isEmpty then
        match default with
        | some value => literal value
        | none => "string"
      else m.aliasName owner slot.name
  | .reference target => m.referenceText owner.scope target
  | .array element => arrayText (m.text owner slot element)
  | .anyOf variants =>
    joined " | " (m.withoutUploaded owner.scope slot (m.variantTexts owner slot false variants))
  | .expression written => written

/-- The texts of a union's variants in their order. Enumerated variants share one alias, so only the
first of them is written. -/
def variantTexts (m : Mapper) (owner : Owner) (slot : Slot) (enumerated : Bool) :
    List FieldType → List String
  | [] => []
  | variant :: rest =>
    if variant.isEnumerated then
      if enumerated then m.variantTexts owner slot true rest
      else m.text owner slot variant :: m.variantTexts owner slot true rest
    else m.text owner slot variant :: m.variantTexts owner slot enumerated rest

end

/-- Variants joined in their order; plain repetitions are kept. -/
def union (m : Mapper) (owner : Owner) (slot : Slot) (variants : List FieldType) : String :=
  m.text owner slot (.anyOf variants)

def literalsOf (overridden : Bool) : Enumeration → List String
  | .strings values => if overridden then [] else values.map literal
  | .integers values => values.map fun n => toString n.toInt

/-- The literal union that a property needs, made of every enumeration its type leads to. -/
def aliasFor (m : Mapper) (owner : Owner) (p : Property) : Option Alias :=
  let overridden := (m.stringOverride owner.scope p.slot).isSome
  match p.kind.enumerations.flatMap (literalsOf overridden) with
  | [] => none
  | literals => some ⟨m.aliasName owner p.name, literals⟩

end Mapper

end BotTypings
