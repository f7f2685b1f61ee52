import BotTypings.Patch.Basic
import BotTypings.Patch.Color

/-! What a description states in prose only, or not at all: what an uploaded file is, which icon
colours are allowed, and the return type of one method. -/
namespace BotTypings

def inputFileObject : String := "InputFile"

def correctInputFile : Patch where
  name := "input_file"
  run _ s :=
    match s.object? inputFileObject with
    | none => .error (.missingObject inputFileObject)
    | some _ =>
      .ok (s.modifyObject inputFileObject fun o =>
        { o with kind := .anyOf [.expression "Blob", .expression "Promise<Blob>"] })

def iconColorMethod : String := "createForumTopic"
def iconColorParameter : String := "icon_color"

/-- The icon colour is one of those that its description lists. A description without any stops the
run, so that changed wording is noticed. -/
def correctIconColor : Patch where
  name := "icon_color"
  run _ s :=
    match s.method? iconColorMethod with
    | none => .error (.missingMethod iconColorMethod)
    | some m =>
      match m.parameter? iconColorParameter with
      | none => .error (.missingParameter iconColorMethod iconColorParameter)
      | some p =>
        match Color.scrape p.description.toList with
        | [] =>
          .error (.patternNotFound (iconColorMethod ++ "." ++ iconColorParameter) Color.pattern)
        | colors =>
          .ok (s.modifyMethod iconColorMethod (Method.modifyParameter iconColorParameter fun p =>
            { p with kind := .integer colors none none none }))

def menuButtonMethod : String := "getChatMenuButton"

def correctReturnTypes : Patch where
  name := "return_types"
  run _ s :=
    match s.method? menuButtonMethod with
    | none => .error (.missingMethod menuButtonMethod)
    | some _ =>
      .ok (s.modifyMethod menuButtonMethod fun m => { m with returns := .reference "MenuButton" })

end BotTypings
