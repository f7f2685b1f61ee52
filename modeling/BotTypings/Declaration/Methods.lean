import BotTypings.Declaration.Basic

/-! The declarations of the methods: one params interface for each method that takes parameters, and
one interface that maps every method to its call signature. -/
namespace BotTypings

open BotTypings.Text

/-- How the params object of a method is passed: not at all, at will, or always. -/
inductive ParamsShape where
  | none
  | optional
  | required
  deriving DecidableEq, Repr

def ParamsShape.text : ParamsShape → String
  | none => "none"
  | optional => "optional"
  | required => "required"

def Method.paramsShape (method : Method) : ParamsShape :=
  if method.parameters.isEmpty then .none
  else if method.parameters.any (·.required) then .required
  else .optional

def Method.owner (method : Method) : Owner := ⟨method.name, .methods⟩

/-- The params interface of a method: `sendMessage` becomes `SendMessageParams`. -/
def paramsName (methodName : String) : String := capitalize methodName ++ "Params"

def Method.paramsSummary (method : Method) : String :=
  if method.documentationLink = "" then "Params object for the `" ++ method.name ++ "` method"
  else "Params object for the [" ++ method.name ++ "](" ++ method.documentationLink ++ ") method"

def Method.paramsDeclaration (m : Mapper) (method : Method) : Declaration where
  name := paramsName method.name
  generics := ""
  doc := Documentation.lines method.paramsSummary
  aliases := aliasesFor m method.owner method.parameters
  shape := .interface (method.parameters.map (Property.member m method.owner))

def paramsText? (m : Mapper) (method : Method) : Option String :=
  if method.parameters.isEmpty then none else some (method.paramsDeclaration m).render

def paramsText (m : Mapper) (methods : List Method) : String :=
  renderAll ((methods.filter (!·.parameters.isEmpty)).map (Method.paramsDeclaration m))

def methodsInterface : String := "APIMethods"
def paramsNamespace : String := "Params"

def Method.signature (m : Mapper) (method : Method) : String :=
  let returns := m.text method.owner .anonymous method.returns
  let params := paramsNamespace ++ "." ++ paramsName method.name
  match method.paramsShape with
  | .none => "CallAPIWithoutParams<" ++ returns ++ ">"
  | .optional => "CallAPIWithOptionalParams<" ++ params ++ ", " ++ returns ++ ">"
  | .required => "CallAPI<" ++ params ++ ", " ++ returns ++ ">"

def Method.member (m : Mapper) (method : Method) : Member where
  name := method.name
  isOptional := false
  type := method.signature m
  doc := Documentation.lines (Documentation.describe method.description method.documentationLink)

def methodsText (m : Mapper) (methods : List Method) : String :=
  interfaceText methodsInterface (methods.map (Method.member m))

end BotTypings
