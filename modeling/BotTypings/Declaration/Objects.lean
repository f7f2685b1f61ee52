import BotTypings.Declaration.Basic

/-! The declarations of the objects: unions for those that list variants, interfaces for the others,
empty ones where a description holds no information. -/
namespace BotTypings

def Object.owner (o : Object) : Owner := ⟨o.name, .objects⟩

def Object.shape (m : Mapper) (o : Object) : Shape :=
  match o.kind with
  | .anyOf variants => .union (m.union o.owner .anonymous variants)
  | .properties properties => .interface (properties.map (Property.member m o.owner))
  | .unknown => .interface []

def Object.generics (o : Object) : String :=
  match o.typeParameters with
  | some parameters => "<" ++ parameters ++ ">"
  | none => ""

def Object.declaration (m : Mapper) (o : Object) : Declaration where
  name := m.objectName o.name
  generics := o.generics
  doc := Documentation.lines (Documentation.describe o.description o.documentationLink)
  aliases := aliasesFor m o.owner o.properties
  shape := o.shape m

def objectText (m : Mapper) (o : Object) : String := (o.declaration m).render

def objectsText (m : Mapper) (objects : List Object) : String :=
  renderAll (objects.map (Object.declaration m))

end BotTypings
