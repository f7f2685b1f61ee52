import BotTypings.Documentation
import BotTypings.TypeText.Mapper

/-! Declarations as data, and their text. What is declared, in which order and with which members is
decided before anything is written; writing only lays it out. -/
namespace BotTypings

open BotTypings.Text

structure Member where
  name : String
  isOptional : Bool
  type : String
  doc : List String
  deriving DecidableEq, Repr

inductive Shape where
  | union (text : String)
  | interface (members : List Member)
  deriving DecidableEq, Repr

structure Declaration where
  name : String
  generics : String
  doc : List String
  aliases : List Alias
  shape : Shape
  deriving DecidableEq, Repr

def Property.member (m : Mapper) (owner : Owner) (p : Property) : Member where
  name := p.name
  isOptional := !p.required
  type := m.text owner p.slot p.kind
  doc := Documentation.lines p.description

def aliasesFor (m : Mapper) (owner : Owner) (properties : List Property) : List Alias :=
  properties.filterMap (m.aliasFor owner)

/-- A literal union on a line of its own, a blank line behind it. -/
def Alias.render (a : Alias) : String :=
  "export type " ++ a.name ++ " = " ++ joined " | " a.literals ++ "\n\n"

def Member.render (m : Member) : String :=
  Documentation.block "\t" m.doc ++
    "\t" ++ m.name ++ (if m.isOptional then "?" else "") ++ ": " ++ m.type ++ "\n"

/-- An interface; one without members stands on a single line. -/
def interfaceText (name : String) (members : List Member) : String :=
  match members with
  | [] => "export interface " ++ name ++ " \x7b\x7d\n"
  | members =>
    "export interface " ++ name ++ " \x7b\n" ++ String.join (members.map Member.render) ++ "\x7d\n"

def Declaration.render (d : Declaration) : String :=
  String.join (d.aliases.map Alias.render) ++ Documentation.block "" d.doc ++
    match d.shape with
    | .union text => "export type " ++ d.name ++ d.generics ++ " = " ++ text ++ "\n"
    | .interface members => interfaceText (d.name ++ d.generics) members

/-- Declarations in their order, a blank line between neighbours. -/
def renderAll (ds : List Declaration) : String := joined "\n" (ds.map Declaration.render)

end BotTypings
