import BotTypings.Schema.Basic

/-! Looking up, changing and storing by name. A name stands for the first entry that bears it, in
every operation alike. -/
namespace BotTypings

def modifyFirst {α : Type} (p : α → Bool) (f : α → α) : List α → List α
  | [] => []
  | x :: xs => if p x then f x :: xs else x :: modifyFirst p f xs

theorem modifyFirst_length {α : Type} (p : α → Bool) (f : α → α) (xs : List α) :
    (modifyFirst p f xs).length = xs.length := by
  induction xs with
  | nil => rfl
  | cons x xs ih =>
    rw [modifyFirst]
    split
    · rfl
    · simp [ih]

def Method.parameter? (m : Method) (name : String) : Option Property :=
  m.parameters.find? (·.name == name)

def Method.modifyParameter (name : String) (f : Property → Property) (m : Method) : Method :=
  { m with parameters := modifyFirst (·.name == name) f m.parameters }

namespace Schema

def object? (s : Schema) (name : String) : Option Object := s.objects.find? (·.name == name)

def method? (s : Schema) (name : String) : Option Method := s.methods.find? (·.name == name)

def modifyObject (s : Schema) (name : String) (f : Object → Object) : Schema :=
  { s with objects := modifyFirst (·.name == name) f s.objects }

def modifyMethod (s : Schema) (name : String) (f : Method → Method) : Schema :=
  { s with methods := modifyFirst (·.name == name) f s.methods }

def upsertObject (s : Schema) (o : Object) : Schema :=
  match s.object? o.name with
  | some _ => s.modifyObject o.name fun _ => o
  | none => { s with objects := s.objects ++ [o] }

end Schema

end BotTypings
