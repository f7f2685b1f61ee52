import BotTypings.Decimal.Binary64

/-! The description of a bot API: a release, the callable methods and the objects they exchange. The
set of field types is closed. A verbatim type text is made by patches only; no description holds one. -/
namespace BotTypings

open BotTypings.Decimal

inductive FieldType where
  | integer (enumeration : List Int64) (default min max : Option Int64)
  | float (default min max : Option Binary64)
  | string (enumeration : List String) (default : Option String) (minLength maxLength : Option UInt64)
  | bool (default : Option Bool)
  | reference (name : String)
  | array (element : FieldType)
  | anyOf (variants : List FieldType)
  | expression (text : String)
  deriving Inhabited

namespace FieldType

mutual

def same : FieldType → FieldType → Bool
  | integer e d a b, integer e' d' a' b' => e == e' && d == d' && a == a' && b == b'
  | float d a b, float d' a' b' => d == d' && a == a' && b == b'
  | string e d a b, string e' d' a' b' => e == e' && d == d' && a == a' && b == b'
  | bool d, bool d' => d == d'
  | reference n, reference n' => n == n'
  | array t, array t' => t.same t'
  | anyOf ts, anyOf ts' => sameAll ts ts'
  | expression x, expression x' => x == x'
  | _, _ => false

def sameAll : List FieldType → List FieldType → Bool
  | [], [] => true
  | t :: ts, t' :: ts' => t.same t' && sameAll ts ts'
  | _, _ => false

end

mutual

theorem eq_of_same : {t u : FieldType} → t.same u = true → t = u
  | integer .., u, h => by cases u <;> simp_all [same]
  | float .., u, h => by cases u <;> simp_all [same]
  | string .., u, h => by cases u <;> simp_all [same]
  | bool .., u, h => by cases u <;> simp_all [same]
  | reference .., u, h => by cases u <;> simp_all [same]
  | array t, u, h => by
    cases u <;> simp [same] at h
    rw [eq_of_same h]
  | anyOf ts, u, h => by
    cases u <;> simp [same] at h
    rw [eq_of_sameAll h]
  | expression .., u, h => by cases u <;> simp_all [same]

theorem eq_of_sameAll : {ts us : List FieldType} → sameAll ts us = true → ts = us
  | [], us, h => by cases us <;> simp_all [sameAll]
  | t :: ts, us, h => by
    cases us <;> simp [sameAll] at h
    rw [eq_of_same h.1, eq_of_sameAll h.2]

end

mutual

theorem same_self : (t : FieldType) → t.same t = true
  | integer .. | float .. | string .. | bool .. | reference .. | expression .. => by simp [same]
  | array t => by rw [same]; exact same_self t
  | anyOf ts => by rw [same]; exact sameAll_self ts

theorem sameAll_self : (ts : List FieldType) → sameAll ts ts = true
  | [] => rfl
  | t :: ts => by rw [sameAll, same_self t, sameAll_self ts]; rfl

end

instance : DecidableEq FieldType := fun t u =>
  decidable_of_iff (t.same u = true) ⟨eq_of_same, fun h => h ▸ same_self t⟩

end FieldType

structure Property where
  name : String
  description : String
  required : Bool
  kind : FieldType
  deriving DecidableEq

inductive ObjectKind where
  | properties (properties : List Property)
  | anyOf (variants : List FieldType)
  | unknown
  deriving DecidableEq

structure Object where
  name : String
  description : String
  documentationLink : String
  kind : ObjectKind
  typeParameters : Option String
  deriving DecidableEq

structure Method where
  name : String
  description : String
  documentationLink : String
  parameters : List Property
  returns : FieldType
  deriving DecidableEq

structure Version where
  major : UInt32
  minor : UInt32
  patch : UInt32
  deriving DecidableEq, Repr

structure ReleaseDate where
  year : UInt32
  month : UInt32
  day : UInt32
  deriving DecidableEq, Repr

structure Schema where
  version : Version
  released : ReleaseDate
  methods : List Method
  objects : List Object
  deriving DecidableEq

def Version.text (v : Version) : String :=
  toString v.major.toNat ++ "." ++ toString v.minor.toNat ++ "." ++ toString v.patch.toNat

def padded (width n : Nat) : String :=
  let digits := Nat.toDigits 10 n
  String.ofList (List.replicate (width - digits.length) '0' ++ digits)

def ReleaseDate.text (d : ReleaseDate) : String :=
  padded 4 d.year.toNat ++ "-" ++ padded 2 d.month.toNat ++ "-" ++ padded 2 d.day.toNat

namespace FieldType

def plainInteger : FieldType := integer [] none none none
def plainString : FieldType := string [] none none none

def literal (value : String) : FieldType := string [] (some value) none none

def tag : FieldType → String
  | integer .. => "integer"
  | float .. => "float"
  | string .. => "string"
  | bool .. => "bool"
  | reference .. => "reference"
  | array .. => "array"
  | anyOf .. => "any_of"
  | expression .. => "expression"

end FieldType

inductive Enumeration where
  | strings (values : List String)
  | integers (values : List Int64)
  deriving DecidableEq, Repr

def Enumeration.size : Enumeration → Nat
  | strings values => values.length
  | integers values => values.length

namespace FieldType

mutual

def enumerations : FieldType → List Enumeration
  | string (v :: vs) _ _ _ => [.strings (v :: vs)]
  | integer (v :: vs) _ _ _ => [.integers (v :: vs)]
  | array element => element.enumerations
  | anyOf variants => enumerationsOfAll variants
  | _ => []

def enumerationsOfAll : List FieldType → List Enumeration
  | [] => []
  | variant :: rest => variant.enumerations ++ enumerationsOfAll rest

end

def isEnumerated : FieldType → Bool
  | string (_ :: _) _ _ _ => true
  | integer (_ :: _) _ _ _ => true
  | _ => false

end FieldType

def Object.properties (o : Object) : List Property :=
  match o.kind with
  | .properties properties => properties
  | .anyOf _ | .unknown => []

end BotTypings
