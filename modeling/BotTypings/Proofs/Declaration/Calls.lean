import BotTypings.Proofs.Declaration.Members
import BotTypings.Summary
import Mathlib.Data.List.Forall2

/-! The methods and their params. A call type refers to a params interface, the module of params
declares it, and a summary tells how it is passed; each is worked out on its own, and they agree on
which methods take params and on which may be called without. -/
namespace BotTypings

open BotTypings.Text BotTypings.Json

inductive CallType where
  | withoutParams (result : String)
  | withParams (omittable : Bool) (params result : String)

namespace CallType

def withoutHead : String := "CallAPIWithoutParams<"
def optionalHead : String := "CallAPIWithOptionalParams<"
def requiredHead : String := "CallAPI<"

def head : CallType → String
  | withoutParams _ => withoutHead
  | withParams true _ _ => optionalHead
  | withParams false _ _ => requiredHead

def arguments : CallType → String
  | withoutParams result => result
  | withParams _ params result => "Params." ++ params ++ ", " ++ result

def text (call : CallType) : String := call.head ++ call.arguments ++ ">"

def params? : CallType → Option String
  | withoutParams _ => none
  | withParams _ params _ => some params

theorem head_mem (call : CallType) : call.head ∈ [withoutHead, optionalHead, requiredHead] := by
  rcases call with result | ⟨_ | _, params, result⟩ <;> simp [head]

theorem head_prefix (call : CallType) : call.head.toList <+: call.text.toList := by
  rw [text, String.append_assoc, String.toList_append]
  exact List.prefix_append _ _

/-- No head begins another, so the form of a call can be told from its text. -/
theorem head_of_text {call other : CallType} (same : call.text = other.text) :
    call.head = other.head := by
  have apart : ∀ x ∈ [withoutHead, optionalHead, requiredHead],
      ∀ y ∈ [withoutHead, optionalHead, requiredHead], x.toList <+: y.toList → x = y := by
    decide +kernel
  have first := call.head_prefix
  rw [same] at first
  rcases List.prefix_or_prefix_of_prefix first other.head_prefix with shorter | longer
  · exact apart _ call.head_mem _ other.head_mem shorter
  · exact (apart _ other.head_mem _ call.head_mem longer).symm

end CallType

def TakesParams (signature : String) : Prop :=
  ∃ omittable params result, signature = (CallType.withParams omittable params result).text

def OmitsParams (signature : String) : Prop :=
  ∃ params result, signature = (CallType.withParams true params result).text

def Method.call (m : Mapper) (method : Method) : CallType :=
  let returns := m.text method.owner .anonymous method.returns
  match method.paramsShape with
  | .none => .withoutParams returns
  | .optional => .withParams true (paramsName method.name) returns
  | .required => .withParams false (paramsName method.name) returns

theorem Method.signature_eq (m : Mapper) (method : Method) :
    method.signature m = (method.call m).text := by
  have qualified : paramsNamespace ++ "." = "Params." := by decide
  rw [signature, call]
  cases method.paramsShape <;>
    simp only [CallType.text, CallType.head, CallType.arguments, CallType.withoutHead,
      CallType.optionalHead, CallType.requiredHead, qualified, String.append_assoc]

theorem Method.takesParams_iff (m : Mapper) (method : Method) :
    TakesParams (method.signature m) ↔ method.paramsShape ≠ .none := by
  rw [signature_eq, call]
  constructor
  · rintro ⟨omittable, params, result, same⟩ none
    rw [none] at same
    cases omittable with
    | true =>
      have heads : CallType.withoutHead = CallType.optionalHead := CallType.head_of_text same
      exact absurd heads (by decide)
    | false =>
      have heads : CallType.withoutHead = CallType.requiredHead := CallType.head_of_text same
      exact absurd heads (by decide)
  · intro some
    cases shape : method.paramsShape with
    | none => exact absurd shape some
    | optional => exact ⟨true, _, _, rfl⟩
    | required => exact ⟨false, _, _, rfl⟩

theorem Method.omitsParams_iff (m : Mapper) (method : Method) :
    OmitsParams (method.signature m) ↔ method.paramsShape = .optional := by
  rw [signature_eq, call]
  constructor
  · rintro ⟨params, result, same⟩
    cases shape : method.paramsShape with
    | optional => rfl
    | none =>
      rw [shape] at same
      have heads : CallType.withoutHead = CallType.optionalHead := CallType.head_of_text same
      exact absurd heads (by decide)
    | required =>
      rw [shape] at same
      have heads : CallType.requiredHead = CallType.optionalHead := CallType.head_of_text same
      exact absurd heads (by decide)
  · intro optional
    rw [optional]
    exact ⟨_, _, rfl⟩

theorem Method.paramsShape_eq_none_iff (method : Method) :
    method.paramsShape = .none ↔ method.parameters = [] := by
  rw [paramsShape]
  cases method.parameters with
  | nil => exact ⟨fun _ => rfl, fun _ => rfl⟩
  | cons p rest =>
    rw [if_neg (by simp)]
    split <;> simp

theorem Method.paramsShape_eq_optional_iff (method : Method) :
    method.paramsShape = .optional ↔
      method.parameters ≠ [] ∧ ∀ p ∈ method.parameters, p.required = false := by
  rw [paramsShape]
  cases method.parameters with
  | nil => simp
  | cons p rest =>
    rw [if_neg (by simp)]
    by_cases needed : (p :: rest).any (·.required) = true
    · rw [if_pos needed]
      obtain ⟨q, given, required⟩ := List.any_eq_true.mp needed
      refine ⟨nofun, fun optional => ?_⟩
      rw [optional.2 q given] at required
      cases required
    · rw [if_neg needed]
      refine ⟨fun _ => ⟨List.cons_ne_nil p rest, fun q given => ?_⟩, fun _ => rfl⟩
      exact Bool.eq_false_iff.mpr fun required => needed (List.any_eq_true.mpr ⟨q, given, required⟩)

/-- The lines of a property that carry the mark of one that may be left out. -/
def IsMarkedField (m : Mapper) (owner : Owner) (p : Property) : List String → Prop :=
  IsMember p.name "?" (m.text owner p.slot p.kind)

theorem IsMember.mark_eq {name mark other type : String} {lines : List String}
    (own : IsMember name mark type lines) (marked : IsMember name other type lines) :
    mark = other := by
  obtain ⟨note, _, rfl⟩ := own
  obtain ⟨note', _, same⟩ := marked
  have last := congrArg List.getLast? same
  simp only [List.getLast?_append, List.getLast?_singleton, Option.some_or, Option.some_inj,
    String.append_left_inj, String.append_right_inj] at last
  exact last

theorem IsField.isMarked_iff {m : Mapper} {owner : Owner} {p : Property} {lines : List String}
    (field : IsField m owner p lines) : IsMarkedField m owner p lines ↔ p.required = false := by
  rw [IsField] at field
  constructor
  · intro marked
    have mark := field.mark_eq marked
    cases required : p.required with
    | false => rfl
    | true =>
      rw [if_pos required] at mark
      exact absurd mark (by decide)
  · intro optional
    rw [if_neg (by simp [optional])] at field
    exact field

theorem fields_marked_iff {m : Mapper} {owner : Owner} {properties : List Property}
    {members : List (List String)} (fields : List.Forall₂ (IsField m owner) properties members) :
    List.Forall₂ (IsMarkedField m owner) properties members ↔
      ∀ p ∈ properties, p.required = false := by
  induction fields with
  | nil => simp
  | cons field rest ih => rw [List.forall₂_cons, field.isMarked_iff, ih, List.forall_mem_cons]

theorem paramsText?_isSome (m : Mapper) (method : Method) :
    (paramsText? m method).isSome = true ↔ method.paramsShape ≠ .none := by
  rw [Ne, method.paramsShape_eq_none_iff]
  by_cases nothing : method.parameters = []
  · rw [paramsText?_of_nil m nothing]
    simp [nothing]
  · rw [paramsText?_of_ne_nil m nothing]
    simp [nothing]

theorem paramsText_eq (m : Mapper) (methods : List Method) :
    paramsText m methods = joined "\n" (methods.filterMap (paramsText? m)) := by
  rw [paramsText, renderAll]
  congr 1
  induction methods with
  | nil => rfl
  | cons method rest ih =>
    by_cases nothing : method.parameters = []
    · rw [List.filterMap_cons_none (paramsText?_of_nil m nothing),
        List.filter_cons_of_neg (by simp [nothing]), ih]
    · rw [List.filterMap_cons_some (paramsText?_of_ne_nil m nothing),
        List.filter_cons_of_pos (by simpa using nothing), List.map_cons, List.map_cons, ih]

theorem Method.call_params? (m : Mapper) (method : Method) :
    (method.call m).params? =
      if method.paramsShape = .none then none else some (paramsName method.name) := by
  rw [call]
  cases method.paramsShape <;> rfl

/-- The lines of the interface of a method's params, under the name that its call refers to. -/
def DeclaresParams (m : Mapper) (methods : List Method) (name : String) (lines : List String) :
    Prop :=
  ∃ method ∈ methods, (method.call m).params? = some name ∧
    ∃ members, IsInterface m method.owner name method.parameters members lines

/-- One block after the other, the module of params declares what the calls refer to. -/
theorem params_laidOut (m : Mapper) (methods : List Method) :
    ∃ blocks, methods.filterMap (paramsText? m) = blocks.map laidOut ∧
      List.Forall₂ (DeclaresParams m methods)
        ((methods.map (Method.call m)).filterMap CallType.params?) blocks := by
  induction methods with
  | nil => exact ⟨[], rfl, .nil⟩
  | cons method rest ih =>
    obtain ⟨blocks, texts, declared⟩ := ih
    have behind : List.Forall₂ (DeclaresParams m (method :: rest))
        ((rest.map (Method.call m)).filterMap CallType.params?) blocks := by
      refine declared.imp fun name lines => ?_
      rintro ⟨other, given, own⟩
      exact ⟨other, List.mem_cons_of_mem _ given, own⟩
    have refers := method.call_params? m
    rw [List.map_cons]
    by_cases nothing : method.parameters = []
    · rw [if_pos (method.paramsShape_eq_none_iff.mpr nothing)] at refers
      rw [List.filterMap_cons_none (paramsText?_of_nil m nothing),
        List.filterMap_cons_none refers]
      exact ⟨blocks, texts, behind⟩
    · rw [if_neg (mt method.paramsShape_eq_none_iff.mp nothing)] at refers
      obtain ⟨members, lines, text, isInterface⟩ := paramsText?_laidOut m nothing
      rw [List.filterMap_cons_some text, List.filterMap_cons_some refers, texts]
      refine ⟨lines :: blocks, rfl, .cons ?_ behind⟩
      exact ⟨method, List.mem_cons_self, refers, members, isInterface⟩

/-- The lines of the interface that maps methods to calls; one without members is a single line. -/
def methodsLines (members : List (List String)) : List String :=
  if members.isEmpty then ["export interface APIMethods \x7b\x7d"]
  else "export interface APIMethods \x7b" :: (members.flatten ++ ["\x7d"])

theorem methodsText_laidOut (m : Mapper) (methods : List Method) :
    ∃ members, methodsText m methods = laidOut (methodsLines members) ∧
      List.Forall₂ (fun method => IsMember method.name "" (method.call m).text) methods members := by
  by_cases nothing : methods = []
  · subst nothing
    exact ⟨[], rfl, .nil⟩
  · have docs : ∀ x ∈ methods.map (Method.member m), ∀ line ∈ x.doc, Unbroken line := by
      intro x mem
      obtain ⟨method, _, rfl⟩ := List.mem_map.mp mem
      simp only [Method.member]
      exact Documentation.unbroken_lines _
    obtain ⟨members, each, text⟩ := interfaceText_laidOut methodsInterface
      (fun none => nothing (List.map_eq_nil_iff.mp none)) docs
    have entries : List.Forall₂ (fun method => IsMember method.name "" (method.call m).text) methods
        members := by
      refine (List.forall₂_map_left_iff.mp each).imp fun method lines own => ?_
      rw [← method.signature_eq m]
      exact own
    refine ⟨members, ?_, entries⟩
    have given : members.isEmpty = false := by
      rw [← Bool.not_eq_true, List.isEmpty_iff]
      rintro rfl
      exact nothing (List.forall₂_nil_right_iff.mp entries)
    rw [methodsText, text, methodsLines, if_neg (by simp [given])]
    rfl

def Json.Value.field? (key : String) : Value → Option Value
  | .record members => members.lookup key
  | _ => none

theorem ParamsShape.text_inj {a b : ParamsShape} : a.text = b.text ↔ a = b := by
  cases a <;> cases b <;> decide

/-- The signature, the params interface and the summary of a method tell the same of its params. -/
structure Method.ParamsAgree (m : Mapper) (method : Method) : Prop where
  signed : method.signature m = (method.call m).text
  emitted : (paramsText? m method).isSome = true ↔ TakesParams (method.signature m)
  reported : (paramsText? m method).isSome = true ↔
    method.summary.field? "params" ≠ some (.text "none")
  optional : OmitsParams (method.signature m) ↔
    method.summary.field? "params" = some (.text "optional")
  declared : TakesParams (method.signature m) ↔ ∃ members lines,
    paramsText? m method = some (laidOut lines) ∧
      IsInterface m method.owner (paramsName method.name) method.parameters members lines
  /-- A call that may do without params goes with an interface of members that are all marked. -/
  marked : OmitsParams (method.signature m) ↔ ∃ members lines,
    paramsText? m method = some (laidOut lines) ∧
      IsInterface m method.owner (paramsName method.name) method.parameters members lines ∧
      members ≠ [] ∧ List.Forall₂ (IsMarkedField m method.owner) method.parameters members

theorem Method.paramsAgree (m : Mapper) (method : Method) : method.ParamsAgree m := by
  have field : method.summary.field? "params" = some (.text method.paramsShape.text) := rfl
  have told (shape : ParamsShape) :
      method.summary.field? "params" = some (.text shape.text) ↔ method.paramsShape = shape := by
    rw [field, Option.some_inj, Value.text.injEq, ParamsShape.text_inj]
  constructor
  · exact method.signature_eq m
  · rw [paramsText?_isSome, takesParams_iff]
  · rw [paramsText?_isSome]
    exact (told .none).not.symm
  · rw [omitsParams_iff]
    exact (told .optional).symm
  · rw [takesParams_iff, ← paramsText?_isSome m]
    constructor
    · intro emitted
      refine paramsText?_laidOut m fun nothing => ?_
      simp [paramsText?_of_nil m nothing] at emitted
    · rintro ⟨_, lines, text, _⟩
      simp [text]
  · rw [omitsParams_iff, paramsShape_eq_optional_iff]
    constructor
    · rintro ⟨given, optional⟩
      obtain ⟨members, lines, text, isInterface⟩ := paramsText?_laidOut m given
      refine ⟨members, lines, text, isInterface, ?_, (fields_marked_iff isInterface.1).mpr optional⟩
      rintro rfl
      exact given (List.forall₂_nil_right_iff.mp isInterface.1)
    · rintro ⟨members, _, _, isInterface, some, marked⟩
      refine ⟨?_, (fields_marked_iff isInterface.1).mp marked⟩
      intro nothing
      exact some (List.forall₂_nil_left_iff.mp (nothing ▸ isInterface.1))

/-- Methods and params are written from the same list. A member stands for each method in the one
module, line under line, and the interfaces of the other, block after block, are those that the members
refer to in that order. Each method is taken for the same kind of call wherever it is told. -/
theorem params_agree (m : Mapper) (methods : List Method) :
    (∃ members, methodsText m methods = laidOut (methodsLines members) ∧
      List.Forall₂ (fun method => IsMember method.name "" (method.call m).text) methods members) ∧
      (∃ blocks, paramsText m methods = joined "\n" (blocks.map laidOut) ∧
        List.Forall₂ (DeclaresParams m methods)
          ((methods.map (Method.call m)).filterMap CallType.params?) blocks) ∧
      (∀ s : Schema, s.summary.field? "methods" = some (.list (s.methods.map Method.summary))) ∧
      ∀ method : Method, method.ParamsAgree m := by
  refine ⟨methodsText_laidOut m methods, ?_, fun _ => rfl, Method.paramsAgree m⟩
  obtain ⟨blocks, texts, declared⟩ := params_laidOut m methods
  exact ⟨blocks, by rw [paramsText_eq, texts], declared⟩

end BotTypings
