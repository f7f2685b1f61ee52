import BotTypings.Proofs.Schema.Fields
import BotTypings.Proofs.Schema.RoundTrip
import Mathlib.Data.List.Forall2

/-! Reading from the text as reading from memory. Properties, objects and field types in the text are
read with no more and no less success than their loaded values are, and as the same; a field type that
stands in the text by itself must besides have its tag spelled. -/
namespace BotTypings

open BotTypings.Json

section Loading

variable {room : Nat} {v : Value}

theorem loadMembers_eq_ok_iff {members : List (Key × Node)} {vs : List (String × Value)} :
    loadMembers room members = .ok vs ↔
      List.Forall₂
        (fun member loaded => member.1 = .ok loaded.1 ∧ member.2.load room = .ok loaded.2)
        members vs := by
  induction members generalizing vs with
  | nil => cases vs <;> simp [loadMembers]
  | cons member members ih =>
    obtain ⟨key, n⟩ := member
    simp only [loadMembers, bind_eq_ok, ih]
    constructor
    · rintro ⟨key, decoded, v, first, vs, others, same⟩
      cases same
      exact .cons ⟨decoded, first⟩ others
    · rintro (_ | ⟨⟨decoded, first⟩, others⟩)
      exact ⟨_, decoded, _, first, _, others, rfl⟩

theorem load_list_eq_ok_iff {items : List Node} {ending : ListEnd} :
    (Node.list items ending).load room = .ok v ↔
      ∃ left vs, room = left + 1 ∧ ending = .closed ∧ loadItems left items = .ok vs ∧
        v = .list vs := by
  simp only [Node.load, bind_eq_ok, enter_eq_ok, finishList_eq_ok]
  constructor
  · rintro ⟨left, rfl, vs, loaded, _, ended, same⟩
    cases same
    exact ⟨left, vs, rfl, ended, loaded, rfl⟩
  · rintro ⟨left, vs, rfl, ended, loaded, rfl⟩
    exact ⟨left, rfl, vs, loaded, (), ended, rfl⟩

theorem load_record_eq_ok_iff {members : List (Key × Node)} {ending : Option Break} :
    (Node.record members ending).load room = .ok v ↔
      ∃ left vs, room = left + 1 ∧ ending = none ∧ loadMembers left members = .ok vs ∧
        v = .record vs := by
  simp only [Node.load, bind_eq_ok, enter_eq_ok, finishRecord_eq_ok]
  constructor
  · rintro ⟨left, rfl, vs, loaded, _, ended, same⟩
    cases same
    exact ⟨left, vs, rfl, ended, loaded, rfl⟩
  · rintro ⟨left, vs, rfl, ended, loaded, rfl⟩
    exact ⟨left, rfl, vs, loaded, (), ended, rfl⟩

/-- Only a record is loaded as a record. -/
theorem exists_of_load_record {n : Node} {vs : List (String × Value)}
    (loaded : n.load room = .ok (.record vs)) :
    ∃ members left, n = .record members none ∧ room = left + 1 ∧
      loadMembers left members = .ok vs := by
  cases n with
  | record members ending =>
    obtain ⟨left, _, fits, rfl, inner, same⟩ := load_record_eq_ok_iff.mp loaded
    cases same
    exact ⟨members, left, rfl, fits, inner⟩
  | list items ending =>
    obtain ⟨_, _, _, _, _, impossible⟩ := load_list_eq_ok_iff.mp loaded
    cases impossible
  | number _ =>
    obtain ⟨number, _, impossible⟩ := map_eq_ok.mp loaded
    cases number <;> cases impossible
  | text _ =>
    obtain ⟨_, _, impossible⟩ := map_eq_ok.mp loaded
    cases impossible
  | null | bool _ | broken _ => cases loaded

/-- Only a list is loaded as a list. -/
theorem exists_of_load_list {n : Node} {vs : List Value} (loaded : n.load room = .ok (.list vs)) :
    ∃ items left, n = .list items .closed ∧ room = left + 1 ∧ loadItems left items = .ok vs := by
  cases n with
  | list items ending =>
    obtain ⟨left, _, fits, rfl, inner, same⟩ := load_list_eq_ok_iff.mp loaded
    cases same
    exact ⟨items, left, rfl, fits, inner⟩
  | record members ending =>
    obtain ⟨_, _, _, _, _, impossible⟩ := load_record_eq_ok_iff.mp loaded
    cases impossible
  | number _ =>
    obtain ⟨number, _, impossible⟩ := map_eq_ok.mp loaded
    cases number <;> cases impossible
  | text _ =>
    obtain ⟨_, _, impossible⟩ := map_eq_ok.mp loaded
    cases impossible
  | null | bool _ | broken _ => cases loaded

theorem refuse_ne_ok {α : Type} {n : Node} {wanted : String} {x : α} :
    (n.refuse wanted : Except ReadError α) ≠ .ok x := by
  rw [Node.refuse]
  cases n.found with
  | error _ => nofun
  | ok _ => nofun

end Loading

theorem found_of_load {room : Nat} {n : Node} {v : Value} (loaded : n.load room = .ok v) :
    n.found = .ok v.found := by
  cases n with
  | null | bool _ =>
    cases loaded
    rfl
  | number numeral =>
    obtain ⟨number, given, rfl⟩ := map_eq_ok.mp loaded
    rw [Node.found, given]
    cases number <;> rfl
  | text content =>
    obtain ⟨s, given, rfl⟩ := map_eq_ok.mp loaded
    rw [Node.found, given]
    rfl
  | list items ending =>
    obtain ⟨left, vs, _, _, _, rfl⟩ := load_list_eq_ok_iff.mp loaded
    rfl
  | record members ending =>
    obtain ⟨left, vs, _, _, _, rfl⟩ := load_record_eq_ok_iff.mp loaded
    rfl
  | broken why => cases loaded

/-- A list or a record is found without being looked into; anything else is loaded by finding it. -/
theorem load_of_found {n : Node} {found : Found} (here : n.found = .ok found)
    (noList : found ≠ .list) (noRecord : found ≠ .record) (room : Nat) :
    ∃ v, n.load room = .ok v ∧ v.found = found := by
  cases n with
  | null | bool _ =>
    cases here
    exact ⟨_, rfl, rfl⟩
  | number numeral =>
    obtain ⟨number, given, rfl⟩ := map_eq_ok.mp here
    refine ⟨number.toValue, ?_, ?_⟩
    · rw [Node.load, given]
      rfl
    · cases number <;> rfl
  | text content =>
    obtain ⟨s, given, rfl⟩ := map_eq_ok.mp here
    refine ⟨.text s, ?_, rfl⟩
    rw [Node.load, given]
    rfl
  | list items ending =>
    cases here
    exact absurd rfl noList
  | record members ending =>
    cases here
    exact absurd rfl noRecord
  | broken why => cases here

theorem scalar_eq_ok_iff {α : Type} {read : Found → Except Mismatch α} (only : OnlyScalars read)
    {n : Node} {x : α} (room : Nat) :
    n.scalar read = .ok x ↔ ∃ v, n.load room = .ok v ∧ v.scalar read = .ok x := by
  simp only [Node.scalar, bind_eq_ok, faulty_eq_ok, mismatched_eq_ok]
  constructor
  · rintro ⟨found, here, given⟩
    obtain ⟨v, loaded, rfl⟩ := load_of_found here
      (by rintro rfl; exact only.list x given) (by rintro rfl; exact only.record x given) room
    exact ⟨v, loaded, given⟩
  · rintro ⟨v, loaded, given⟩
    exact ⟨v.found, found_of_load loaded, given⟩

section Sources

variable {α δ : Type} {room : Nat} {n : Node} {result : δ}

/-- An own member is read from the text as its loaded value is read from memory. -/
theorem own_eq_ok_iff {read : Found → Except Mismatch α} (only : OnlyScalars read) {name : String}
    {current : Option α} {set : Option α → δ} :
    ((textSource room).own name current read n).map set = .ok result ↔
      ∃ v, n.load room = .ok v ∧
        (memorySource.own name current read v).map set = .ok result := by
  cases current with
  | some _ => exact ⟨nofun, fun ⟨_, _, impossible⟩ => nomatch impossible⟩
  | none =>
    have inText : (textSource room).own name none read n = (n.scalar read).map some := by
      change (faulty n.found >>= fun found => mismatched (read found) >>= fun x => pure (some x)) =
        (faulty n.found >>= fun found => mismatched (read found)).map some
      cases n.found with
      | error _ => rfl
      | ok found =>
        change (mismatched (read found) >>= fun x => pure (some x)) =
          (mismatched (read found)).map some
        cases read found <;> rfl
    simp only [inText, memorySource_own, once, map_eq_ok, scalar_eq_ok_iff only room]
    constructor
    · rintro ⟨_, ⟨x, ⟨v, loaded, given⟩, rfl⟩, done⟩
      exact ⟨v, loaded, _, ⟨x, given, rfl⟩, done⟩
    · rintro ⟨v, loaded, _, ⟨x, given, rfl⟩, done⟩
      exact ⟨_, ⟨x, ⟨v, loaded, given⟩, rfl⟩, done⟩

theorem hold_eq_ok_iff {set : Value → δ} :
    ((textSource room).hold n).map set = .ok result ↔
      ∃ v, n.load room = .ok v ∧ (memorySource.hold v).map set = .ok result := by
  change (faulty (n.load room)).map set = .ok result ↔
    ∃ v, n.load room = .ok v ∧ (Except.ok v : Except Mismatch Value).map set = .ok result
  simp only [map_eq_ok, faulty_eq_ok, Except.ok.injEq, exists_eq_left']

end Sources

theorem PropertyDraft.add_eq_ok_iff {room : Nat} {d e : PropertyDraft} {key : String} {n : Node} :
    d.add (textSource room) key n = .ok e ↔
      ∃ v, n.load room = .ok v ∧ d.add memorySource key v = .ok e := by
  unfold PropertyDraft.add
  by_cases first : key = "name"
  · simp only [if_pos first]
    exact own_eq_ok_iff asText_onlyScalars
  by_cases second : key = "description"
  · simp only [if_neg first, if_pos second]
    exact own_eq_ok_iff asText_onlyScalars
  by_cases third : key = "required"
  · simp only [if_neg first, if_neg second, if_pos third]
    exact own_eq_ok_iff asBool_onlyScalars
  · simp only [if_neg first, if_neg second, if_neg third]
    exact hold_eq_ok_iff

theorem ObjectDraft.add_eq_ok_iff {room : Nat} {d e : ObjectDraft} {key : String} {n : Node} :
    d.add (textSource room) key n = .ok e ↔
      ∃ v, n.load room = .ok v ∧ d.add memorySource key v = .ok e := by
  unfold ObjectDraft.add
  by_cases first : key = "name"
  · simp only [if_pos first]
    exact own_eq_ok_iff asText_onlyScalars
  by_cases second : key = "description"
  · simp only [if_neg first, if_pos second]
    exact own_eq_ok_iff asText_onlyScalars
  by_cases third : key = "documentation_link"
  · simp only [if_neg first, if_neg second, if_pos third]
    exact own_eq_ok_iff asText_onlyScalars
  · simp only [if_neg first, if_neg second, if_neg third]
    exact hold_eq_ok_iff

/-- Members are added to a draft from the text as they are from memory, if each of them is. -/
theorem addAll_eq_ok_iff {δ : Type} {room : Nat}
    (addText : δ → String → Node → Except ReadError δ)
    (addLoaded : δ → String → Value → Except Mismatch δ)
    (each : ∀ {d e key n}, addText d key n = .ok e ↔
      ∃ v, n.load room = .ok v ∧ addLoaded d key v = .ok e)
    (ofNodes : δ → List (Key × Node) → Except ReadError δ)
    (ofMembers : δ → List (String × Value) → Except Mismatch δ)
    (nodes_nil : ∀ d, ofNodes d [] = .ok d) (members_nil : ∀ d, ofMembers d [] = .ok d)
    (nodes_cons : ∀ d key n rest, ofNodes d ((key, n) :: rest) =
      faulty key >>= fun key => addText d key n >>= fun e => ofNodes e rest)
    (members_cons : ∀ d key v rest, ofMembers d ((key, v) :: rest) =
      addLoaded d key v >>= fun e => ofMembers e rest)
    {d e : δ} {members : List (Key × Node)} :
    ofNodes d members = .ok e ↔
      ∃ vs, loadMembers room members = .ok vs ∧ ofMembers d vs = .ok e := by
  induction members generalizing d with
  | nil => simp [nodes_nil, members_nil, loadMembers]
  | cons member rest ih =>
    obtain ⟨key, n⟩ := member
    simp only [nodes_cons, loadMembers, bind_eq_ok, faulty_eq_ok, each, ih]
    constructor
    · rintro ⟨key, decoded, next, ⟨v, loaded, added⟩, vs, others, done⟩
      refine ⟨(key, v) :: vs, ⟨key, decoded, v, loaded, vs, others, rfl⟩, ?_⟩
      rw [members_cons, added]
      exact done
    · rintro ⟨_, ⟨key, decoded, v, loaded, vs, others, same⟩, done⟩
      cases same
      rw [members_cons] at done
      obtain ⟨next, added, done⟩ := bind_eq_ok.mp done
      exact ⟨key, decoded, next, ⟨v, loaded, added⟩, vs, others, done⟩

theorem PropertyDraft.ofNodes_eq_ok_iff {room : Nat} {d e : PropertyDraft}
    {members : List (Key × Node)} :
    d.ofNodes room members = .ok e ↔
      ∃ vs, loadMembers room members = .ok vs ∧ d.ofMembers vs = .ok e :=
  addAll_eq_ok_iff (PropertyDraft.add (textSource room)) (PropertyDraft.add memorySource)
    PropertyDraft.add_eq_ok_iff (PropertyDraft.ofNodes room)
    PropertyDraft.ofMembers (fun _ => rfl) (fun _ => rfl) (fun _ _ _ _ => rfl) (fun _ _ _ _ => rfl)

theorem ObjectDraft.ofNodes_eq_ok_iff {room : Nat} {d e : ObjectDraft}
    {members : List (Key × Node)} :
    d.ofNodes room members = .ok e ↔
      ∃ vs, loadMembers room members = .ok vs ∧ d.ofMembers vs = .ok e :=
  addAll_eq_ok_iff (ObjectDraft.add (textSource room)) (ObjectDraft.add memorySource)
    ObjectDraft.add_eq_ok_iff (ObjectDraft.ofNodes room)
    ObjectDraft.ofMembers (fun _ => rfl) (fun _ => rfl) (fun _ _ _ _ => rfl) (fun _ _ _ _ => rfl)

theorem PropertyDraft.finish_eq_ok_iff {room : Nat} {d : PropertyDraft} {p : Property} :
    d.finish (textSource room) = .ok p ↔ d.finish memorySource = .ok p := by
  rw [finish_text, mismatched_eq_ok]

theorem ObjectDraft.finish_eq_ok_iff {room : Nat} {d : ObjectDraft} {o : Object} :
    d.finish (textSource room) = .ok o ↔ d.finish memorySource = .ok o := by
  obtain ⟨_ | name, description, link, others⟩ := d
  · exact ⟨nofun, nofun⟩
  · simp only [ObjectDraft.finish, Source.required, bind_eq_ok, mapError_eq_ok, pure, Except.pure,
      Except.ok.injEq, exists_eq_left']

/-- Two readers that accept records only agree if they agree on a record and its loaded members. -/
theorem record_eq_ok_iff {β : Type} {room : Nat} {read : Node → Except ReadError β}
    {readLoaded : Value → Except Mismatch β}
    (only : ∀ n x, read n = .ok x → ∃ members ending, n = .record members ending)
    (onlyLoaded : ∀ v x, readLoaded v = .ok x → ∃ vs, v = .record vs)
    (record : ∀ members ending x, read (.record members ending) = .ok x ↔
      ∃ left vs, room = left + 1 ∧ ending = none ∧ loadMembers left members = .ok vs ∧
        readLoaded (.record vs) = .ok x) {n : Node} {x : β} :
    read n = .ok x ↔ ∃ v, n.load room = .ok v ∧ readLoaded v = .ok x := by
  constructor
  · intro given
    obtain ⟨members, ending, rfl⟩ := only n x given
    obtain ⟨left, vs, fits, ended, loaded, same⟩ := (record members ending x).mp given
    exact ⟨_, load_record_eq_ok_iff.mpr ⟨left, vs, fits, ended, loaded, rfl⟩, same⟩
  · rintro ⟨v, loaded, given⟩
    obtain ⟨vs, rfl⟩ := onlyLoaded v x given
    obtain ⟨members, left, rfl, fits, inner⟩ := exists_of_load_record loaded
    exact (record members none x).mpr ⟨left, vs, fits, rfl, inner, given⟩

/-- A property is read from the text as from memory. -/
theorem Property.ofNode_eq_ok_iff {room : Nat} {n : Node} {p : Property} :
    Property.ofNode room n = .ok p ↔
      ∃ v, n.load room = .ok v ∧ Property.ofValue v = .ok p := by
  refine record_eq_ok_iff ?_ ?_ ?_
  · intro n p read
    cases n with
    | record members ending => exact ⟨members, ending, rfl⟩
    | _ => exact absurd read refuse_ne_ok
  · intro v p read
    cases v with
    | record vs => exact ⟨vs, rfl⟩
    | _ => cases read
  · intro members ending p
    simp only [Property.ofNode, Property.ofValue, bind_eq_ok, faulty_eq_ok, enter_eq_ok,
      finishRecord_eq_ok, PropertyDraft.ofNodes_eq_ok_iff, PropertyDraft.finish_eq_ok_iff]
    constructor
    · rintro ⟨left, fits, d, ⟨vs, loaded, added⟩, _, ended, done⟩
      exact ⟨left, vs, fits, ended, loaded, d, added, done⟩
    · rintro ⟨left, vs, fits, ended, loaded, d, added, done⟩
      exact ⟨left, fits, d, ⟨vs, loaded, added⟩, (), ended, done⟩

/-- An object is read from the text as from memory. -/
theorem Object.ofNode_eq_ok_iff {room : Nat} {n : Node} {o : Object} :
    Object.ofNode room n = .ok o ↔ ∃ v, n.load room = .ok v ∧ Object.ofValue v = .ok o := by
  refine record_eq_ok_iff ?_ ?_ ?_
  · intro n o read
    cases n with
    | record members ending => exact ⟨members, ending, rfl⟩
    | _ => exact absurd read refuse_ne_ok
  · intro v o read
    cases v with
    | record vs => exact ⟨vs, rfl⟩
    | _ => cases read
  · intro members ending o
    simp only [Object.ofNode, Object.ofValue, bind_eq_ok, faulty_eq_ok, enter_eq_ok,
      finishRecord_eq_ok, ObjectDraft.ofNodes_eq_ok_iff, ObjectDraft.finish_eq_ok_iff]
    constructor
    · rintro ⟨left, fits, d, ⟨vs, loaded, added⟩, _, ended, done⟩
      exact ⟨left, vs, fits, ended, loaded, d, added, done⟩
    · rintro ⟨left, vs, fits, ended, loaded, d, added, done⟩
      exact ⟨left, fits, d, ⟨vs, loaded, added⟩, (), ended, done⟩

theorem readAll_eq_mapM {α : Type} (read : Node → Except ReadError α) (items : List Node) :
    readAll read items = items.mapM read := by
  induction items with
  | nil => rfl
  | cons n rest ih => rw [readAll, List.mapM_cons, ih]

theorem readList_eq_ok_iff {α : Type} {room : Nat} {read : Nat → Node → Except ReadError α}
    {n : Node} {xs : List α} :
    readList room read n = .ok xs ↔
      ∃ left items, room = left + 1 ∧ n = .list items .closed ∧ items.mapM (read left) = .ok xs := by
  cases n with
  | list items ending =>
    simp only [readList, bind_eq_ok, faulty_eq_ok, enter_eq_ok, finishList_eq_ok, readAll_eq_mapM,
      Node.list.injEq]
    constructor
    · rintro ⟨left, fits, _, given, _, ended, same⟩
      cases same
      exact ⟨left, items, fits, ⟨rfl, ended⟩, given⟩
    · rintro ⟨left, _, fits, ⟨rfl, ended⟩, given⟩
      exact ⟨left, fits, xs, given, (), ended, rfl⟩
  | _ =>
    constructor
    · exact fun read => absurd read refuse_ne_ok
    · rintro ⟨_, _, _, impossible, _⟩
      cases impossible

theorem Json.Value.each_eq_ok_iff {α : Type} {read : Value → Except Mismatch α} {v : Value}
    {xs : List α} :
    v.each read = .ok xs ↔ ∃ vs, v = .list vs ∧ vs.mapM read = .ok xs := by
  cases v <;> simp [Value.each, Value.items, bind, Except.bind]

/-- A list of what is read from the text as from memory is itself read so. -/
theorem readList_loaded {α : Type} {room : Nat} {read : Nat → Node → Except ReadError α}
    {readLoaded : Value → Except Mismatch α}
    (item : ∀ {room n x}, read room n = .ok x ↔
      ∃ v, n.load room = .ok v ∧ readLoaded v = .ok x) {n : Node} {xs : List α} :
    readList room read n = .ok xs ↔ ∃ v, n.load room = .ok v ∧ v.each readLoaded = .ok xs := by
  have items (left : Nat) (ns : List Node) (xs : List α) :
      ns.mapM (read left) = .ok xs ↔
        ∃ vs, loadItems left ns = .ok vs ∧ vs.mapM readLoaded = .ok xs := by
    induction ns generalizing xs with
    | nil => simp [loadItems, pure, Except.pure]
    | cons n rest ih =>
      simp only [mapM_cons_eq_ok, loadItems, bind_eq_ok, item, ih]
      constructor
      · rintro ⟨x, xs, ⟨v, loaded, given⟩, ⟨vs, others, rest⟩, rfl⟩
        exact ⟨v :: vs, ⟨v, loaded, vs, others, rfl⟩, mapM_cons_eq_ok.mpr ⟨x, xs, given, rest, rfl⟩⟩
      · rintro ⟨_, ⟨v, loaded, vs, others, same⟩, read⟩
        cases same
        obtain ⟨x, xs, given, rest, rfl⟩ := mapM_cons_eq_ok.mp read
        exact ⟨x, xs, ⟨v, loaded, given⟩, ⟨vs, others, rest⟩, rfl⟩
  simp only [readList_eq_ok_iff, Value.each_eq_ok_iff, items]
  constructor
  · rintro ⟨left, ns, rfl, rfl, vs, loaded, given⟩
    exact ⟨_, load_list_eq_ok_iff.mpr ⟨left, vs, rfl, rfl, loaded, rfl⟩, vs, rfl, given⟩
  · rintro ⟨_, loaded, vs, rfl, given⟩
    obtain ⟨ns, left, rfl, rfl, inner⟩ := exists_of_load_list loaded
    exact ⟨left, ns, rfl, rfl, vs, inner, given⟩

/-- The tag is spelled and not counted. -/
def Json.Value.Spelled : Value → Prop
  | .record members => ∀ member ∈ members, member.1 = "type" → ∃ s, member.2 = .text s
  | .list (tag :: _) => ∃ s, tag = .text s
  | _ => True

namespace FieldType

theorem tag_spelled {v : Value} {tag : FieldTag} :
    v.scalar fieldTags.ofFound = .ok tag ↔ (∃ s, v = .text s) ∧ fieldTags.ofValue v = .ok tag := by
  cases v with
  | text s => simp [Value.scalar, Value.found, Tagging.ofFound, Tagging.ofValue]
  | _ => simp [Value.scalar, Value.found, Tagging.ofFound]

theorem membersOfNodes_eq_ok_iff {room : Nat} {members : List (Key × Node)}
    {tag found : Option FieldTag} {others result : List (String × Value)} :
    membersOfNodes room tag others members = .ok (found, result) ↔
      ∃ vs, loadMembers room members = .ok vs ∧
        held tag ++ given (· == "type") (Value.scalar fieldTags.ofFound) vs = held found ∧
        result = others ++ vs.filter fun member => member.1 != "type" := by
  induction members generalizing tag others with
  | nil => simp [membersOfNodes, loadMembers, given_nil, held_inj, eq_comm]
  | cons member rest ih =>
    obtain ⟨key, n⟩ := member
    simp only [membersOfNodes, loadMembers, bind_eq_ok, faulty_eq_ok]
    constructor
    · rintro ⟨key, rfl, read⟩
      by_cases own : key = "type"
      · subst own
        cases tag with
        | some _ => cases read
        | none =>
          obtain ⟨t, here, read⟩ := bind_eq_ok.mp read
          obtain ⟨v, loaded, spelled⟩ :=
            (scalar_eq_ok_iff (ofFound_onlyScalars fieldTags) room).mp here
          obtain ⟨vs, behind, tagged, rfl⟩ := ih.mp read
          refine ⟨("type", v) :: vs, ⟨"type", rfl, v, loaded, vs, behind, rfl⟩, ?_, ?_⟩
          · rw [given_cons, if_pos (beq_self_eq_true "type"), spelled]
            exact tagged
          · rfl
      · rw [if_neg own] at read
        obtain ⟨v, loaded, read⟩ := bind_eq_ok.mp read
        obtain ⟨vs, behind, tagged, rfl⟩ := ih.mp read
        refine ⟨(key, v) :: vs, ⟨key, rfl, v, faulty_eq_ok.mp loaded, vs, behind, rfl⟩, ?_, ?_⟩
        · rw [given_cons, if_neg (by simpa using own)]
          exact tagged
        · rw [List.filter_cons_of_pos (by simpa using own), List.append_assoc]
          rfl
    · rintro ⟨_, ⟨key, rfl, v, loaded, vs, behind, same⟩, tagged, rfl⟩
      cases same
      refine ⟨key, rfl, ?_⟩
      rw [given_cons] at tagged
      by_cases own : key = "type"
      · subst own
        rw [if_pos (beq_self_eq_true "type"), held_append_cons] at tagged
        obtain ⟨rfl, t, spelled, tagged⟩ := tagged
        exact bind_eq_ok.mpr ⟨t, (scalar_eq_ok_iff (ofFound_onlyScalars fieldTags) room).mpr
          ⟨v, loaded, spelled⟩, ih.mpr ⟨vs, behind, tagged, rfl⟩⟩
      · rw [if_neg (by simpa using own)] at tagged
        rw [if_neg own]
        refine bind_eq_ok.mpr ⟨v, faulty_eq_ok.mpr loaded, ih.mpr ⟨vs, behind, tagged, ?_⟩⟩
        rw [List.filter_cons_of_pos (by simpa using own), List.append_assoc]
        rfl

/-- No field type has an attribute named like its tag. -/
theorem ofMembers_withoutTag {tag : FieldTag} {members : List (String × Value)} {t : FieldType} :
    ofMembers tag (members.filter fun member => member.1 != "type") = .ok t ↔
      ofMembers tag members = .ok t := by
  have kept (name : String) (apart : name ≠ "type") {α : Type} (read : Value → Except Mismatch α) :
      given (· == name) read (members.filter fun member => member.1 != "type") =
        given (· == name) read members := by
    refine given_filter_own _ (· != "type") read members fun key own => ?_
    rw [beq_iff_eq.mp own]
    simpa using apart
  cases tag <;>
    simp [ofMembers, integerOfMembers_eq_ok_iff, floatOfMembers_eq_ok_iff,
      stringOfMembers_eq_ok_iff, boolOfMembers_eq_ok_iff, referenceOfMembers_eq_ok_iff,
      arrayOfMembers_eq_ok_iff, anyOfOfMembers_eq_ok_iff, kept]

theorem ofValue_record_eq_ok_iff {members : List (String × Value)} {t : FieldType} :
    ofValue (.record members) = .ok t ↔
      ∃ tag, given (· == "type") fieldTags.ofValue members = held (some tag) ∧
        ofMembers tag members = .ok t := by
  simp only [ofValue_record, bind_eq_ok, Tagging.search_eq_ok_iff]

theorem ofValue_list_eq_ok_iff {v : Value} {items : List Value} {t : FieldType} :
    ofValue (.list (v :: items)) = .ok t ↔
      ∃ tag, fieldTags.ofValue v = .ok tag ∧ ofItems tag items = .ok t := by
  rw [ofValue]
  cases fieldTags.ofValue v with
  | error _ => simp [bind, Except.bind]
  | ok tag => cases tag <;> simp [bind, Except.bind, ofItems]

theorem given_spelled_iff {members : List (String × Value)} {tag : FieldTag} :
    given (· == "type") (Value.scalar fieldTags.ofFound) members = held (some tag) ↔
      (Value.record members).Spelled ∧
        given (· == "type") fieldTags.ofValue members = held (some tag) := by
  rw [given_eq_held_some, given_eq_held_some]
  constructor
  · rintro ⟨member, only, read⟩
    obtain ⟨spelled, tagged⟩ := tag_spelled.mp read
    refine ⟨fun other mem own => ?_, member, only, tagged⟩
    have found : other ∈ members.filter fun member => member.1 == "type" :=
      List.mem_filter.mpr ⟨mem, beq_iff_eq.mpr own⟩
    rw [only, List.mem_singleton] at found
    rw [found]
    exact spelled
  · rintro ⟨spelled, member, only, tagged⟩
    have found : member ∈ members.filter fun member => member.1 == "type" := by
      rw [only]
      exact List.mem_singleton_self member
    obtain ⟨mem, own⟩ := List.mem_filter.mp found
    exact ⟨member, only, tag_spelled.mpr ⟨spelled member mem (beq_iff_eq.mp own), tagged⟩⟩

/-- A field type is read from the text as from memory, if its tag is spelled. -/
theorem ofNode_eq_ok_iff {room : Nat} {n : Node} {t : FieldType} :
    FieldType.ofNode room n = .ok t ↔
      ∃ v, n.load room = .ok v ∧ v.Spelled ∧ ofValue v = .ok t := by
  cases n with
  | record members ending =>
    simp only [FieldType.ofNode, bind_eq_ok, faulty_eq_ok, enter_eq_ok, finishRecord_eq_ok,
      Prod.exists, membersOfNodes_eq_ok_iff, load_record_eq_ok_iff]
    constructor
    · rintro ⟨left, fits, tag, others, ⟨vs, loaded, tagged, rfl⟩, _, ended, read⟩
      cases tag with
      | none => cases read
      | some tag =>
        obtain ⟨spelled, counted⟩ := given_spelled_iff.mp tagged
        exact ⟨_, ⟨left, vs, fits, ended, loaded, rfl⟩, spelled, ofValue_record_eq_ok_iff.mpr
          ⟨tag, counted, ofMembers_withoutTag.mp (mismatched_eq_ok.mp read)⟩⟩
    · rintro ⟨_, ⟨left, vs, fits, ended, loaded, rfl⟩, spelled, read⟩
      obtain ⟨tag, counted, read⟩ := ofValue_record_eq_ok_iff.mp read
      exact ⟨left, fits, some tag, _, ⟨vs, loaded, given_spelled_iff.mpr ⟨spelled, counted⟩, rfl⟩,
        (), ended, mismatched_eq_ok.mpr (ofMembers_withoutTag.mpr read)⟩
  | list items ending =>
    simp only [FieldType.ofNode, bind_eq_ok, faulty_eq_ok, enter_eq_ok, load_list_eq_ok_iff]
    constructor
    · rintro ⟨left, fits, read⟩
      cases items with
      | nil =>
        obtain ⟨_, _, impossible⟩ := bind_eq_ok.mp read
        cases impossible
      | cons n rest =>
        simp only [bind_eq_ok, faulty_eq_ok, finishList_eq_ok, mismatched_eq_ok] at read
        obtain ⟨tag, here, vs, loaded, _, ended, read⟩ := read
        obtain ⟨v, first, spelled⟩ :=
          (scalar_eq_ok_iff (ofFound_onlyScalars fieldTags) left).mp here
        obtain ⟨word, counted⟩ := tag_spelled.mp spelled
        have all : loadItems left (n :: rest) = .ok (v :: vs) := by
          rw [loadItems, first, loaded]
          rfl
        exact ⟨_, ⟨left, v :: vs, fits, ended, all, rfl⟩, word,
          ofValue_list_eq_ok_iff.mpr ⟨tag, counted, read⟩⟩
    · rintro ⟨_, ⟨left, vs, fits, ended, loaded, rfl⟩, word, read⟩
      refine ⟨left, fits, ?_⟩
      cases items with
      | nil =>
        cases loaded
        cases read
      | cons n rest =>
        simp only [loadItems, bind_eq_ok] at loaded
        obtain ⟨v, first, vs, loaded, same⟩ := loaded
        cases same
        obtain ⟨tag, counted, read⟩ := ofValue_list_eq_ok_iff.mp read
        simp only [bind_eq_ok, faulty_eq_ok, finishList_eq_ok, mismatched_eq_ok]
        exact ⟨tag, (scalar_eq_ok_iff (ofFound_onlyScalars fieldTags) left).mpr
          ⟨v, first, tag_spelled.mpr ⟨word, counted⟩⟩, vs, loaded, (), ended, read⟩
  | _ =>
    constructor
    · exact fun read => absurd read refuse_ne_ok
    · rintro ⟨v, loaded, _, read⟩
      cases v with
      | record vs =>
        obtain ⟨_, _, impossible, _⟩ := exists_of_load_record loaded
        cases impossible
      | list vs =>
        obtain ⟨_, _, impossible, _⟩ := exists_of_load_list loaded
        cases impossible
      | _ => cases read

end FieldType

end BotTypings
