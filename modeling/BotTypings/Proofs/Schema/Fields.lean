import BotTypings.Proofs.Schema.Members
import BotTypings.Schema.Reading

/-! Records and lists of fields that stand in the text. A record is accepted by what is given under
its names, as one in memory is, and besides by its other members, which must be sound; a list is
accepted by its items in their declared order. -/
namespace BotTypings

open BotTypings.Json

/-- The key spells one of the names. -/
def named (names : List String) : Key → Bool
  | .ok key => names.contains key
  | .error _ => false

/-- A member that a record of the given names can have: its key can be read, and its content is
sound if it is not one of them. -/
def Passes (names : List String) (member : Key × Node) : Prop :=
  ∃ key, member.1 = .ok key ∧ (key ∉ names → member.2.skip = .ok ())

section

variable {α δ : Type}

theorem exists_ownMember_eq_ok {name : String} {found : Option α} {r : Except ReadError α}
    {Next : Option α → Prop} :
    (∃ next, ownMember name found (fun _ => r) = .ok next ∧ Next next) ↔
      found = none ∧ ∃ x, r = .ok x ∧ Next (some x) := by
  cases found with
  | none => cases r <;> simp [ownMember, Except.map]
  | some _ => simp [ownMember]

theorem faulty_eq_ok {x : Except Fault α} {y : α} : faulty x = .ok y ↔ x = .ok y := mapError_eq_ok

theorem mismatched_eq_ok {x : Except Mismatch α} {y : α} : mismatched x = .ok y ↔ x = .ok y :=
  mapError_eq_ok

theorem requiredMember_eq_ok {name : String} {found : Option α} {x : α} :
    requiredMember name found = .ok x ↔ found = some x := by
  cases found <;> simp [requiredMember]

end

theorem enter_eq_ok {room left : Nat} : enter room = .ok left ↔ room = left + 1 := by
  cases room <;> simp [enter]

theorem finishRecord_eq_ok {ending : Option Break} {done : Unit} :
    finishRecord ending = .ok done ↔ ending = none := by
  cases ending <;> simp [finishRecord]

theorem finishList_eq_ok {ending : ListEnd} {done : Unit} :
    finishList ending = .ok done ↔ ending = .closed := by
  cases ending <;> simp [finishList, ListEnd.break?]

theorem positional_eq_ok {α : Type} {index : Nat} {wanted : String} {found : Option α} {x : α} :
    positional index wanted found = .ok x ↔ found = some x := by
  cases found <;> simp [positional]

section Fields

variable {α : Type} {items : List Node} {ending : ListEnd} {read : Node → Except ReadError α}

/-- A field that may be missing from the end of the list. -/
theorem exists_next_eq_ok {Next : Option α → Fields → Prop} :
    (∃ found left, Fields.next ⟨items, ending⟩ read = .ok (found, left) ∧ Next found left) ↔
      (items = [] ∧ ending = .closed ∧ Next none ⟨[], .closed⟩) ∨
        ∃ n rest x, items = n :: rest ∧ read n = .ok x ∧ Next (some x) ⟨rest, ending⟩ := by
  cases items with
  | nil =>
    simp only [Fields.next, bind_eq_ok, faulty_eq_ok, finishList_eq_ok]
    constructor
    · rintro ⟨_, _, ⟨_, rfl, same⟩, next⟩
      cases same
      exact .inl ⟨trivial, rfl, next⟩
    · rintro (⟨_, ended, next⟩ | ⟨_, _, _, impossible, _⟩)
      · subst ended
        exact ⟨none, ⟨[], .closed⟩, ⟨(), rfl, rfl⟩, next⟩
      · cases impossible
  | cons n rest =>
    simp only [Fields.next, map_eq_ok]
    constructor
    · rintro ⟨_, _, ⟨x, given, same⟩, next⟩
      cases same
      exact .inr ⟨n, rest, x, rfl, given, next⟩
    · rintro (⟨impossible, _⟩ | ⟨_, _, x, same, given, next⟩)
      · cases impossible
      · cases same
        exact ⟨_, _, ⟨x, given, rfl⟩, next⟩

/-- A field that must be there. -/
theorem exists_positional_eq_ok {index : Nat} {wanted : String} {Next : α → Fields → Prop} :
    (∃ found left, Fields.next ⟨items, ending⟩ read = .ok (found, left) ∧
      ∃ x, positional index wanted found = .ok x ∧ Next x left) ↔
      ∃ n rest x, items = n :: rest ∧ read n = .ok x ∧ Next x ⟨rest, ending⟩ := by
  rw [exists_next_eq_ok]
  simp [positional_eq_ok]

theorem finish_eq_ok {done : Unit} :
    Fields.finish ⟨items, ending⟩ = .ok done ↔ items = [] ∧ ending = .closed := by
  cases items <;> cases ending <;> simp [Fields.finish]

end Fields

section Triples

variable {names : TripleNames}

theorem TripleDraft.ofNodes_eq_ok_iff (second_new : names.second ≠ names.first)
    (third_new : names.third ≠ names.first) (third_other : names.third ≠ names.second)
    (members : List (Key × Node)) (d e : TripleDraft) :
    ofNodes names d members = .ok e ↔
      (∀ member ∈ members, Passes [names.first, names.second, names.third] member) ∧
      held d.first ++ given (named [names.first]) (Node.scalar Found.asUInt32) members =
        held e.first ∧
      held d.second ++ given (named [names.second]) (Node.scalar Found.asUInt32) members =
        held e.second ∧
      held d.third ++ given (named [names.third]) (Node.scalar Found.asUInt32) members =
        held e.third := by
  induction members generalizing d with
  | nil =>
    cases d; cases e
    simp [ofNodes, given_nil, held_inj]
  | cons member rest ih =>
    obtain ⟨key, n⟩ := member
    cases key with
    | error f =>
      simp [ofNodes, Passes, bind_eq_ok, faulty_eq_ok]
    | ok key =>
      simp only [ofNodes, bind_eq_ok, faulty_eq_ok, given_cons, List.forall_mem_cons]
      by_cases first : key = names.first
      · subst first
        simp [bind_eq_ok, ih, exists_ownMember_eq_ok, held_append_cons, named, Passes,
          second_new.symm, third_new.symm]
        grind
      by_cases second : key = names.second
      · subst second
        simp [bind_eq_ok, ih, exists_ownMember_eq_ok, held_append_cons, named, Passes,
          second_new, third_other.symm]
        grind
      by_cases third : key = names.third
      · subst third
        simp [bind_eq_ok, ih, exists_ownMember_eq_ok, held_append_cons, named, Passes,
          third_new, third_other]
        grind
      · simp [first, second, third, bind_eq_ok, ih, faulty_eq_ok, named, Passes]
        grind

end Triples

theorem MethodDraft.ofNodes_eq_ok_iff (room : Nat) (members : List (Key × Node))
    (d e : MethodDraft) :
    ofNodes room d members = .ok e ↔
      (∀ member ∈ members, Passes ["name", "description", "documentation_link", "parameters",
        "arguments", "returns", "return_type"] member) ∧
      held d.name ++ given (named ["name"]) (Node.scalar Found.asText) members = held e.name ∧
      held d.description ++ given (named ["description"]) (Node.scalar Found.asText) members =
        held e.description ∧
      held d.documentationLink ++
        given (named ["documentation_link"]) (Node.scalar Found.asText) members =
          held e.documentationLink ∧
      held d.parameters ++
        given (named ["parameters", "arguments"]) (readList room Property.ofNode) members =
          held e.parameters ∧
      held d.returns ++ given (named ["returns", "return_type"]) (FieldType.ofNode room) members =
        held e.returns := by
  induction members generalizing d with
  | nil =>
    cases d; cases e
    simp [ofNodes, given_nil, held_inj]
  | cons member rest ih =>
    obtain ⟨key, n⟩ := member
    cases key with
    | error f =>
      simp [ofNodes, Passes, bind_eq_ok, faulty_eq_ok]
    | ok key =>
      simp only [ofNodes, bind_eq_ok, faulty_eq_ok, given_cons, List.forall_mem_cons]
      by_cases first : key = "name"
      · subst first
        simp [bind_eq_ok, ih, exists_ownMember_eq_ok, held_append_cons, named, Passes]
        grind
      by_cases second : key = "description"
      · subst second
        simp [bind_eq_ok, ih, exists_ownMember_eq_ok, held_append_cons, named, Passes]
        grind
      by_cases third : key = "documentation_link"
      · subst third
        simp [bind_eq_ok, ih, exists_ownMember_eq_ok, held_append_cons, named, Passes]
        grind
      by_cases fourth : key = "parameters" ∨ key = "arguments"
      · rcases fourth with rfl | rfl <;>
          (simp [bind_eq_ok, ih, exists_ownMember_eq_ok, held_append_cons, named, Passes]; grind)
      by_cases fifth : key = "returns" ∨ key = "return_type"
      · rcases fifth with rfl | rfl <;>
          (simp [bind_eq_ok, ih, exists_ownMember_eq_ok, held_append_cons, named, Passes]; grind)
      · simp [first, second, third, fourth, fifth, bind_eq_ok, ih, faulty_eq_ok, named, Passes]
        grind

theorem SchemaDraft.ofNodes_eq_ok_iff (room : Nat) (members : List (Key × Node))
    (d e : SchemaDraft) :
    ofNodes room d members = .ok e ↔
      (∀ member ∈ members, Passes ["version", "recent_changes", "methods", "objects"] member) ∧
      held d.version ++ given (named ["version"]) (Version.ofNode room) members = held e.version ∧
      held d.released ++ given (named ["recent_changes"]) (ReleaseDate.ofNode room) members =
        held e.released ∧
      held d.methods ++ given (named ["methods"]) (readList room Method.ofNode) members =
        held e.methods ∧
      held d.objects ++ given (named ["objects"]) (readList room Object.ofNode) members =
        held e.objects := by
  induction members generalizing d with
  | nil =>
    cases d; cases e
    simp [ofNodes, given_nil, held_inj]
  | cons member rest ih =>
    obtain ⟨key, n⟩ := member
    cases key with
    | error f =>
      simp [ofNodes, Passes, bind_eq_ok, faulty_eq_ok]
    | ok key =>
      simp only [ofNodes, bind_eq_ok, faulty_eq_ok, given_cons, List.forall_mem_cons]
      by_cases first : key = "version"
      · subst first
        simp [bind_eq_ok, ih, exists_ownMember_eq_ok, held_append_cons, named, Passes]
        grind
      by_cases second : key = "recent_changes"
      · subst second
        simp [bind_eq_ok, ih, exists_ownMember_eq_ok, held_append_cons, named, Passes]
        grind
      by_cases third : key = "methods"
      · subst third
        simp [bind_eq_ok, ih, exists_ownMember_eq_ok, held_append_cons, named, Passes]
        grind
      by_cases fourth : key = "objects"
      · subst fourth
        simp [bind_eq_ok, ih, exists_ownMember_eq_ok, held_append_cons, named, Passes]
        grind
      · simp [first, second, third, fourth, bind_eq_ok, ih, faulty_eq_ok, named, Passes]
        grind

section Triples

variable {names : TripleNames} {room : Nat} {a b c : UInt32}

theorem readTriple_record (second_new : names.second ≠ names.first)
    (third_new : names.third ≠ names.first) (third_other : names.third ≠ names.second)
    {members : List (Key × Node)} {ending : Option Break} :
    readTriple names room (.record members ending) = .ok (a, b, c) ↔
      (∃ left, room = left + 1) ∧ ending = none ∧
      (∀ member ∈ members, Passes [names.first, names.second, names.third] member) ∧
      given (named [names.first]) (Node.scalar Found.asUInt32) members = held (some a) ∧
      given (named [names.second]) (Node.scalar Found.asUInt32) members = held (some b) ∧
      given (named [names.third]) (Node.scalar Found.asUInt32) members = held (some c) := by
  simp only [readTriple, bind_eq_ok, faulty_eq_ok, enter_eq_ok, finishRecord_eq_ok,
    requiredMember_eq_ok, TripleDraft.ofNodes_eq_ok_iff second_new third_new third_other]
  constructor
  · rintro ⟨left, rfl, d, ⟨passes, first, second, third⟩, _, ended, _, named, _, numbered, _, last,
      done⟩
    cases done
    rw [named] at first
    rw [numbered] at second
    rw [last] at third
    exact ⟨⟨left, rfl⟩, ended, passes, first, second, third⟩
  · rintro ⟨⟨left, rfl⟩, ended, passes, first, second, third⟩
    exact ⟨left, rfl, ⟨some a, some b, some c⟩, ⟨passes, first, second, third⟩, (), ended, a, rfl, b,
      rfl, c, rfl, rfl⟩

theorem readTriple_list {items : List Node} {ending : ListEnd} :
    readTriple names room (.list items ending) = .ok (a, b, c) ↔
      (∃ left, room = left + 1) ∧ ending = .closed ∧ ∃ first second third,
        items = [first, second, third] ∧
        first.scalar Found.asUInt32 = .ok a ∧ second.scalar Found.asUInt32 = .ok b ∧
        third.scalar Found.asUInt32 = .ok c := by
  simp only [readTriple, bind_eq_ok, faulty_eq_ok, enter_eq_ok, Prod.exists,
    exists_positional_eq_ok, finish_eq_ok]
  constructor
  · rintro ⟨left, rfl, first, _, _, rfl, one, second, _, _, rfl, two, third, _, _, rfl, three, _,
      ⟨rfl, ended⟩, done⟩
    cases done
    exact ⟨⟨left, rfl⟩, ended, first, second, third, rfl, one, two, three⟩
  · rintro ⟨⟨left, rfl⟩, ended, first, second, third, rfl, one, two, three⟩
    exact ⟨left, rfl, first, _, _, rfl, one, second, _, _, rfl, two, third, _, _, rfl, three, (),
      ⟨rfl, ended⟩, rfl⟩

end Triples

theorem Version.ofNode_eq_ok_iff {room : Nat} {n : Node} {v : Version} :
    Version.ofNode room n = .ok v ↔
      readTriple ⟨"struct Version", "major", "minor", "patch"⟩ room n =
        .ok (v.major, v.minor, v.patch) := by
  obtain ⟨_, _, _⟩ := v
  simp only [Version.ofNode, bind_eq_ok, Prod.exists]
  constructor
  · rintro ⟨_, _, _, read, same⟩
    cases same
    exact read
  · exact fun read => ⟨_, _, _, read, rfl⟩

theorem ReleaseDate.ofNode_eq_ok_iff {room : Nat} {n : Node} {d : ReleaseDate} :
    ReleaseDate.ofNode room n = .ok d ↔
      readTriple ⟨"struct ReleaseDate", "year", "month", "day"⟩ room n =
        .ok (d.year, d.month, d.day) := by
  obtain ⟨_, _, _⟩ := d
  simp only [ReleaseDate.ofNode, bind_eq_ok, Prod.exists]
  constructor
  · rintro ⟨_, _, _, read, same⟩
    cases same
    exact read
  · exact fun read => ⟨_, _, _, read, rfl⟩

theorem Method.ofNode_record {room : Nat} {members : List (Key × Node)} {ending : Option Break}
    {m : Method} :
    Method.ofNode room (.record members ending) = .ok m ↔
      ∃ left, room = left + 1 ∧ ending = none ∧
        (∀ member ∈ members, Passes ["name", "description", "documentation_link", "parameters",
          "arguments", "returns", "return_type"] member) ∧
        given (named ["name"]) (Node.scalar Found.asText) members = held (some m.name) ∧
        (∃ description,
          given (named ["description"]) (Node.scalar Found.asText) members = held description ∧
          m.description = description.getD "") ∧
        (∃ link,
          given (named ["documentation_link"]) (Node.scalar Found.asText) members = held link ∧
          m.documentationLink = link.getD "") ∧
        (∃ parameters,
          given (named ["parameters", "arguments"]) (readList left Property.ofNode) members =
            held parameters ∧
          m.parameters = parameters.getD []) ∧
        given (named ["returns", "return_type"]) (FieldType.ofNode left) members =
          held (some m.returns) := by
  simp only [Method.ofNode, bind_eq_ok, faulty_eq_ok, enter_eq_ok, finishRecord_eq_ok,
    requiredMember_eq_ok, MethodDraft.ofNodes_eq_ok_iff]
  constructor
  · rintro ⟨left, rfl, ⟨_, description, link, parameters, _⟩,
      ⟨passes, first, second, third, fourth, fifth⟩, _, ended, _, rfl, _, rfl, done⟩
    cases done
    exact ⟨left, rfl, ended, passes, first, ⟨description, second, rfl⟩, ⟨link, third, rfl⟩,
      ⟨parameters, fourth, rfl⟩, fifth⟩
  · obtain ⟨name, _, _, _, returns⟩ := m
    rintro ⟨left, rfl, ended, passes, first, ⟨description, second, rfl⟩, ⟨link, third, rfl⟩,
      ⟨parameters, fourth, rfl⟩, fifth⟩
    exact ⟨left, rfl, ⟨some name, description, link, parameters, some returns⟩,
      ⟨passes, first, second, third, fourth, fifth⟩, (), ended, _, rfl, _, rfl, rfl⟩

/-- Fields with a default may be missing from the end, and the last of a method has none; so its list
is always full. -/
theorem Method.ofNode_list {room : Nat} {items : List Node} {ending : ListEnd} {m : Method} :
    Method.ofNode room (.list items ending) = .ok m ↔
      ∃ left, room = left + 1 ∧ ending = .closed ∧
        ∃ name description link parameters returns,
          items = [name, description, link, parameters, returns] ∧
          name.scalar Found.asText = .ok m.name ∧
          description.scalar Found.asText = .ok m.description ∧
          link.scalar Found.asText = .ok m.documentationLink ∧
          readList left Property.ofNode parameters = .ok m.parameters ∧
          FieldType.ofNode left returns = .ok m.returns := by
  simp only [Method.ofNode, bind_eq_ok, faulty_eq_ok, enter_eq_ok, Prod.exists,
    exists_positional_eq_ok, finish_eq_ok]
  simp only [exists_next_eq_ok, reduceCtorEq, false_and, exists_false, and_false, false_or]
  constructor
  · rintro ⟨left, rfl, name, _, _, rfl, one, description, _, _, rfl, two, link, _, _, rfl, three,
      parameters, _, _, rfl, four, returns, _, _, rfl, five, _, ⟨rfl, ended⟩, done⟩
    cases done
    exact ⟨left, rfl, ended, name, description, link, parameters, returns, rfl, one, two, three,
      four, five⟩
  · rintro ⟨left, rfl, ended, name, description, link, parameters, returns, rfl, one, two, three,
      four, five⟩
    exact ⟨left, rfl, name, _, _, rfl, one, description, _, _, rfl, two, link, _, _, rfl, three,
      parameters, _, _, rfl, four, returns, _, _, rfl, five, (), ⟨rfl, ended⟩, rfl⟩

theorem Schema.ofNode_record {room : Nat} {members : List (Key × Node)} {ending : Option Break}
    {s : Schema} :
    Schema.ofNode room (.record members ending) = .ok s ↔
      ∃ left, room = left + 1 ∧ ending = none ∧
        (∀ member ∈ members, Passes ["version", "recent_changes", "methods", "objects"] member) ∧
        given (named ["version"]) (Version.ofNode left) members = held (some s.version) ∧
        given (named ["recent_changes"]) (ReleaseDate.ofNode left) members =
          held (some s.released) ∧
        (∃ methods,
          given (named ["methods"]) (readList left Method.ofNode) members = held methods ∧
          s.methods = methods.getD []) ∧
        ∃ objects,
          given (named ["objects"]) (readList left Object.ofNode) members = held objects ∧
          s.objects = objects.getD [] := by
  simp only [Schema.ofNode, bind_eq_ok, faulty_eq_ok, enter_eq_ok, finishRecord_eq_ok,
    requiredMember_eq_ok, SchemaDraft.ofNodes_eq_ok_iff]
  constructor
  · rintro ⟨left, rfl, ⟨_, _, methods, objects⟩, ⟨passes, first, second, third, fourth⟩, _, ended,
      _, rfl, _, rfl, done⟩
    cases done
    exact ⟨left, rfl, ended, passes, first, second, ⟨methods, third, rfl⟩, objects, fourth, rfl⟩
  · obtain ⟨version, released, _, _⟩ := s
    rintro ⟨left, rfl, ended, passes, first, second, ⟨methods, third, rfl⟩, objects, fourth, rfl⟩
    exact ⟨left, rfl, ⟨some version, some released, methods, objects⟩,
      ⟨passes, first, second, third, fourth⟩, (), ended, _, rfl, _, rfl, rfl⟩

/-- The methods and the objects may be missing from the end. -/
theorem Schema.ofNode_list {room : Nat} {items : List Node} {ending : ListEnd} {s : Schema} :
    Schema.ofNode room (.list items ending) = .ok s ↔
      ∃ left, room = left + 1 ∧ ending = .closed ∧
        ∃ version released rest, items = version :: released :: rest ∧
          Version.ofNode left version = .ok s.version ∧
          ReleaseDate.ofNode left released = .ok s.released ∧
          ((rest = [] ∧ s.methods = [] ∧ s.objects = []) ∨
            (∃ methods, rest = [methods] ∧ readList left Method.ofNode methods = .ok s.methods ∧
              s.objects = []) ∨
            ∃ methods objects, rest = [methods, objects] ∧
              readList left Method.ofNode methods = .ok s.methods ∧
              readList left Object.ofNode objects = .ok s.objects) := by
  simp only [Schema.ofNode, bind_eq_ok, faulty_eq_ok, enter_eq_ok, Prod.exists,
    exists_positional_eq_ok, exists_next_eq_ok, finish_eq_ok, reduceCtorEq, false_and, exists_false,
    or_false]
  constructor
  · rintro ⟨left, rfl, version, _, _, rfl, one, released, _, _, rfl, two, rest⟩
    rcases rest with ⟨rfl, ended, _, _, _, _, done⟩ | ⟨methods, _, _, rfl, three, rest⟩
    · cases done
      exact ⟨left, rfl, ended, version, released, [], rfl, one, two, .inl ⟨rfl, rfl, rfl⟩⟩
    rcases rest with ⟨rfl, ended, _, _, done⟩ | ⟨objects, _, _, rfl, four, _, ⟨rfl, ended⟩, done⟩
    · cases done
      exact ⟨left, rfl, ended, version, released, _, rfl, one, two,
        .inr (.inl ⟨methods, rfl, three, rfl⟩)⟩
    · cases done
      exact ⟨left, rfl, ended, version, released, _, rfl, one, two,
        .inr (.inr ⟨methods, objects, rfl, three, four⟩)⟩
  · obtain ⟨_, _, _, _⟩ := s
    rintro ⟨left, rfl, rfl, version, released, rest, rfl, one, two, defaults⟩
    refine ⟨left, rfl, version, _, _, rfl, one, released, _, _, rfl, two, ?_⟩
    rcases defaults with ⟨rfl, rfl, rfl⟩ | ⟨methods, rfl, three, rfl⟩ |
      ⟨methods, objects, rfl, three, four⟩
    · exact .inl ⟨rfl, rfl, trivial, trivial, (), ⟨trivial, trivial⟩, rfl⟩
    · exact .inr ⟨methods, _, _, rfl, three, .inl ⟨rfl, rfl, (), ⟨trivial, trivial⟩, rfl⟩⟩
    · exact .inr ⟨methods, _, _, rfl, three,
        .inr ⟨objects, _, _, rfl, four, (), ⟨rfl, rfl⟩, rfl⟩⟩

end BotTypings
