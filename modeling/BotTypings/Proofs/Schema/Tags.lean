import BotTypings.Proofs.Schema.Places
import BotTypings.Schema.Loading

/-! The tags of field types. A text in which a field type has a tag outside the closed set is refused,
wherever the type stands. The set is wider in memory than in the text: beside the seven names it has the
numbers by which these may be counted, so that a property of the type 0 is an integer. -/
namespace BotTypings

open BotTypings.Json

/-- The node names a field type at the place: by its name or, where types are read from memory, by its
number. -/
def Place.Names (p : Place) (n : Node) : Prop :=
  (∃ entry ∈ fieldTags.spellings, n = .text (.ok entry.1)) ∨
    p ≠ .returns ∧ ∃ i : Int, n.found = .ok (.integer i) ∧ 0 ≤ i ∧ i < 7

theorem text_of_found {n : Node} {s : String} (found : n.found = .ok (.text s)) :
    n = .text (.ok s) := by
  cases n with
  | text content =>
    obtain ⟨_, rfl, same⟩ := map_eq_ok.mp found
    cases same
    rfl
  | number numeral =>
    obtain ⟨number, _, same⟩ := map_eq_ok.mp found
    cases number <;> cases same
  | _ => cases found

theorem mem_of_ofText {s : String} {tag : FieldTag} (spelled : fieldTags.ofText s = .ok tag) :
    ∃ entry ∈ fieldTags.spellings, entry.1 = s := by
  rw [Tagging.ofText] at spelled
  cases found : fieldTags.spellings.lookup s with
  | none =>
    rw [found] at spelled
    cases spelled
  | some other =>
    obtain ⟨before, after, split, _⟩ := List.lookup_eq_some_iff.mp found
    exact ⟨(s, other), by rw [split]; simp, rfl⟩

theorem bound_of_ofIndex {i : Int} {tag : FieldTag} (counted : fieldTags.ofIndex i = .ok tag) :
    i < 7 := by
  rw [Tagging.ofIndex] at counted
  cases found : fieldTags.numbered[i.toNat]? with
  | none =>
    rw [found] at counted
    cases counted
  | some other =>
    have bound : i.toNat < 7 := (List.getElem?_eq_some_iff.mp found).1
    omega

/-- The tag beside whose members a type was read. -/
theorem names_of_given {p : Place} {members : List (Key × Node)} {room : Nat}
    {vs : List (String × Value)} (loaded : loadMembers room members = .ok vs) {tag : FieldTag}
    (counted : given (· == "type") fieldTags.ofValue vs = held (some tag))
    (spelled : p = .returns → (Value.record vs).Spelled) {n : Node}
    (there : (.ok "type", n) ∈ members) : p.Names n := by
  obtain ⟨v, here, inner⟩ := exists_of_mem_loadMembers loaded there
  obtain ⟨tag, read, _⟩ := read_of_given counted inner (beq_self_eq_true "type")
  have found := found_of_load here
  cases v with
  | text s =>
    obtain ⟨entry, mem, rfl⟩ := mem_of_ofText read
    exact .inl ⟨entry, mem, text_of_found found⟩
  | integer i =>
    refine .inr ⟨?_, i, found, ?_⟩
    · intro isReturns
      obtain ⟨_, impossible⟩ := spelled isReturns _ inner rfl
      cases impossible
    · by_cases natural : 0 ≤ i
      · rw [Tagging.ofValue, if_pos natural] at read
        exact ⟨natural, bound_of_ofIndex read⟩
      · rw [Tagging.ofValue, if_neg natural] at read
        cases read
  | _ => cases read

/-- Where a type is read as it stands at its place, its tag names one. -/
theorem Place.Accepts.names {p : Place} (typed : p = .property ∨ p = .type ∨ p = .returns)
    {room : Nat} {members : List (Key × Node)} {ending : Option Break}
    (accepts : p.Accepts room (.record members ending)) {n : Node}
    (there : (.ok "type", n) ∈ members) : p.Names n := by
  rcases typed with rfl | rfl | rfl
  · obtain ⟨p, read⟩ := accepts
    obtain ⟨_, loaded, read⟩ := Property.ofNode_eq_ok_iff.mp read
    obtain ⟨left, vs, _, _, inside, rfl⟩ := load_record_eq_ok_iff.mp loaded
    obtain ⟨_, kind, _⟩ := Property.ofValue_record.mp read
    obtain ⟨tag, counted, _⟩ := FieldType.ofValue_record_eq_ok_iff.mp kind
    rw [given_filter_own _ Property.isHeld _ _
      (by intro key isTag; rw [beq_iff_eq.mp isTag]; rfl)] at counted
    exact names_of_given inside counted (by intro impossible; cases impossible) there
  · obtain ⟨_, loaded, read⟩ := accepts
    obtain ⟨left, vs, _, _, inside, rfl⟩ := load_record_eq_ok_iff.mp loaded
    rcases read with flat | ⟨t, read⟩ | ⟨_, impossible⟩
    · cases flat
    · obtain ⟨tag, counted, _⟩ := FieldType.ofValue_record_eq_ok_iff.mp read
      exact names_of_given inside counted (by intro impossible; cases impossible) there
    · cases impossible
  · obtain ⟨t, read⟩ := accepts
    obtain ⟨_, loaded, spelled, read⟩ := FieldType.ofNode_eq_ok_iff.mp read
    obtain ⟨left, vs, _, _, inside, rfl⟩ := load_record_eq_ok_iff.mp loaded
    obtain ⟨tag, counted, _⟩ := FieldType.ofValue_record_eq_ok_iff.mp read
    exact names_of_given inside counted (fun _ => spelled) there

/-- A text is refused as soon as one of its types has a tag that names none. -/
theorem Schema.load_unknownTag {text : String} {p : Place}
    (typed : p = .property ∨ p = .type ∨ p = .returns) {members : List (Key × Node)}
    {ending : Option Break}
    (reaches : Reaches .schema (Document.ofText text).root p (.record members ending)) {n : Node}
    (there : (.ok "type", n) ∈ members) (unknown : ¬ p.Names n) :
    ∃ e, Schema.load text = .error (.json e) := by
  cases read : readText Schema.ofNode text with
  | error e =>
    refine ⟨e, ?_⟩
    rw [Schema.load, read]
    rfl
  | ok s =>
    obtain ⟨s, root, _⟩ := bind_eq_ok.mp read
    obtain ⟨room, accepts⟩ := reaches.accepts ⟨deepest, s, root⟩
    exact absurd (accepts.names typed there) unknown

/-- A description of one object that has one property. -/
def withProperty (property : List (String × Value)) : Value :=
  .record [
    ("version", .record [("major", .integer 9), ("minor", .integer 1), ("patch", .integer 0)]),
    ("recent_changes", .record [("year", .integer 2025), ("month", .integer 7), ("day", .integer 3)]),
    ("objects", .list [.record [("name", .text "Chat"), ("type", .text "properties"),
      ("properties", .list [.record property])]])]

theorem withProperty_exact {property : List (String × Value)} (exact : MembersExact property) :
    (withProperty property).Exact := by
  simp [withProperty, Value.Exact, MembersExact, ItemsExact, Fits64, Decimal.unsignedEnd, exact]

theorem withProperty_reaches (property : List (String × Value)) :
    Reaches .schema (withProperty property).node .property (Value.record property).node := by
  have tagged {members : List (String × Value)} :
      Tagged objectTags (memberNodes (("name", .text "Chat") :: ("type", .text "properties") ::
        members)) .properties :=
    ⟨.text (.ok "properties"), 0, .text "properties", .tail _ (.head _), rfl, rfl⟩
  refine .memberNode "objects" (.tail _ (.tail _ (.head _))) trivial ?_
  refine .itemNode 0 rfl ?_
  refine .memberNode "properties" (.tail _ (.tail _ (.head _))) ⟨fun _ => tagged, nofun⟩ ?_
  exact .itemNode 0 rfl .here

/-- A union below an array, one of whose variants is a verbatim type text. -/
def verbatimProperty : List (String × Value) :=
  [("name", .text "id"), ("type", .text "array"), ("array", .record [("type", .text "any_of"),
    ("any_of", .list [.record [("type", .text "integer")], .record [("type", .text "expression")]])])]

theorem verbatimProperty_reaches :
    Reaches .property (Value.record verbatimProperty).node .type
      (Value.record [("type", .text "expression")]).node := by
  have array : Tagged fieldTags (memberNodes verbatimProperty) .array :=
    ⟨.text (.ok "array"), 0, .text "array", .tail _ (.head _), rfl, rfl⟩
  have union {members : List (String × Value)} :
      Tagged fieldTags (memberNodes (("type", .text "any_of") :: members)) .anyOf :=
    ⟨.text (.ok "any_of"), 0, .text "any_of", .head _, rfl, rfl⟩
  refine .memberNode "array" (.tail _ (.tail _ (.head _))) ⟨fun _ => array, nofun⟩ ?_
  refine .memberNode "any_of" (.tail _ (.head _)) ⟨nofun, fun _ => union⟩ ?_
  exact .itemNode 1 rfl .here

theorem Schema.load_verbatimProperty :
    Reaches .schema (Document.ofText (withProperty verbatimProperty).compact).root .type
        (Value.record [("type", .text "expression")]).node ∧
      ¬ Place.type.Names (.text (.ok "expression")) ∧
      ∃ e, Schema.load (withProperty verbatimProperty).compact = .error (.json e) := by
  have exact : MembersExact verbatimProperty := by
    simp [verbatimProperty, MembersExact, Value.Exact, ItemsExact]
  have reaches : Reaches .schema (Document.ofText (withProperty verbatimProperty).compact).root .type
      (Value.record [("type", .text "expression")]).node := by
    rw [ofText_compact (withProperty_exact exact)]
    exact (withProperty_reaches verbatimProperty).trans verbatimProperty_reaches
  have unknown : ¬ Place.type.Names (.text (.ok "expression")) := by
    have apart : ∀ entry ∈ fieldTags.spellings, entry.1 ≠ "expression" := by decide
    rintro (⟨entry, mem, same⟩ | ⟨_, i, impossible, _⟩)
    · exact apart entry mem (Except.ok.inj (Node.text.inj same)).symm
    · cases impossible
  exact ⟨reaches, unknown, Schema.load_unknownTag (.inr (.inl rfl)) reaches (.head _) unknown⟩

/-- A property whose type is given by its number. -/
def countedProperty : List (String × Value) := [("name", .text "id"), ("type", .integer 0)]

theorem countedProperty_exact : MembersExact countedProperty := by
  simp [countedProperty, MembersExact, Value.Exact, Fits64, Decimal.unsignedEnd]

/-- A property may have a tag that is none of the seven names. -/
theorem Schema.load_countedProperty :
    ∃ text s members n, Schema.load text = .ok s ∧
      Reaches .schema (Document.ofText text).root .property (.record members none) ∧
      (.ok "type", n) ∈ members ∧ ∀ entry ∈ fieldTags.spellings, n ≠ .text (.ok entry.1) := by
  have root := ofText_compact (withProperty_exact countedProperty_exact)
  have loaded : Schema.load (withProperty countedProperty).compact =
      .ok ⟨⟨9, 1, 0⟩, ⟨2025, 7, 3⟩, [],
        [⟨"Chat", "", "", .properties [⟨"id", "", false, .plainInteger⟩], none⟩]⟩ := by
    rw [Schema.load, readText, root]
    rfl
  refine ⟨_, _, memberNodes countedProperty, (Value.integer 0).node, loaded, ?_, ?_, ?_⟩
  · rw [root]
    exact withProperty_reaches countedProperty
  · exact .tail _ (.head _)
  · intro entry _ same
    cases same

end BotTypings
