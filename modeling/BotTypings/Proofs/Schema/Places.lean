import BotTypings.Proofs.Schema.Loaded

/-! Places of a document. What stands at a place is read as what the model wants there, and reading
succeeds only if it succeeds at every place that it comes to. A place is not come to where the tag
beside it asks for something else: the `array` of a union and the `properties` of a union object are
passed over. -/
namespace BotTypings

open BotTypings.Json

/-- What the model wants where a node stands. -/
inductive Place where
  | schema
  | version
  | date
  | methods
  | method
  | objects
  | object
  | kindTag
  | properties
  | property
  | type
  | returns
  | other
  deriving DecidableEq

namespace Place

/-- The members of a record that lead on, and where they lead. -/
def leads : Place → List (String × Place)
  | schema =>
    [("version", version), ("recent_changes", date), ("methods", methods), ("objects", objects)]
  | method =>
    [("parameters", properties), ("arguments", properties), ("returns", returns),
      ("return_type", returns)]
  | object =>
    [("type", kindTag), ("properties", properties), ("any_of", type), ("one_of", type),
      ("oneOf", type)]
  | property | type | returns => [("array", type), ("any_of", type)]
  | _ => []

def member (p : Place) : Key → Place
  | .ok name => (p.leads.lookup name).getD other
  | .error _ => other

/-- Where the items of a list stand: those of a list proper, or the fields of a record in their
declared order. -/
def item : Place → Nat → Place
  | schema, 0 => version
  | schema, 1 => date
  | schema, 2 => methods
  | schema, 3 => objects
  | methods, _ => method
  | method, 3 => properties
  | method, 4 => returns
  | objects, _ => object
  | properties, _ => property
  | type, _ | returns, _ => type
  | _, _ => other

end Place

/-- The tag among the members, spelled or counted. -/
def Tagged {τ : Type} (tags : Tagging τ) (members : List (Key × Node)) (tag : τ) : Prop :=
  ∃ n room v, (.ok "type", n) ∈ members ∧ n.load room = .ok v ∧ tags.ofValue v = .ok tag

/-- The members are read under this name. -/
def Place.Asks (p : Place) (members : List (Key × Node)) (name : String) : Prop :=
  match p with
  | object =>
    (name = "properties" → Tagged objectTags members .properties) ∧
      (ObjectKind.isVariantsKey name → Tagged objectTags members .anyOf)
  | property | type | returns =>
    (name = "array" → Tagged fieldTags members .array) ∧
      (name = "any_of" → Tagged fieldTags members .anyOf)
  | _ => True

/-- Reading what stands at one place comes to what stands at another. -/
inductive Reaches : Place → Node → Place → Node → Prop
  | here {p n} : Reaches p n p n
  | member {p q members ending name n m} (mem : (.ok name, n) ∈ members)
      (asked : p.Asks members name) (behind : Reaches (p.member (.ok name)) n q m) :
      Reaches p (.record members ending) q m
  | item {p q items ending i n m} (there : items[i]? = some n)
      (behind : Reaches (p.item i) n q m) : Reaches p (.list items ending) q m

/-- What is read as a type, as a list of types or as another attribute of a type. -/
def Json.Value.Attribute (v : Value) : Prop :=
  v.isFlat ∨ (∃ t, FieldType.ofValue v = .ok t) ∨ ∃ ts, FieldType.listOfValue v = .ok ts

/-- Reading succeeds on what stands at the place. -/
def Place.Accepts (room : Nat) (n : Node) : Place → Prop
  | schema => ∃ s, Schema.ofNode room n = .ok s
  | methods => ∃ ms, readList room Method.ofNode n = .ok ms
  | method => ∃ m, Method.ofNode room n = .ok m
  | objects => ∃ os, readList room Object.ofNode n = .ok os
  | object => ∃ o, Object.ofNode room n = .ok o
  | properties => ∃ ps, readList room Property.ofNode n = .ok ps
  | property => ∃ p, Property.ofNode room n = .ok p
  | type => ∃ v, n.load room = .ok v ∧ v.Attribute
  | returns => ∃ t, FieldType.ofNode room n = .ok t
  | version | date | kindTag | other => True

theorem exists_of_mem_loadMembers {room : Nat} {members : List (Key × Node)}
    {vs : List (String × Value)} (loaded : loadMembers room members = .ok vs) {name : String}
    {n : Node} (mem : (.ok name, n) ∈ members) : ∃ v, n.load room = .ok v ∧ (name, v) ∈ vs := by
  induction members generalizing vs with
  | nil => cases mem
  | cons member rest ih =>
    obtain ⟨key, m⟩ := member
    simp only [loadMembers, bind_eq_ok] at loaded
    obtain ⟨key, decoded, v, first, vs, others, same⟩ := loaded
    cases same
    rcases List.mem_cons.mp mem with here | behind
    · cases here
      cases decoded
      exact ⟨v, first, List.mem_cons_self⟩
    · obtain ⟨v, given, inner⟩ := ih others behind
      exact ⟨v, given, List.mem_cons_of_mem _ inner⟩

theorem exists_of_mem_loadItems {room : Nat} {items : List Node} {vs : List Value}
    (loaded : loadItems room items = .ok vs) {n : Node} (mem : n ∈ items) :
    ∃ v ∈ vs, n.load room = .ok v := by
  induction items generalizing vs with
  | nil => cases mem
  | cons m rest ih =>
    simp only [loadItems, bind_eq_ok] at loaded
    obtain ⟨v, first, vs, others, same⟩ := loaded
    cases same
    rcases List.mem_cons.mp mem with rfl | behind
    · exact ⟨v, List.mem_cons_self, first⟩
    · obtain ⟨v, inner, given⟩ := ih others behind
      exact ⟨v, List.mem_cons_of_mem _ inner, given⟩

theorem Tagging.ofValue_congr {τ : Type} (tags : Tagging τ) {v w : Value} (same : v.found = w.found) :
    tags.ofValue v = tags.ofValue w := by
  cases v <;> cases w <;> simp_all [Value.found, ofValue]

/-- The tag among the members in the text is the one that is given in memory. -/
theorem Tagged.eq_of_given {τ : Type} {tags : Tagging τ} {members : List (Key × Node)} {asked tag : τ}
    (tagged : Tagged tags members asked) {room : Nat} {vs : List (String × Value)}
    (loaded : loadMembers room members = .ok vs)
    (counted : given (· == "type") tags.ofValue vs = held (some tag)) : tag = asked := by
  obtain ⟨n, other, w, mem, elsewhere, read⟩ := tagged
  obtain ⟨v, here, inner⟩ := exists_of_mem_loadMembers loaded mem
  have same : v.found = w.found := by
    have found := found_of_load here
    rw [found_of_load elsewhere] at found
    exact (Except.ok.inj found).symm
  obtain ⟨t, readHere, only⟩ := read_of_given counted inner (beq_self_eq_true "type")
  rw [tags.ofValue_congr same, read] at readHere
  cases readHere
  cases only
  rfl

/-- What a type asks for is read as an attribute of it, also where the type is described by some of the
members only. -/
theorem FieldType.attribute_of_member {members : List (Key × Node)} {room : Nat}
    {vs : List (String × Value)} (loaded : loadMembers room members = .ok vs) {t : FieldType}
    (own : String → Bool) (typed : own "type") (inArray : own "array") (inUnion : own "any_of")
    (read : ofValue (.record (vs.filter fun member => own member.1)) = .ok t) {name : String}
    {n : Node} (mem : (.ok name, n) ∈ members) (asked : Place.type.Asks members name) {q : Place}
    (leads : (name, q) ∈ Place.type.leads) : q.Accepts room n := by
  obtain ⟨v, here, inner⟩ := exists_of_mem_loadMembers loaded mem
  obtain ⟨tag, counted, read⟩ := ofValue_record_eq_ok_iff.mp read
  have tagOwn (key : String) (isTag : key == "type") : own key := by
    rw [beq_iff_eq.mp isTag]
    exact typed
  rw [given_filter_own _ own _ _ tagOwn] at counted
  simp only [Place.leads, List.mem_cons, Prod.mk.injEq, List.not_mem_nil, or_false] at leads
  rcases leads with ⟨rfl, rfl⟩ | ⟨rfl, rfl⟩
  · cases (asked.1 rfl).eq_of_given loaded counted
    obtain ⟨_, all, _⟩ := (arrayOfMembers_eq_ok_iff _ t).mp read
    obtain ⟨element, inside, _⟩ :=
      read_of_given all (List.mem_filter.mpr ⟨inner, inArray⟩) (beq_self_eq_true "array")
    exact ⟨v, here, .inr (.inl ⟨element, inside⟩)⟩
  · cases (asked.2 rfl).eq_of_given loaded counted
    obtain ⟨_, all, _⟩ := (anyOfOfMembers_eq_ok_iff _ t).mp read
    obtain ⟨variants, inside, _⟩ :=
      read_of_given all (List.mem_filter.mpr ⟨inner, inUnion⟩) (beq_self_eq_true "any_of")
    exact ⟨v, here, .inr (.inr ⟨variants, inside⟩)⟩

theorem FieldType.attribute_of_item {vs : List Value} (read : (Value.list vs).Attribute) {v : Value}
    (mem : v ∈ vs) : v.Attribute := by
  rcases read with flat | ⟨t, read⟩ | ⟨ts, read⟩
  · exact .inl (isFlat_of_isScalar (List.all_eq_true.mp flat v mem))
  · cases vs with
    | nil => cases mem
    | cons head rest =>
      obtain ⟨tag, counted, read⟩ := ofValue_list_eq_ok_iff.mp read
      rcases List.mem_cons.mp mem with rfl | behind
      · refine .inl (isFlat_of_isScalar ?_)
        cases v <;> first | cases counted | rfl
      by_cases isArray : tag = .array
      · subst isArray
        obtain ⟨_, element, rfl, inner, _⟩ := arrayOfItems_eq_ok_iff.mp read
        cases List.mem_singleton.mp behind
        exact .inr (.inl ⟨element, inner⟩)
      by_cases isUnion : tag = .anyOf
      · subst isUnion
        obtain ⟨_, variants, rfl, inner, _⟩ := anyOfOfItems_eq_ok_iff.mp read
        cases List.mem_singleton.mp behind
        exact .inr (.inr ⟨variants, inner⟩)
      · exact .inl ((flat_of_ofItems isArray isUnion read).1 v behind)
  · rw [listOfValue_eq_each, Value.each_eq_ok_iff] at read
    obtain ⟨_, same, each⟩ := read
    cases same
    obtain ⟨t, read⟩ := (exists_mapM_eq_ok vs).mp ⟨ts, each⟩ v mem
    exact .inr (.inl ⟨t, read⟩)

namespace Place

theorem member_cases (p : Place) (name : String) :
    p.member (.ok name) = other ∨ (name, p.member (.ok name)) ∈ p.leads := by
  have found (table : List (String × Place)) :
      (table.lookup name).getD other = other ∨ (name, (table.lookup name).getD other) ∈ table := by
    induction table with
    | nil => exact .inl rfl
    | cons entry table ih =>
      obtain ⟨key, place⟩ := entry
      rw [List.lookup_cons]
      by_cases same : name = key
      · subst same
        simp
      · rw [beq_false_of_ne same]
        exact ih.imp_right (List.mem_cons_of_mem _)
  exact found p.leads

section Record

variable {room : Nat} {members : List (Key × Node)} {ending : Option Break} {name : String} {n : Node}
  {q : Place}

theorem schema_member (accepts : schema.Accepts room (.record members ending))
    (mem : (.ok name, n) ∈ members) (leads : (name, q) ∈ schema.leads) :
    ∃ left, q.Accepts left n := by
  obtain ⟨s, read⟩ := accepts
  obtain ⟨left, _, _, _, _, _, ⟨_, methodsGiven, _⟩, _, objectsGiven, _⟩ :=
    Schema.ofNode_record.mp read
  simp only [Place.leads, List.mem_cons, Prod.mk.injEq, List.not_mem_nil, or_false] at leads
  rcases leads with ⟨_, rfl⟩ | ⟨_, rfl⟩ | ⟨rfl, rfl⟩ | ⟨rfl, rfl⟩
  · exact ⟨left, trivial⟩
  · exact ⟨left, trivial⟩
  · obtain ⟨methods, read, _⟩ := read_of_given methodsGiven mem rfl
    exact ⟨left, methods, read⟩
  · obtain ⟨objects, read, _⟩ := read_of_given objectsGiven mem rfl
    exact ⟨left, objects, read⟩

theorem method_member (accepts : method.Accepts room (.record members ending))
    (mem : (.ok name, n) ∈ members) (leads : (name, q) ∈ method.leads) :
    ∃ left, q.Accepts left n := by
  obtain ⟨m, read⟩ := accepts
  obtain ⟨left, _, _, _, _, _, _, ⟨_, parametersGiven, _⟩, returnsGiven⟩ :=
    Method.ofNode_record.mp read
  have parameters (own : named ["parameters", "arguments"] (.ok name)) :
      ∃ left, properties.Accepts left n := by
    obtain ⟨parameters, read, _⟩ := read_of_given parametersGiven mem own
    exact ⟨left, parameters, read⟩
  have result (own : named ["returns", "return_type"] (.ok name)) :
      ∃ left, returns.Accepts left n := by
    obtain ⟨t, read, _⟩ := read_of_given returnsGiven mem own
    exact ⟨left, t, read⟩
  simp only [Place.leads, List.mem_cons, Prod.mk.injEq, List.not_mem_nil, or_false] at leads
  rcases leads with ⟨rfl, rfl⟩ | ⟨rfl, rfl⟩ | ⟨rfl, rfl⟩ | ⟨rfl, rfl⟩
  · exact parameters rfl
  · exact parameters rfl
  · exact result rfl
  · exact result rfl

section Object

variable {vs : List (String × Value)} (inside : loadMembers room members = .ok vs) {tag : ObjectTag}
  (counted : given (· == "type") objectTags.ofValue vs = held (some tag)) {k : ObjectKind}
  (kind : ObjectKind.ofMembers tag (vs.filter fun member => Object.isHeld member.1) = .ok k)
  (mem : (.ok name, n) ∈ members)
include inside counted kind mem

theorem object_properties (own : name = "properties")
    (tagged : Tagged objectTags members .properties) : properties.Accepts room n := by
  subst own
  cases tagged.eq_of_given inside counted
  obtain ⟨v, here, inner⟩ := exists_of_mem_loadMembers inside mem
  obtain ⟨_, all, _⟩ := (ObjectKind.propertiesOfMembers_eq_ok_iff _ k).mp kind
  obtain ⟨fields, read, _⟩ :=
    read_of_given all (List.mem_filter.mpr ⟨inner, rfl⟩) (beq_self_eq_true "properties")
  exact ⟨fields, (readList_loaded Property.ofNode_eq_ok_iff).mpr ⟨v, here, read⟩⟩

theorem object_variants (own : ObjectKind.isVariantsKey name) (heldName : Object.isHeld name)
    (tagged : Tagged objectTags members .anyOf) : type.Accepts room n := by
  cases tagged.eq_of_given inside counted
  obtain ⟨v, here, inner⟩ := exists_of_mem_loadMembers inside mem
  obtain ⟨_, all, _⟩ := (ObjectKind.variantsOfMembers_eq_ok_iff _ k).mp kind
  obtain ⟨ts, read, _⟩ := read_of_given all (List.mem_filter.mpr ⟨inner, heldName⟩) own
  exact ⟨v, here, .inr (.inr ⟨ts, read⟩)⟩

end Object

theorem object_member (accepts : object.Accepts room (.record members ending))
    (mem : (.ok name, n) ∈ members) (asked : object.Asks members name)
    (leads : (name, q) ∈ object.leads) : ∃ left, q.Accepts left n := by
  obtain ⟨o, read⟩ := accepts
  obtain ⟨_, loaded, read⟩ := Object.ofNode_eq_ok_iff.mp read
  obtain ⟨left, vs, _, _, inside, rfl⟩ := load_record_eq_ok_iff.mp loaded
  obtain ⟨_, kind, _⟩ := Object.ofValue_record.mp read
  obtain ⟨tag, counted, kind⟩ := ObjectKind.ofRecord_eq_ok_iff.mp kind
  rw [given_filter_own _ Object.isHeld _ _
    (by intro key isTag; rw [beq_iff_eq.mp isTag]; rfl)] at counted
  have variants (own : ObjectKind.isVariantsKey name) (heldName : Object.isHeld name) :=
    object_variants inside counted kind mem own heldName (asked.2 own)
  simp only [Place.leads, List.mem_cons, Prod.mk.injEq, List.not_mem_nil, or_false] at leads
  rcases leads with ⟨_, rfl⟩ | ⟨own, rfl⟩ | ⟨rfl, rfl⟩ | ⟨rfl, rfl⟩ | ⟨rfl, rfl⟩
  · exact ⟨left, trivial⟩
  · exact ⟨left, object_properties inside counted kind mem own (asked.1 own)⟩
  · exact ⟨left, variants rfl rfl⟩
  · exact ⟨left, variants rfl rfl⟩
  · exact ⟨left, variants rfl rfl⟩

theorem property_member (accepts : property.Accepts room (.record members ending))
    (mem : (.ok name, n) ∈ members) (asked : property.Asks members name)
    (leads : (name, q) ∈ property.leads) : ∃ left, q.Accepts left n := by
  obtain ⟨p, read⟩ := accepts
  obtain ⟨_, loaded, read⟩ := Property.ofNode_eq_ok_iff.mp read
  obtain ⟨left, vs, _, _, inside, rfl⟩ := load_record_eq_ok_iff.mp loaded
  obtain ⟨_, kind, _⟩ := Property.ofValue_record.mp read
  exact ⟨left, FieldType.attribute_of_member inside Property.isHeld rfl rfl rfl kind mem asked leads⟩

/-- A type that all of the members describe. -/
theorem typed_member (inside : ∃ vs, loadMembers room members = .ok vs ∧
      ∃ t, FieldType.ofValue (.record vs) = .ok t)
    (mem : (.ok name, n) ∈ members) (asked : type.Asks members name)
    (leads : (name, q) ∈ type.leads) : q.Accepts room n := by
  obtain ⟨vs, loaded, t, read⟩ := inside
  rw [← List.filter_true vs] at read
  exact FieldType.attribute_of_member loaded (fun _ => true) rfl rfl rfl read mem asked leads

theorem type_member (accepts : type.Accepts room (.record members ending))
    (mem : (.ok name, n) ∈ members) (asked : type.Asks members name)
    (leads : (name, q) ∈ type.leads) : ∃ left, q.Accepts left n := by
  obtain ⟨_, loaded, read⟩ := accepts
  obtain ⟨left, vs, _, _, inside, rfl⟩ := load_record_eq_ok_iff.mp loaded
  rcases read with flat | ⟨t, read⟩ | ⟨_, impossible⟩
  · cases flat
  · exact ⟨left, typed_member ⟨vs, inside, t, read⟩ mem asked leads⟩
  · cases impossible

theorem returns_member (accepts : returns.Accepts room (.record members ending))
    (mem : (.ok name, n) ∈ members) (asked : returns.Asks members name)
    (leads : (name, q) ∈ returns.leads) : ∃ left, q.Accepts left n := by
  obtain ⟨t, read⟩ := accepts
  obtain ⟨_, loaded, _, read⟩ := FieldType.ofNode_eq_ok_iff.mp read
  obtain ⟨left, vs, _, _, inside, rfl⟩ := load_record_eq_ok_iff.mp loaded
  exact ⟨left, typed_member ⟨vs, inside, t, read⟩ mem asked leads⟩

end Record

/-- Reading a record comes to the members that it asks for, and succeeds on them. -/
theorem accepts_member {p : Place} {room : Nat} {members : List (Key × Node)} {ending : Option Break}
    (accepts : p.Accepts room (.record members ending)) {name : String} {n : Node}
    (mem : (.ok name, n) ∈ members) (asked : p.Asks members name) :
    ∃ left, (p.member (.ok name)).Accepts left n := by
  rcases p.member_cases name with noPlace | leads
  · rw [noPlace]
    exact ⟨room, trivial⟩
  cases p with
  | schema => exact schema_member accepts mem leads
  | method => exact method_member accepts mem leads
  | object => exact object_member accepts mem asked leads
  | property => exact property_member accepts mem asked leads
  | type => exact type_member accepts mem asked leads
  | returns => exact returns_member accepts mem asked leads
  | _ => cases leads

/-- Reading a list comes to each of its items, and succeeds on them. -/
theorem accepts_item {p : Place} {room : Nat} {items : List Node} {ending : ListEnd}
    (accepts : p.Accepts room (.list items ending)) {i : Nat} {n : Node}
    (there : items[i]? = some n) : ∃ left, (p.item i).Accepts left n := by
  have mem : n ∈ items := List.mem_of_getElem? there
  have typed {v : Value} (loaded : (Node.list items ending).load room = .ok v)
      (read : v.Attribute) : ∃ left, type.Accepts left n := by
    obtain ⟨left, vs, _, _, inside, rfl⟩ := load_list_eq_ok_iff.mp loaded
    obtain ⟨v, inner, here⟩ := exists_of_mem_loadItems inside mem
    exact ⟨left, v, here, FieldType.attribute_of_item read inner⟩
  have listed {α : Type} {read : Nat → Node → Except ReadError α}
      (accepts : ∃ xs, readList room read (.list items ending) = .ok xs) :
      ∃ left x, read left n = .ok x := by
    obtain ⟨xs, listed⟩ := accepts
    obtain ⟨left, _, _, same, each⟩ := readList_eq_ok_iff.mp listed
    cases same
    obtain ⟨x, read⟩ := (exists_mapM_eq_ok items).mp ⟨xs, each⟩ n mem
    exact ⟨left, x, read⟩
  cases p with
  | schema =>
    obtain ⟨s, read⟩ := accepts
    obtain ⟨left, _, _, version, released, rest, rfl, _, _, defaults⟩ := Schema.ofNode_list.mp read
    rcases i with _ | _ | _ | _ | i
    · exact ⟨left, trivial⟩
    · exact ⟨left, trivial⟩
    · rcases defaults with ⟨rfl, _⟩ | ⟨_, rfl, read, _⟩ | ⟨_, _, rfl, read, _⟩
      · cases there
      · cases there
        exact ⟨left, _, read⟩
      · cases there
        exact ⟨left, _, read⟩
    · rcases defaults with ⟨rfl, _⟩ | ⟨_, rfl, _⟩ | ⟨_, _, rfl, _, read⟩
      · cases there
      · cases there
      · cases there
        exact ⟨left, _, read⟩
    · exact ⟨left, trivial⟩
  | method =>
    obtain ⟨m, read⟩ := accepts
    obtain ⟨left, _, _, _, _, _, _, _, rfl, _, _, _, parameters, returns⟩ :=
      Method.ofNode_list.mp read
    rcases i with _ | _ | _ | _ | _ | i
    · exact ⟨left, trivial⟩
    · exact ⟨left, trivial⟩
    · exact ⟨left, trivial⟩
    · cases there
      exact ⟨left, _, parameters⟩
    · cases there
      exact ⟨left, _, returns⟩
    · exact ⟨left, trivial⟩
  | methods => exact listed accepts
  | objects => exact listed accepts
  | properties => exact listed accepts
  | type =>
    obtain ⟨v, loaded, read⟩ := accepts
    exact typed loaded read
  | returns =>
    obtain ⟨t, read⟩ := accepts
    obtain ⟨v, loaded, _, read⟩ := FieldType.ofNode_eq_ok_iff.mp read
    exact typed loaded (.inr (.inl ⟨t, read⟩))
  | _ => exact ⟨room, trivial⟩

end Place

theorem memberNodes_eq_map (members : List (String × Value)) :
    memberNodes members = members.map fun member => (.ok member.1, member.2.node) := by
  induction members with
  | nil => rfl
  | cons member members ih => rw [memberNodes, ih, List.map_cons]

theorem itemNodes_eq_map (vs : List Value) : itemNodes vs = vs.map Value.node := by
  induction vs with
  | nil => rfl
  | cons v vs ih => rw [itemNodes, ih, List.map_cons]

theorem Reaches.memberNode {p q : Place} {members : List (String × Value)} (name : String) {v : Value}
    {m : Node} (mem : (name, v) ∈ members) (asked : p.Asks (memberNodes members) name)
    (behind : Reaches (p.member (.ok name)) v.node q m) :
    Reaches p (Value.record members).node q m := by
  have there : (Except.ok name, v.node) ∈ memberNodes members := by
    rw [memberNodes_eq_map]
    exact List.mem_map.mpr ⟨(name, v), mem, rfl⟩
  exact .member there asked behind

theorem Reaches.itemNode {p q : Place} {vs : List Value} (i : Nat) {v : Value} {m : Node}
    (there : vs[i]? = some v) (behind : Reaches (p.item i) v.node q m) :
    Reaches p (Value.list vs).node q m := by
  refine .item (i := i) ?_ behind
  rw [itemNodes_eq_map, List.getElem?_map, there]
  rfl

theorem Reaches.trans {p q r : Place} {n m k : Node} (first : Reaches p n q m)
    (second : Reaches q m r k) : Reaches p n r k := by
  induction first with
  | here => exact second
  | member mem asked _ ih => exact .member mem asked (ih second)
  | item there _ ih => exact .item there (ih second)

/-- Where reading succeeds it succeeds on everything that it comes to. -/
theorem Reaches.accepts {p q : Place} {n m : Node} (reaches : Reaches p n q m)
    (accepts : ∃ room, p.Accepts room n) : ∃ room, q.Accepts room m := by
  induction reaches with
  | here => exact accepts
  | member mem asked _ ih =>
    obtain ⟨room, accepts⟩ := accepts
    exact ih (Place.accepts_member accepts mem asked)
  | item there _ ih =>
    obtain ⟨room, accepts⟩ := accepts
    exact ih (Place.accepts_item accepts there)

end BotTypings
