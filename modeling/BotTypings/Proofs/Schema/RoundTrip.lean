import BotTypings.Proofs.Schema.FieldTypes
import BotTypings.Proofs.Schema.Names

/-! A written schema is loaded as itself.

Properties are read by one reader over two sources, and the two agree on written values, so what a
property is written as needs to be read back from memory only. Objects hold back what describes
their kind; methods, the version and the date are read where they stand. -/
namespace BotTypings

open BotTypings.Json

section Sources

variable {α β : Type} {v : Value} {room : Nat}

theorem mismatched_map (x : Except Mismatch α) (f : α → β) :
    (mismatched x).map f = mismatched (x.map f) := by
  cases x <;> rfl

theorem mismatched_bind (x : Except Mismatch α) (f : α → Except Mismatch β) :
    mismatched (x >>= f) = mismatched x >>= fun a => mismatched (f a) := by
  cases x <;> rfl

theorem own_node (exact : v.Exact) (name : String) (current : Option α)
    (read : Found → Except Mismatch α) :
    (textSource room).own name current read v.node =
      mismatched (memorySource.own name current read v) := by
  cases current with
  | some _ => rfl
  | none =>
    have found : faulty v.node.found = .ok v.found := by rw [found_node exact]; rfl
    simp only [Source.own, textSource, memorySource, found]
    change ((read v.found).mapError _ >>= fun x => pure (some x)) = mismatched
      ((read v.found).mapError id >>= fun x => pure (some x))
    cases read v.found <;> rfl

theorem hold_node (exact : v.Exact) (shallow : v.nesting ≤ room) :
    (textSource room).hold v.node = mismatched (memorySource.hold v) := by
  change faulty (v.node.load room) = _
  rw [load_node v exact room shallow]
  rfl

theorem PropertyDraft.add_node (exact : v.Exact) (shallow : v.nesting ≤ room) (d : PropertyDraft)
    (key : String) :
    d.add (textSource room) key v.node = mismatched (d.add memorySource key v) := by
  simp only [PropertyDraft.add]
  split
  · rw [own_node exact, mismatched_map]
  · split
    · rw [own_node exact, mismatched_map]
    · split
      · rw [own_node exact, mismatched_map]
      · rw [hold_node exact shallow, mismatched_map]

theorem PropertyDraft.ofNodes_members {members : List (String × Value)}
    (exact : MembersExact members)
    (shallow : membersNesting members ≤ room) (d : PropertyDraft) :
    d.ofNodes room (memberNodes members) = mismatched (d.ofMembers members) := by
  induction members generalizing d with
  | nil => rfl
  | cons member rest ih =>
    obtain ⟨key, v⟩ := member
    obtain ⟨first, later⟩ := Nat.max_le.mp shallow
    change (d.add (textSource room) key v.node >>= fun e => e.ofNodes room (memberNodes rest)) = _
    rw [PropertyDraft.add_node exact.1 first, PropertyDraft.ofMembers, mismatched_bind]
    congr 1
    funext e
    exact ih exact.2 later e

theorem PropertyDraft.finish_text (d : PropertyDraft) (room : Nat) :
    d.finish (textSource room) = mismatched (d.finish memorySource) := by
  obtain ⟨name, description, required, others⟩ := d
  cases name with
  | none => rfl
  | some name =>
    change ((FieldType.ofRecord others).mapError _ >>= _) =
      mismatched ((FieldType.ofRecord others).mapError id >>= _)
    cases FieldType.ofRecord others <;> rfl

/-- Where a property stands in a text makes no difference to what is read. -/
theorem Property.ofNode_record {members : List (String × Value)} (exact : MembersExact members)
    (shallow : (Value.record members).nesting ≤ room) :
    Property.ofNode room (Value.record members).node =
      mismatched (Property.ofValue (.record members)) := by
  obtain ⟨left, entered, fits⟩ := enter_room shallow
  rw [Value.node, Property.ofNode, entered]
  change ((PropertyDraft.ofNodes left {} (memberNodes members)).bind fun d =>
    d.finish (textSource left)) = _
  rw [PropertyDraft.ofNodes_members exact fits, Property.ofValue, mismatched_bind]
  cases PropertyDraft.ofMembers {} members with
  | error _ => rfl
  | ok d => exact PropertyDraft.finish_text d left

end Sources

/-- Whatever is written for `x` is exact, and is read as `x` wherever there is room for it. -/
def Restored {α : Type} (write : α → Except Mismatch Value) (read : Nat → Node → Except ReadError α)
    (x : α) : Prop :=
  ∀ v, write x = .ok v → v.Exact ∧ ∀ room, v.nesting ≤ room → read room v.node = .ok x

section Lists

variable {α : Type} {write : α → Except Mismatch Value} {read : Nat → Node → Except ReadError α}
  {xs : List α} {vs : List Value}

theorem itemsExact_mapM (written : xs.mapM write = .ok vs)
    (each : ∀ x ∈ xs, ∀ v, write x = .ok v → v.Exact) : ItemsExact vs := by
  induction xs generalizing vs with
  | nil =>
    cases written
    trivial
  | cons x xs ih =>
    obtain ⟨v, rest, first, others, rfl⟩ := mapM_cons_eq_ok.mp written
    obtain ⟨here, behind⟩ := List.forall_mem_cons.mp each
    exact ⟨here v first, ih others behind⟩

theorem mapM_back {read : Value → Except Mismatch α} (written : xs.mapM write = .ok vs)
    (each : ∀ x ∈ xs, ∀ v, write x = .ok v → read v = .ok x) : vs.mapM read = .ok xs := by
  induction xs generalizing vs with
  | nil =>
    cases written
    rfl
  | cons x xs ih =>
    obtain ⟨v, rest, first, others, rfl⟩ := mapM_cons_eq_ok.mp written
    obtain ⟨here, behind⟩ := List.forall_mem_cons.mp each
    exact mapM_cons_eq_ok.mpr ⟨x, xs, here v first, ih others behind, rfl⟩

theorem readAll_back {room : Nat} (written : xs.mapM write = .ok vs)
    (each : ∀ x ∈ xs, Restored write read x) (shallow : itemsNesting vs ≤ room) :
    readAll (read room) (itemNodes vs) = .ok xs := by
  induction xs generalizing vs with
  | nil =>
    cases written
    rfl
  | cons x xs ih =>
    obtain ⟨v, rest, first, others, rfl⟩ := mapM_cons_eq_ok.mp written
    obtain ⟨here, behind⟩ := List.forall_mem_cons.mp each
    obtain ⟨fits, later⟩ := Nat.max_le.mp shallow
    rw [itemNodes, readAll, (here v first).2 room fits, ih others behind later]
    rfl

theorem readList_back {room : Nat} (written : xs.mapM write = .ok vs)
    (each : ∀ x ∈ xs, Restored write read x) (shallow : (Value.list vs).nesting ≤ room) :
    readList room read (Value.list vs).node = .ok xs := by
  obtain ⟨left, entered, fits⟩ := enter_room shallow
  rw [Value.node, readList, entered]
  change (readAll (read left) (itemNodes vs)).bind _ = _
  rw [readAll_back written each fits]
  rfl

end Lists

theorem FieldType.restored {t : FieldType} (bare : FloatsBare t.parts) :
    Restored FieldType.toValue FieldType.ofNode t := by
  intro v written
  obtain ⟨ms, spelled, rfl⟩ := map_eq_ok.mp written
  obtain ⟨tag, attributes, rfl, under⟩ := writtenAs t ms spelled bare
  exact ⟨⟨trivial, under.plain.exact⟩, fun room shallow => under.ofNode shallow⟩

theorem PropertyDraft.ofMembers_attributes {attributes : List (String × Value)}
    (plain : AreAttributes attributes) (d : PropertyDraft) :
    d.ofMembers attributes = .ok { d with others := d.others ++ attributes } := by
  induction attributes generalizing d with
  | nil => rw [List.append_nil]; rfl
  | cons member rest ih =>
    obtain ⟨key, v⟩ := member
    obtain ⟨here, behind⟩ := List.forall_mem_cons.mp plain.foreign
    have other (name : String) (own : name ∈ ownNames) : key ≠ name := by
      rintro rfl
      exact here own
    have held : d.add memorySource key v = .ok { d with others := d.others ++ [(key, v)] } := by
      rw [PropertyDraft.add, if_neg (other "name" (by decide)),
        if_neg (other "description" (by decide)),
        if_neg (other "required" (by decide))]
      rfl
    rw [PropertyDraft.ofMembers, held]
    change ({ d with others := d.others ++ [(key, v)] } : PropertyDraft).ofMembers rest = _
    rw [ih ⟨plain.exact.2, behind⟩, List.append_assoc]
    rfl

theorem Property.toValue_back {p : Property} {v : Value} (written : p.toValue = .ok v)
    (bare : FieldType.FloatsBare p.kind.parts) :
    ∃ members, v = .record members ∧ MembersExact members ∧
      Property.ofValue (.record members) = .ok p := by
  obtain ⟨kind, spelled, same⟩ := bind_eq_ok.mp written
  cases same
  obtain ⟨tag, attributes, rfl, under⟩ := FieldType.writtenAs p.kind kind spelled bare
  refine ⟨_, rfl, ⟨trivial, trivial, trivial, trivial, under.plain.exact⟩, ?_⟩
  change (PropertyDraft.ofMembers ⟨some p.name, some p.description, some p.required,
    [("type", .text p.kind.tag)]⟩ attributes).bind _ = _
  rw [PropertyDraft.ofMembers_attributes under.plain]
  change ((FieldType.ofRecord (("type", .text p.kind.tag) :: attributes)).mapError id).bind _ = _
  rw [under.ofRecord]
  rfl

theorem Property.restored {p : Property} (bare : FieldType.FloatsBare p.kind.parts) :
    Restored Property.toValue Property.ofNode p := by
  intro v written
  obtain ⟨members, rfl, exact, back⟩ := Property.toValue_back written bare
  refine ⟨exact, fun room shallow => ?_⟩
  rw [Property.ofNode_record exact shallow, back]
  rfl

/-- The names that an object keeps for itself. -/
def objectNames : List String := ["name", "description", "documentation_link"]

/-- The members describe the kind of an object. -/
structure ObjectKind.WrittenAs (k : ObjectKind) (members : List (String × Value)) : Prop where
  exact : MembersExact members
  foreign : ∀ key ∈ members.map (·.1), key ∉ objectNames
  read : ofRecord members = .ok k

theorem ObjectKind.writtenAs {k : ObjectKind} {members : List (String × Value)}
    (written : k.members = .ok members) (bare : FieldType.FloatsBare k.parts) :
    k.WrittenAs members := by
  cases k with
  | properties fields =>
    obtain ⟨inner, each, same⟩ := bind_eq_ok.mp written
    cases same
    have bareOf (p : Property) (mem : p ∈ fields) : FieldType.FloatsBare p.kind.parts :=
      fun d a b part => bare d a b (List.mem_flatMap.mpr ⟨p, mem, part⟩)
    have exact : ItemsExact inner :=
      itemsExact_mapM each fun p mem v written => (Property.restored (bareOf p mem) v written).1
    have back : inner.mapM Property.ofValue = .ok fields := by
      refine mapM_back each fun p mem v written => ?_
      obtain ⟨members, rfl, _, back⟩ := Property.toValue_back written (bareOf p mem)
      exact back
    refine ⟨⟨trivial, exact, trivial⟩, ?_, ?_⟩
    · exact (by decide : ∀ key ∈ ["type", "properties"], key ∉ objectNames)
    · change ((once "properties" none (inner.mapM Property.ofValue)).bind fun found =>
        propertiesOfMembers found []) = _
      rw [back]
      rfl
  | anyOf variants =>
    obtain ⟨inner, each, same⟩ := bind_eq_ok.mp written
    cases same
    obtain ⟨exact, back⟩ := FieldType.allWrittenAs variants inner each bare
    refine ⟨⟨trivial, exact, trivial⟩, ?_, ?_⟩
    · exact (by decide : ∀ key ∈ ["type", "any_of"], key ∉ objectNames)
    · change ((once "any_of" none (FieldType.listOfValue (.list inner))).bind fun found =>
        variantsOfMembers found []) = _
      rw [FieldType.listOfValue, back]
      rfl
  | unknown =>
    cases written
    refine ⟨⟨trivial, trivial⟩, ?_, rfl⟩
    exact (by decide : ∀ key ∈ ["type"], key ∉ objectNames)

theorem ObjectDraft.ofNodes_held {room : Nat} {members : List (String × Value)}
    (exact : MembersExact members) (foreign : ∀ key ∈ members.map (·.1), key ∉ objectNames)
    (shallow : membersNesting members ≤ room) (d : ObjectDraft) :
    d.ofNodes room (memberNodes members) = .ok { d with others := d.others ++ members } := by
  induction members generalizing d with
  | nil => rw [List.append_nil]; rfl
  | cons member rest ih =>
    obtain ⟨key, v⟩ := member
    obtain ⟨here, behind⟩ := List.forall_mem_cons.mp foreign
    obtain ⟨first, later⟩ := Nat.max_le.mp shallow
    have other (name : String) (own : name ∈ objectNames) : key ≠ name := by
      rintro rfl
      exact here own
    have held :
        d.add (textSource room) key v.node = .ok { d with others := d.others ++ [(key, v)] } := by
      rw [ObjectDraft.add, if_neg (other "name" (by decide)),
        if_neg (other "description" (by decide)),
        if_neg (other "documentation_link" (by decide)), hold_node exact.1 first]
      rfl
    change ((d.add (textSource room) key v.node).bind fun e =>
      e.ofNodes room (memberNodes rest)) = _
    rw [held]
    change ({ d with others := d.others ++ [(key, v)] } : ObjectDraft).ofNodes room
      (memberNodes rest) = _
    rw [ih exact.2 behind later, List.append_assoc]
    rfl

theorem Object.restored {o : Object} (unparameterised : o.typeParameters = none)
    (bare : FieldType.FloatsBare o.kind.parts) : Restored Object.toValue Object.ofNode o := by
  intro v written
  obtain ⟨kind, each, same⟩ := bind_eq_ok.mp written
  cases same
  have under := ObjectKind.writtenAs each bare
  refine ⟨⟨trivial, trivial, trivial, under.exact⟩, fun room shallow => ?_⟩
  obtain ⟨left, entered, fits⟩ := enter_room shallow
  have kindFits : membersNesting kind ≤ left :=
    (Nat.max_le.mp (Nat.max_le.mp (Nat.max_le.mp fits).2).2).2
  rw [Value.node, Object.ofNode, entered]
  change ((ObjectDraft.ofNodes left ⟨some o.name, some o.description, some o.documentationLink, []⟩
    (memberNodes kind)).bind fun d => d.finish (textSource left)) = _
  rw [ObjectDraft.ofNodes_held under.exact under.foreign kindFits]
  change ((ObjectKind.ofRecord kind).mapError ReadError.mismatch).bind
    (fun k => .ok (⟨o.name, o.description, o.documentationLink, k, none⟩ : Object)) = _
  rw [under.read, ← unparameterised]
  rfl

theorem ownMember_given {α : Type} (name : String) {read : Unit → Except ReadError α} {x : α}
    (given : read () = .ok x) : ownMember name none read = .ok (some x) := by
  rw [ownMember, given]
  rfl

theorem MethodDraft.ofNodes_written {room : Nat} {m : Method} {parameters returns : Value}
    (parametersRead : readList room Property.ofNode parameters.node = .ok m.parameters)
    (returnsRead : FieldType.ofNode room returns.node = .ok m.returns) :
    MethodDraft.ofNodes room {} (memberNodes
      [("name", .text m.name), ("description", .text m.description),
        ("documentation_link", .text m.documentationLink), ("parameters", parameters),
        ("returns", returns)]) =
      .ok ⟨some m.name, some m.description, some m.documentationLink, some m.parameters,
        some m.returns⟩ := by
  change ((ownMember "parameters" none fun _ => readList room Property.ofNode parameters.node).bind
    fun given =>
    MethodDraft.ofNodes room
      ⟨some m.name, some m.description, some m.documentationLink, given, none⟩
      (memberNodes [("returns", returns)])) = _
  rw [ownMember_given "parameters" parametersRead]
  change ((ownMember "returns" none fun _ => FieldType.ofNode room returns.node).bind fun given =>
    MethodDraft.ofNodes room
      ⟨some m.name, some m.description, some m.documentationLink, some m.parameters, given⟩ []) = _
  rw [ownMember_given "returns" returnsRead]
  rfl

theorem Method.restored {m : Method} (bare : FieldType.FloatsBare m.parts) :
    Restored Method.toValue Method.ofNode m := by
  intro v written
  obtain ⟨parameters, given, more⟩ := bind_eq_ok.mp written
  obtain ⟨returns, answered, same⟩ := bind_eq_ok.mp more
  cases same
  have each : ∀ p ∈ m.parameters, Restored Property.toValue Property.ofNode p :=
    fun p mem => Property.restored fun d a b part =>
      bare d a b (List.mem_append_left _ (List.mem_flatMap.mpr ⟨p, mem, part⟩))
  have answer : Restored FieldType.toValue FieldType.ofNode m.returns :=
    FieldType.restored fun d a b part => bare d a b (List.mem_append_right _ part)
  have exact : ItemsExact parameters :=
    itemsExact_mapM given fun p mem v written => (each p mem v written).1
  refine ⟨⟨trivial, trivial, trivial, exact, (answer returns answered).1, trivial⟩,
    fun room shallow => ?_⟩
  obtain ⟨left, entered, fits⟩ := enter_room shallow
  obtain ⟨parametersFit, later⟩ :=
    Nat.max_le.mp (Nat.max_le.mp (Nat.max_le.mp (Nat.max_le.mp fits).2).2).2
  have returnsFits := (Nat.max_le.mp later).1
  rw [Value.node, Method.ofNode, entered]
  change (MethodDraft.ofNodes left {} _).bind _ = _
  rw [MethodDraft.ofNodes_written (readList_back given each parametersFit)
    ((answer returns answered).2 left returnsFits)]
  rfl

theorem scalar_uint32 (n : UInt32) : (uint32Value n).node.scalar Found.asUInt32 = .ok n := by
  rw [Node.scalar, found_node (uint32_exact n)]
  change mismatched (Value.scalar Found.asUInt32 (uint32Value n)) = _
  rw [asUInt32_written]
  rfl

theorem readTriple_back (names : TripleNames) {room : Nat} (first second third : UInt32)
    (second_new : names.second ≠ names.first) (third_new : names.third ≠ names.first)
    (third_other : names.third ≠ names.second) (open_room : 1 ≤ room) :
    readTriple names room (Value.record [(names.first, uint32Value first),
      (names.second, uint32Value second), (names.third, uint32Value third)]).node =
        .ok (first, second, third) := by
  obtain ⟨left, entered, _⟩ := enter_room open_room
  have number (name : String) (n : UInt32) :
      ownMember name none (fun _ => (uint32Value n).node.scalar Found.asUInt32) = .ok (some n) :=
    ownMember_given name (scalar_uint32 n)
  have one (rest : List (Key × Node)) :
      TripleDraft.ofNodes names {} ((.ok names.first, (uint32Value first).node) :: rest) =
        TripleDraft.ofNodes names ⟨some first, none, none⟩ rest := by
    rw [TripleDraft.ofNodes]
    refine (if_pos rfl).trans ?_
    rw [number]
    rfl
  have two (rest : List (Key × Node)) :
      TripleDraft.ofNodes names ⟨some first, none, none⟩
        ((.ok names.second, (uint32Value second).node) :: rest) =
        TripleDraft.ofNodes names ⟨some first, some second, none⟩ rest := by
    rw [TripleDraft.ofNodes]
    refine ((if_neg second_new).trans (if_pos rfl)).trans ?_
    rw [number]
    rfl
  have three : TripleDraft.ofNodes names ⟨some first, some second, none⟩
      [(.ok names.third, (uint32Value third).node)] =
        .ok ⟨some first, some second, some third⟩ := by
    rw [TripleDraft.ofNodes]
    refine ((if_neg third_new).trans ((if_neg third_other).trans (if_pos rfl))).trans ?_
    rw [number]
    rfl
  have members : TripleDraft.ofNodes names {} (memberNodes [(names.first, uint32Value first),
      (names.second, uint32Value second), (names.third, uint32Value third)]) =
        .ok ⟨some first, some second, some third⟩ :=
    (one _).trans ((two _).trans three)
  rw [Value.node, readTriple, entered]
  change (TripleDraft.ofNodes names {} (memberNodes _)).bind _ = _
  rw [members]
  rfl

theorem Version.read_back (v : Version) {room : Nat} (open_room : 1 ≤ room) :
    Version.ofNode room v.toValue.node = .ok v := by
  have read := readTriple_back ⟨"struct Version", "major", "minor", "patch"⟩
    v.major v.minor v.patch (by decide) (by decide) (by decide) open_room
  rw [Version.ofNode, Version.toValue, read]
  rfl

theorem ReleaseDate.read_back (d : ReleaseDate) {room : Nat} (open_room : 1 ≤ room) :
    ReleaseDate.ofNode room d.toValue.node = .ok d := by
  have read := readTriple_back ⟨"struct ReleaseDate", "year", "month", "day"⟩
    d.year d.month d.day (by decide) (by decide) (by decide) open_room
  rw [ReleaseDate.ofNode, ReleaseDate.toValue, read]
  rfl

/-- Nothing that a text cannot hold or give back: no verbatim type text and no type parameters, no
default or bound on a float, and no deeper nesting than a text may have; and no repeated name. -/
structure Schema.Portable (s : Schema) : Prop where
  methodNames : (s.methods.map (·.name)).Nodup
  objectNames : (s.objects.map (·.name)).Nodup
  noExpression : ∀ text, .expression text ∉ s.fieldTypes
  noTypeParameters : ∀ o ∈ s.objects, o.typeParameters = none
  floatsBare : FieldType.FloatsBare s.fieldTypes
  shallow : ∀ v, s.toValue = .ok v → v.nesting ≤ deepest

theorem SchemaDraft.ofNodes_written {room : Nat} {s : Schema}
    {version released methods objects : Value}
    (versionRead : Version.ofNode room version.node = .ok s.version)
    (releasedRead : ReleaseDate.ofNode room released.node = .ok s.released)
    (methodsRead : readList room Method.ofNode methods.node = .ok s.methods)
    (objectsRead : readList room Object.ofNode objects.node = .ok s.objects) :
    SchemaDraft.ofNodes room {} (memberNodes [("version", version), ("recent_changes", released),
      ("methods", methods), ("objects", objects)]) =
        .ok ⟨some s.version, some s.released, some s.methods, some s.objects⟩ := by
  change ((ownMember "version" none fun _ => Version.ofNode room version.node).bind fun given =>
    SchemaDraft.ofNodes room ⟨given, none, none, none⟩
      (memberNodes [("recent_changes", released), ("methods", methods), ("objects", objects)])) = _
  rw [ownMember_given "version" versionRead]
  change ((ownMember "recent_changes" none fun _ => ReleaseDate.ofNode room released.node).bind
    fun given =>
    SchemaDraft.ofNodes room ⟨some s.version, given, none, none⟩
      (memberNodes [("methods", methods), ("objects", objects)])) = _
  rw [ownMember_given "recent_changes" releasedRead]
  change ((ownMember "methods" none fun _ => readList room Method.ofNode methods.node).bind
    fun given =>
    SchemaDraft.ofNodes room ⟨some s.version, some s.released, given, none⟩
      (memberNodes [("objects", objects)])) = _
  rw [ownMember_given "methods" methodsRead]
  change ((ownMember "objects" none fun _ => readList room Object.ofNode objects.node).bind
    fun given =>
    SchemaDraft.ofNodes room ⟨some s.version, some s.released, some s.methods, given⟩ []) = _
  rw [ownMember_given "objects" objectsRead]
  rfl

theorem Schema.restored {s : Schema} (noTypeParameters : ∀ o ∈ s.objects, o.typeParameters = none)
    (bare : FieldType.FloatsBare s.fieldTypes) : Restored Schema.toValue Schema.ofNode s := by
  intro v written
  obtain ⟨methods, methodsGiven, more⟩ := bind_eq_ok.mp written
  obtain ⟨objects, objectsGiven, same⟩ := bind_eq_ok.mp more
  cases same
  have eachMethod : ∀ m ∈ s.methods, Restored Method.toValue Method.ofNode m :=
    fun m mem => Method.restored fun d a b part =>
      bare d a b (List.mem_append_left _ (List.mem_flatMap.mpr ⟨m, mem, part⟩))
  have eachObject : ∀ o ∈ s.objects, Restored Object.toValue Object.ofNode o :=
    fun o mem => Object.restored (noTypeParameters o mem) fun d a b part =>
      bare d a b (List.mem_append_right _ (List.mem_flatMap.mpr ⟨o, mem, part⟩))
  have methodsExact : ItemsExact methods :=
    itemsExact_mapM methodsGiven fun m mem v written => (eachMethod m mem v written).1
  have objectsExact : ItemsExact objects :=
    itemsExact_mapM objectsGiven fun o mem v written => (eachObject o mem v written).1
  have triple (a b c : UInt32) (x y z : String) :
      (Value.record [(x, uint32Value a), (y, uint32Value b), (z, uint32Value c)]).Exact :=
    ⟨uint32_exact a, uint32_exact b, uint32_exact c, trivial⟩
  refine ⟨⟨triple .., triple .., methodsExact, objectsExact, trivial⟩, fun room shallow => ?_⟩
  obtain ⟨left, entered, fits⟩ := enter_room shallow
  obtain ⟨versionFits, later⟩ := Nat.max_le.mp fits
  obtain ⟨releasedFits, later⟩ := Nat.max_le.mp later
  obtain ⟨methodsFit, later⟩ := Nat.max_le.mp later
  rw [Value.node, Schema.ofNode, entered]
  change (SchemaDraft.ofNodes left {} _).bind _ = _
  rw [SchemaDraft.ofNodes_written
    (s.version.read_back (Nat.le_trans (Nat.le_add_left 1 _) versionFits))
    (s.released.read_back (Nat.le_trans (Nat.le_add_left 1 _) releasedFits))
    (readList_back methodsGiven eachMethod methodsFit)
    (readList_back objectsGiven eachObject (Nat.max_le.mp later).1)]
  rfl

theorem readText_compact {α : Type} {write : α → Except Mismatch Value}
    {read : Nat → Node → Except ReadError α} {x : α} {v : Value} (restored : Restored write read x)
    (written : write x = .ok v) (shallow : v.nesting ≤ deepest) :
    readText read v.compact = .ok x := by
  obtain ⟨exact, back⟩ := restored v written
  rw [readText, ofText_compact exact]
  change (read deepest v.node).bind _ = _
  rw [back deepest shallow]
  rfl

theorem Schema.Portable.load_compact {s : Schema} (portable : s.Portable) {v : Value}
    (written : s.toValue = .ok v) : Schema.load v.compact = .ok s := by
  have back : readText Schema.ofNode v.compact = .ok s :=
    readText_compact (Schema.restored portable.noTypeParameters portable.floatsBare) written
      (portable.shallow v written)
  rw [Schema.load, back]
  change s.checkNames >>= _ = _
  rw [s.checkNames_eq_ok.mpr ⟨portable.methodNames, portable.objectNames⟩]
  rfl

/-- A portable schema is written, and what is written is loaded as the same schema. -/
theorem Schema.load_write (s : Schema) (portable : s.Portable) :
    ∃ text, s.write = .ok text ∧ Schema.load text = .ok s := by
  obtain ⟨v, written⟩ := s.writable_iff.mpr portable.noExpression
  have text : s.write = .ok v.compact := by
    rw [write, written]
    rfl
  exact ⟨v.compact, text, portable.load_compact written⟩

/-- Extreme integers, texts of every plane, attributes present and absent, each kind of object. -/
def Schema.specimen : Schema where
  version := ⟨4294967295, 0, 7⟩
  released := ⟨2024, 2, 29⟩
  methods := [
    ⟨"send\"Poll\"\n", "Опрос 🗳", "https://core.telegram.org/bots/api#sendpoll",
      [⟨"limit", "\u0001", true,
        .integer [Int64.minValue, -1] (some Int64.maxValue) none (some 0)⟩,
       ⟨"кто", "", false,
        .string ["\\", "日本"] (some "") (some 0) (some 18446744073709551615)⟩],
      .array (.anyOf [.reference "Message", .bool (some false), .float none none none])⟩]
  objects := [
    ⟨"Message", "", "", .properties [⟨"next", "", false, .array (.array (.reference "Message"))⟩],
      none⟩,
    ⟨"Answer", "", "", .anyOf [.reference "Message", .integer [] none none none], none⟩,
    ⟨"Nothing", "", "", .unknown, none⟩]

theorem Schema.load_write_specimen :
    specimen.Portable ∧ ∃ text, specimen.write = .ok text ∧ Schema.load text = .ok specimen := by
  have portable : specimen.Portable := by
    constructor
    · decide
    · decide
    · simp [specimen, fieldTypes, Method.parts, ObjectKind.parts, FieldType.parts,
        FieldType.partsOfAll]
    · decide
    · simp [FieldType.FloatsBare, specimen, fieldTypes, Method.parts, ObjectKind.parts,
        FieldType.parts, FieldType.partsOfAll]
    · intro v written
      cases written
      decide
  exact ⟨portable, load_write specimen portable⟩

end BotTypings
