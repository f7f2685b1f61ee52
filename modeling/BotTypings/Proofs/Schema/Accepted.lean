import BotTypings.Proofs.Schema.Loaded

/-! What an accepted text guarantees. Names do not repeat, no field type is a verbatim type text and no
object has type parameters. A text that can be read is refused for a repeated name alone: that of the
methods first, and of several the one whose repetition comes first. -/
namespace BotTypings

open BotTypings.Json

/-- Values are lists of values, records of values, or scalars. -/
theorem Json.Value.induct {P : Value → Prop}
    (list : ∀ items, (∀ v ∈ items, P v) → P (.list items))
    (record : ∀ members, (∀ member ∈ members, P member.2) → P (.record members))
    (scalar : ∀ v, v.isScalar → P v) (v : Value) : P v :=
  match v with
  | .list items => list items fun v _ => induct list record scalar v
  | .record members => record members fun member _ => induct list record scalar member.2
  | .null | .bool _ | .integer _ | .float _ | .text _ => scalar _ rfl
termination_by sizeOf v
decreasing_by
  · have := List.sizeOf_lt_of_mem ‹_›
    simp only [Value.list.sizeOf_spec]
    omega
  · have := List.sizeOf_lt_of_mem ‹member ∈ members›
    cases member
    simp only [Value.record.sizeOf_spec, Prod.mk.sizeOf_spec] at *
    omega

namespace FieldType

/-- No part is a verbatim type text. -/
def Described (parts : List FieldType) : Prop := ∀ text, expression text ∉ parts

theorem described_of_tag {t : FieldType} {tag : FieldTag} (spelled : fieldTags.ofText t.tag = .ok tag)
    (noArray : tag ≠ .array) (noUnion : tag ≠ .anyOf) : Described t.parts := by
  intro text
  cases t with
  | array _ =>
    cases spelled
    exact absurd rfl noArray
  | anyOf _ =>
    cases spelled
    exact absurd rfl noUnion
  | expression _ => cases spelled
  | _ => simp [parts]

theorem described_array {element : FieldType} (described : Described element.parts) :
    Described (array element).parts := by
  intro text
  simpa [parts] using described text

theorem described_anyOf {variants : List FieldType} (described : Described (partsOfAll variants)) :
    Described (anyOf variants).parts := by
  intro text
  simpa [parts] using described text

theorem described_all {ts : List FieldType} (each : ∀ t ∈ ts, Described t.parts) :
    Described (partsOfAll ts) := by
  intro text
  induction ts with
  | nil => exact nofun
  | cons t ts ih =>
    obtain ⟨first, others⟩ := List.forall_mem_cons.mp each
    rw [partsOfAll, List.mem_append, not_or]
    exact ⟨first text, ih others⟩

/-- No reader makes a verbatim type text; the arrays and unions it makes are of types that it reads
in the same way from values further inside. -/
theorem described_of_ofValue (v : Value) :
    (∀ t, ofValue v = .ok t → Described t.parts) ∧
      ∀ ts, listOfValue v = .ok ts → Described (partsOfAll ts) := by
  induction v using Value.induct with
  | list items ih =>
    constructor
    · intro t read
      cases items with
      | nil => cases read
      | cons head rest =>
        obtain ⟨tag, _, read⟩ := ofValue_list_eq_ok_iff.mp read
        by_cases isArray : tag = .array
        · subst isArray
          obtain ⟨v, element, rfl, inner, rfl⟩ := arrayOfItems_eq_ok_iff.mp read
          exact described_array ((ih v (by simp)).1 element inner)
        by_cases isUnion : tag = .anyOf
        · subst isUnion
          obtain ⟨v, variants, rfl, inner, rfl⟩ := anyOfOfItems_eq_ok_iff.mp read
          exact described_anyOf ((ih v (by simp)).2 variants inner)
        · exact described_of_tag (tag_of_ofItems read) isArray isUnion
    · intro ts read
      rw [listOfValue_eq_each] at read
      refine described_all fun t mem => ?_
      obtain ⟨v, inner, given⟩ := exists_of_mem_mapM read mem
      exact (ih v inner).1 t given
  | record members ih =>
    constructor
    · intro t read
      obtain ⟨tag, _, read⟩ := ofValue_record_eq_ok_iff.mp read
      by_cases isArray : tag = .array
      · subst isArray
        obtain ⟨element, given, rfl⟩ := (arrayOfMembers_eq_ok_iff members t).mp read
        obtain ⟨member, mem, _, inner⟩ := exists_of_given given
        exact described_array ((ih member mem).1 element inner)
      by_cases isUnion : tag = .anyOf
      · subst isUnion
        obtain ⟨variants, given, rfl⟩ := (anyOfOfMembers_eq_ok_iff members t).mp read
        obtain ⟨member, mem, _, inner⟩ := exists_of_given given
        exact described_anyOf ((ih member mem).2 variants inner)
      · exact described_of_tag (tag_of_ofMembers read) isArray isUnion
    · intro ts read
      cases read
  | scalar v isScalar =>
    constructor
    · intro t read
      cases v <;> first | cases read | cases isScalar
    · intro ts read
      cases v <;> first | cases read | cases isScalar

end FieldType

theorem Property.described {v : Value} {p : Property} (read : Property.ofValue v = .ok p) :
    FieldType.Described p.kind.parts := by
  cases v with
  | record members =>
    obtain ⟨_, kind, _⟩ := Property.ofValue_record.mp read
    exact (FieldType.described_of_ofValue _).1 p.kind kind
  | _ => cases read

theorem properties_described {fields : List Property}
    (each : ∀ p ∈ fields, FieldType.Described p.kind.parts) :
    FieldType.Described (fields.flatMap (·.kind.parts)) := by
  intro text mem
  obtain ⟨p, field, part⟩ := List.mem_flatMap.mp mem
  exact each p field text part

theorem ObjectKind.described {members : List (String × Value)} {k : ObjectKind}
    (read : ofRecord members = .ok k) : FieldType.Described k.parts := by
  obtain ⟨tag, _, read⟩ := ofRecord_eq_ok_iff.mp read
  cases tag with
  | properties =>
    obtain ⟨fields, given, rfl⟩ := (propertiesOfMembers_eq_ok_iff members k).mp read
    refine properties_described fun p mem => ?_
    cases fields with
    | none => cases mem
    | some fields =>
      obtain ⟨member, _, _, listed⟩ := exists_of_given given
      obtain ⟨vs, _, each⟩ := Value.each_eq_ok_iff.mp listed
      obtain ⟨v, _, read⟩ := exists_of_mem_mapM each mem
      exact Property.described read
  | anyOf =>
    obtain ⟨variants, given, rfl⟩ := (variantsOfMembers_eq_ok_iff members k).mp read
    obtain ⟨member, _, _, listed⟩ := exists_of_given given
    exact (FieldType.described_of_ofValue member.2).2 variants listed
  | unknown =>
    cases read
    exact nofun

theorem Object.described {room : Nat} {n : Node} {o : Object} (read : Object.ofNode room n = .ok o) :
    FieldType.Described o.kind.parts ∧ o.typeParameters = none := by
  obtain ⟨v, _, read⟩ := Object.ofNode_eq_ok_iff.mp read
  cases v with
  | record members =>
    obtain ⟨_, kind, _, _, unparameterised⟩ := Object.ofValue_record.mp read
    exact ⟨ObjectKind.described kind, unparameterised⟩
  | _ => cases read

/-- Every item of a list in the text was read where it stands. -/
theorem exists_of_mem_readList {α : Type} {room : Nat} {read : Nat → Node → Except ReadError α}
    {n : Node} {xs : List α} (listed : readList room read n = .ok xs) {x : α} (mem : x ∈ xs) :
    ∃ left n, read left n = .ok x := by
  obtain ⟨left, items, _, _, each⟩ := readList_eq_ok_iff.mp listed
  obtain ⟨n, _, given⟩ := exists_of_mem_mapM each mem
  exact ⟨left, n, given⟩

/-- Every item of a list that a member gave, or of an absent one, was read somewhere. -/
theorem exists_of_mem_given {α : Type} {room : Nat} {read : Nat → Node → Except ReadError α}
    {mine : Key → Bool} {members : List (Key × Node)} {found : Option (List α)}
    (all : given mine (readList room read) members = held found) {x : α} (mem : x ∈ found.getD []) :
    ∃ left n, read left n = .ok x := by
  cases found with
  | none => cases mem
  | some xs =>
    obtain ⟨member, _, _, listed⟩ := exists_of_given all
    exact exists_of_mem_readList listed mem

theorem parameters_described {parameters : List Property}
    (each : ∀ p ∈ parameters, ∃ left n, Property.ofNode left n = .ok p) :
    FieldType.Described (parameters.flatMap (·.kind.parts)) := by
  refine properties_described fun p mem => ?_
  obtain ⟨left, n, read⟩ := each p mem
  obtain ⟨v, _, read⟩ := Property.ofNode_eq_ok_iff.mp read
  exact Property.described read

theorem returns_described {room : Nat} {n : Node} {t : FieldType}
    (read : FieldType.ofNode room n = .ok t) : FieldType.Described t.parts := by
  obtain ⟨v, _, _, read⟩ := FieldType.ofNode_eq_ok_iff.mp read
  exact (FieldType.described_of_ofValue v).1 t read

theorem Method.described {room : Nat} {n : Node} {m : Method} (read : Method.ofNode room n = .ok m) :
    FieldType.Described m.parts := by
  have both (parameters : FieldType.Described (m.parameters.flatMap (·.kind.parts)))
      (returns : FieldType.Described m.returns.parts) : FieldType.Described m.parts := by
    intro text mem
    rcases List.mem_append.mp mem with inner | inner
    · exact parameters text inner
    · exact returns text inner
  cases n with
  | record members ending =>
    obtain ⟨left, _, _, _, _, _, _, ⟨parameters, given, same⟩, answered⟩ :=
      Method.ofNode_record.mp read
    obtain ⟨member, _, _, returns⟩ := exists_of_given answered
    refine both (parameters_described fun p mem => ?_) (returns_described returns)
    rw [same] at mem
    exact exists_of_mem_given given mem
  | list items ending =>
    obtain ⟨left, _, _, _, _, _, parameters, answered, _, _, _, _, listed, returns⟩ :=
      Method.ofNode_list.mp read
    exact both (parameters_described fun p mem => exists_of_mem_readList listed mem)
      (returns_described returns)
  | _ => exact absurd read refuse_ne_ok

/-- Methods and objects of a schema were all read somewhere in the text. -/
theorem Schema.exists_parts {room : Nat} {n : Node} {s : Schema}
    (read : Schema.ofNode room n = .ok s) :
    (∀ m ∈ s.methods, ∃ left n, Method.ofNode left n = .ok m) ∧
      ∀ o ∈ s.objects, ∃ left n, Object.ofNode left n = .ok o := by
  cases n with
  | record members ending =>
    obtain ⟨left, _, _, _, _, _, ⟨methods, methodsGiven, methodsSame⟩, objects, objectsGiven,
      objectsSame⟩ := Schema.ofNode_record.mp read
    rw [methodsSame, objectsSame]
    exact ⟨fun m mem => exists_of_mem_given methodsGiven mem,
      fun o mem => exists_of_mem_given objectsGiven mem⟩
  | list items ending =>
    obtain ⟨left, _, _, _, _, rest, _, _, _, defaults⟩ := Schema.ofNode_list.mp read
    rcases defaults with ⟨_, noMethods, noObjects⟩ | ⟨methods, _, methodsRead, noObjects⟩ |
      ⟨methods, objects, _, methodsRead, objectsRead⟩
    · rw [noMethods, noObjects]
      exact ⟨nofun, nofun⟩
    · rw [noObjects]
      exact ⟨fun m mem => exists_of_mem_readList methodsRead mem, nofun⟩
    · exact ⟨fun m mem => exists_of_mem_readList methodsRead mem,
        fun o mem => exists_of_mem_readList objectsRead mem⟩
  | _ => exact absurd read refuse_ne_ok

theorem Schema.described {room : Nat} {n : Node} {s : Schema} (read : Schema.ofNode room n = .ok s) :
    FieldType.Described s.fieldTypes ∧ ∀ o ∈ s.objects, o.typeParameters = none := by
  obtain ⟨methods, objects⟩ := Schema.exists_parts read
  constructor
  · intro text mem
    rcases List.mem_append.mp mem with inner | inner
    · obtain ⟨m, mem, part⟩ := List.mem_flatMap.mp inner
      obtain ⟨left, n, read⟩ := methods m mem
      exact Method.described read text part
    · obtain ⟨o, mem, part⟩ := List.mem_flatMap.mp inner
      obtain ⟨left, n, read⟩ := objects o mem
      exact (Object.described read).1 text part
  · intro o mem
    obtain ⟨left, n, read⟩ := objects o mem
    exact (Object.described read).2

/-- The name at the first position whose name stood before. -/
def FirstRepeat (names : List String) (name : String) : Prop :=
  ∃ before after, names = before ++ name :: after ∧ before.Nodup ∧ name ∈ before

theorem firstRepeated_eq_some {seen names : List String} {name : String} :
    firstRepeated seen names = some name ↔
      ∃ before after, names = before ++ name :: after ∧
        firstRepeated seen before = none ∧ (name ∈ before ∨ name ∈ seen) := by
  induction names generalizing seen with
  | nil =>
    constructor
    · exact nofun
    · rintro ⟨before, _, impossible, _⟩
      cases before <;> cases impossible
  | cons first rest ih =>
    rw [firstRepeated]
    by_cases known : first ∈ seen
    · rw [if_pos known]
      constructor
      · intro same
        cases same
        exact ⟨[], rest, rfl, rfl, .inr known⟩
      · rintro ⟨before, after, same, new, _⟩
        cases before with
        | nil =>
          cases same
          rfl
        | cons head _ =>
          cases same
          rw [firstRepeated, if_pos known] at new
          cases new
    · rw [if_neg known, ih]
      constructor
      · rintro ⟨before, after, rfl, new, old⟩
        refine ⟨first :: before, after, rfl, ?_, ?_⟩
        · rw [firstRepeated, if_neg known]
          exact new
        · rcases old with inner | old
          · exact .inl (List.mem_cons_of_mem _ inner)
          rcases List.mem_cons.mp old with here | old
          · exact .inl (here ▸ List.mem_cons_self)
          · exact .inr old
      · rintro ⟨before, after, same, new, old⟩
        cases before with
        | nil =>
          cases same
          rcases old with impossible | old
          · cases impossible
          · exact absurd old known
        | cons head before =>
          cases same
          rw [firstRepeated, if_neg known] at new
          refine ⟨before, after, rfl, new, ?_⟩
          simpa only [List.mem_cons, or_assoc, or_left_comm] using old

theorem firstRepeated_iff {names : List String} {name : String} :
    firstRepeated [] names = some name ↔ FirstRepeat names name := by
  rw [firstRepeated_eq_some]
  simp only [firstRepeated_eq_none, FirstRepeat, List.not_mem_nil, or_false, not_false_eq_true,
    implies_true, and_true]

theorem Schema.load_eq_of_read {text : String} {s : Schema}
    (read : readText Schema.ofNode text = .ok s) :
    Schema.load text = s.checkNames.map fun _ => s := by
  rw [Schema.load, read]
  change s.checkNames >>= _ = _
  cases s.checkNames <;> rfl

theorem Schema.checkNames_eq_method_iff {s : Schema} {name : String} :
    s.checkNames = .error (.repeatedName .method name) ↔
      FirstRepeat (s.methods.map (·.name)) name := by
  rw [← firstRepeated_iff, checkNames]
  cases firstRepeated [] (s.methods.map (·.name)) with
  | some other => simp
  | none => cases firstRepeated [] (s.objects.map (·.name)) <;> simp

theorem Schema.checkNames_eq_object_iff {s : Schema} {name : String} :
    s.checkNames = .error (.repeatedName .object name) ↔
      (s.methods.map (·.name)).Nodup ∧ FirstRepeat (s.objects.map (·.name)) name := by
  have unseen : (s.methods.map (·.name)).Nodup ↔
      firstRepeated [] (s.methods.map (·.name)) = none := by simp [firstRepeated_eq_none]
  rw [unseen, ← firstRepeated_iff, checkNames]
  cases firstRepeated [] (s.methods.map (·.name)) with
  | some other => simp
  | none => cases firstRepeated [] (s.objects.map (·.name)) <;> simp

/-- What loading guarantees, and which of the readable texts it accepts. -/
theorem Schema.load_guarantees (text : String) :
    (∀ s, Schema.load text = .ok s →
      (s.methods.map (·.name)).Nodup ∧ (s.objects.map (·.name)).Nodup ∧
        (∀ t, .expression t ∉ s.fieldTypes) ∧ ∀ o ∈ s.objects, o.typeParameters = none) ∧
    ∀ s, readText Schema.ofNode text = .ok s →
      (Schema.load text = .ok s ↔
        (s.methods.map (·.name)).Nodup ∧ (s.objects.map (·.name)).Nodup) ∧
      (∀ name, Schema.load text = .error (.repeatedName .method name) ↔
        FirstRepeat (s.methods.map (·.name)) name) ∧
      (∀ name, Schema.load text = .error (.repeatedName .object name) ↔
        (s.methods.map (·.name)).Nodup ∧ FirstRepeat (s.objects.map (·.name)) name) ∧
      (Schema.load text = .ok s ∨
        ∃ kind name, Schema.load text = .error (.repeatedName kind name)) := by
  constructor
  · intro s loaded
    obtain ⟨methods, objects⟩ := Schema.names_of_load loaded
    obtain ⟨s, read, checked⟩ := bind_eq_ok.mp loaded
    obtain ⟨_, _, same⟩ := bind_eq_ok.mp checked
    cases same
    obtain ⟨s, read, ended⟩ := bind_eq_ok.mp (mapError_eq_ok.mp read)
    split at ended
    · cases ended
    · cases ended
      obtain ⟨described, unparameterised⟩ := Schema.described read
      exact ⟨methods, objects, described, unparameterised⟩
  · intro s read
    rw [Schema.load_eq_of_read read, ← Schema.checkNames_eq_ok]
    refine ⟨?_, fun name => ?_, fun name => ?_, ?_⟩
    · cases s.checkNames <;> simp [Except.map]
    · rw [← Schema.checkNames_eq_method_iff]
      cases s.checkNames <;> simp [Except.map]
    · rw [← Schema.checkNames_eq_object_iff]
      cases s.checkNames <;> simp [Except.map]
    · rw [Schema.checkNames]
      cases firstRepeated [] (s.methods.map (·.name)) with
      | some name => exact .inr ⟨.method, name, rfl⟩
      | none =>
        cases firstRepeated [] (s.objects.map (·.name)) with
        | some name => exact .inr ⟨.object, name, rfl⟩
        | none => exact .inl rfl

/-- A method named like an object. -/
def Schema.namesakes : Schema where
  version := ⟨9, 1, 0⟩
  released := ⟨2025, 7, 3⟩
  methods := [⟨"Message", "", "", [⟨"id", "", true, .plainInteger⟩], .array (.reference "Message")⟩]
  objects := [⟨"Message", "", "", .anyOf [.plainString], none⟩]

/-- Repeated names of both kinds; the first method to repeat is not the first to be repeated. -/
def Schema.crowded : Schema where
  version := ⟨9, 1, 0⟩
  released := ⟨2025, 7, 3⟩
  methods := ["close", "logOut", "logOut", "close"].map fun name => ⟨name, "", "", [], .bool none⟩
  objects := ["User", "User"].map fun name => ⟨name, "", "", .unknown, none⟩

theorem Schema.load_guarantees_namesakes :
    (∃ text, Schema.load text = .ok namesakes ∧ (∀ t, .expression t ∉ namesakes.fieldTypes) ∧
      ∀ o ∈ namesakes.objects, o.typeParameters = none) ∧
    ∃ text, readText Schema.ofNode text = .ok crowded ∧
      Schema.load text = .error (.repeatedName .method "logOut") := by
  have readable (s : Schema) (unparameterised : ∀ o ∈ s.objects, o.typeParameters = none)
      (bare : FieldType.FloatsBare s.fieldTypes) {v : Value} (written : s.toValue = .ok v)
      (shallow : v.nesting ≤ deepest) : ∃ text, readText Schema.ofNode text = .ok s :=
    ⟨v.compact, readText_compact (Schema.restored unparameterised bare) written shallow⟩
  constructor
  · obtain ⟨text, read⟩ := readable namesakes (by decide)
      (by simp [FieldType.FloatsBare, namesakes, fieldTypes, Method.parts, ObjectKind.parts,
        FieldType.parts, FieldType.partsOfAll, FieldType.plainInteger, FieldType.plainString])
      rfl (by decide)
    have loaded : Schema.load text = .ok namesakes :=
      ((Schema.load_guarantees text).2 namesakes read).1.mpr (by decide)
    obtain ⟨_, _, described, unparameterised⟩ := (Schema.load_guarantees text).1 namesakes loaded
    exact ⟨text, loaded, described, unparameterised⟩
  · obtain ⟨text, read⟩ := readable crowded (by decide)
      (by simp [FieldType.FloatsBare, crowded, fieldTypes, Method.parts, ObjectKind.parts,
        FieldType.parts])
      rfl (by decide)
    exact ⟨text, read, (((Schema.load_guarantees text).2 crowded read).2.1 "logOut").mpr
      ⟨["close", "logOut"], ["close"], rfl, by decide, by decide⟩⟩

end BotTypings
