import BotTypings.Proofs.Json.Tree
import BotTypings.Proofs.Schema.Parts
import BotTypings.Schema.Reading

/-! Field types read back from what is written for them, in memory and in a text. A written field
type is a record of its tag and of attributes that describe it; absent attributes and empty
enumerations leave no trace and are read as absent and empty. Floats are covered as far as nothing
rides on them: a default or a bound is written as a decimal, which need not be read as the same
double. -/
namespace BotTypings

open BotTypings.Json BotTypings.Decimal

theorem text_exact (s : String) : (Value.text s).Exact := trivial

theorem bool_exact (b : Bool) : (Value.bool b).Exact := trivial

theorem asText_text (s : String) : Value.scalar Found.asText (.text s) = .ok s := rfl

theorem asInteger_written {α : Type} {low high n : Int} (wanted : String) {make : Int → α} {x : α}
    (above : low ≤ n) (below : n ≤ high) (back : make n = x) :
    Found.asInteger low high wanted make (.integer n) = .ok x := by
  rw [Found.asInteger, if_pos ⟨above, below⟩, back]

theorem int64_bounds (n : Int64) : signedMin 64 ≤ n.toInt ∧ n.toInt ≤ signedMax 64 :=
  ⟨n.le_toInt, Int.le_of_lt_add_one n.toInt_lt⟩

theorem asInt64_written (n : Int64) : Value.scalar Found.asInt64 (int64Value n) = .ok n :=
  asInteger_written "i64" (int64_bounds n).1 (int64_bounds n).2 (Int64.ofInt_toInt n)

theorem int64_exact (n : Int64) : (int64Value n).Exact := by
  have low := n.le_toInt
  have high := n.toInt_lt
  constructor
  · exact low
  · exact Int.lt_trans high (by decide)

theorem asUInt64_written (n : UInt64) : Value.scalar Found.asUInt64 (uint64Value n) = .ok n := by
  change Found.asInteger 0 (unsignedMax 64) "u64" (fun n => UInt64.ofNat n.toNat)
    (.integer n.toNat) = .ok n
  refine asInteger_written "u64" (Int.natCast_nonneg _) ?_ UInt64.ofNat_toNat
  have high := n.toNat_lt
  change (n.toNat : Int) ≤ 18446744073709551615
  omega

theorem uint64_exact (n : UInt64) : (uint64Value n).Exact := by
  have high := n.toNat_lt
  constructor
  · change (-9223372036854775808 : Int) ≤ n.toNat
    omega
  · change (n.toNat : Int) < 18446744073709551616
    omega

theorem asUInt32_written (n : UInt32) : Value.scalar Found.asUInt32 (uint32Value n) = .ok n := by
  change Found.asInteger 0 (unsignedMax 32) "u32" (fun n => UInt32.ofNat n.toNat)
    (.integer n.toNat) = .ok n
  refine asInteger_written "u32" (Int.natCast_nonneg _) ?_ UInt32.ofNat_toNat
  have high := n.toNat_lt
  change (n.toNat : Int) ≤ 4294967295
  omega

theorem uint32_exact (n : UInt32) : (uint32Value n).Exact := by
  have high := n.toNat_lt
  constructor
  · change (-9223372036854775808 : Int) ≤ n.toNat
    omega
  · change (n.toNat : Int) < 18446744073709551616
    omega

theorem mapM_written {α : Type} {read : Value → Except Mismatch α} {write : α → Value}
    (back : ∀ x, read (write x) = .ok x) (xs : List α) : (xs.map write).mapM read = .ok xs := by
  induction xs with
  | nil => rfl
  | cons x xs ih => exact mapM_cons_eq_ok.mpr ⟨x, xs, back x, ih, rfl⟩

section Attributes

variable {δ α : Type} (add : δ → String × Value → Except Mismatch δ) (name : String)
  (write : α → Value) (set : δ → Option α → δ) (d : δ)

/-- Reading goes on behind an optional member with the draft that holds it. -/
theorem foldlM_optionalMember (absent : set d none = d)
    (present : ∀ x, add d (name, write x) = .ok (set d (some x))) (given : Option α)
    (rest : List (String × Value)) :
    (optionalMember name write given ++ rest).foldlM add d = rest.foldlM add (set d given) := by
  cases given with
  | none => rw [absent]; rfl
  | some x =>
    rw [optionalMember, List.singleton_append, List.foldlM_cons, present]
    rfl

/-- Reading goes on behind a listed member with the draft that holds it. -/
theorem foldlM_listMember (set : δ → List α → δ) (absent : set d [] = d)
    (present : ∀ x xs, add d (name, .list ((x :: xs).map write)) = .ok (set d (x :: xs)))
    (given : List α)
    (rest : List (String × Value)) :
    (listMember name write given ++ rest).foldlM add d = rest.foldlM add (set d given) := by
  cases given with
  | nil => rw [absent]; rfl
  | cons x xs =>
    rw [listMember, List.singleton_append, List.foldlM_cons, present]
    · rfl
    · exact fun none => nomatch none

end Attributes

namespace FieldType

/-- A list as an attribute holds it: an empty one is not there. -/
def listed {α : Type} : List α → Option (List α)
  | [] => none
  | xs => some xs

theorem listed_getD {α : Type} (xs : List α) : (listed xs).getD [] = xs := by
  cases xs <;> rfl

theorem join_given {α : Type} (x : Option α) : (x.map some).join = x := by
  cases x <;> rfl

theorem integerOfMembers_written (enumeration : List Int64) (default min max : Option Int64) :
    integerOfMembers (listMember "enumeration" int64Value enumeration ++
      optionalMember "default" int64Value default ++ optionalMember "min" int64Value min ++
      optionalMember "max" int64Value max) = .ok (integer enumeration default min max) := by
  have bound (n : Int64) : (int64Value n).optional (Value.scalar Found.asInt64) = .ok (some n) := by
    change (Value.scalar Found.asInt64 (int64Value n)).map some = _
    rw [asInt64_written]
    rfl
  have list (xs : List Int64) : int64s (.list (xs.map int64Value)) = .ok xs :=
    mapM_written asInt64_written xs
  rw [integerOfMembers, List.append_assoc, List.append_assoc,
    foldlM_listMember IntegerDraft.add "enumeration" int64Value {}
      (fun d xs => { d with enumeration := listed xs }) rfl
      (fun x xs => by simp only [IntegerDraft.add, if_true, list]; rfl),
    foldlM_optionalMember IntegerDraft.add "default" int64Value
      (fun d x => { d with default := x.map some }) _ rfl
      (fun x => by simp only [IntegerDraft.add, String.reduceEq, if_true, if_false, bound]; rfl),
    foldlM_optionalMember IntegerDraft.add "min" int64Value
      (fun d x => { d with min := x.map some }) _ rfl
      (fun x => by simp only [IntegerDraft.add, String.reduceEq, if_true, if_false, bound]; rfl),
    ← List.append_nil (optionalMember "max" int64Value max),
    foldlM_optionalMember IntegerDraft.add "max" int64Value
      (fun d x => { d with max := x.map some }) _ rfl
      (fun x => by simp only [IntegerDraft.add, String.reduceEq, if_true, if_false, bound]; rfl)]
  change Except.ok (integer ((listed enumeration).getD []) (default.map some).join
    (min.map some).join
    (max.map some).join) = _
  rw [listed_getD, join_given, join_given, join_given]

theorem stringOfMembers_written (enumeration : List String) (default : Option String)
    (minLength maxLength : Option UInt64) :
    stringOfMembers (listMember "enumeration" Value.text enumeration ++
      optionalMember "default" Value.text default ++
      optionalMember "min_len" uint64Value minLength ++
      optionalMember "max_len" uint64Value maxLength) =
        .ok (string enumeration default minLength maxLength) := by
  have length (n : UInt64) :
      (uint64Value n).optional (Value.scalar Found.asUInt64) = .ok (some n) := by
    change (Value.scalar Found.asUInt64 (uint64Value n)).map some = _
    rw [asUInt64_written]
    rfl
  have list (xs : List String) : texts (.list (xs.map Value.text)) = .ok xs :=
    mapM_written asText_text xs
  rw [stringOfMembers, List.append_assoc, List.append_assoc,
    foldlM_listMember StringDraft.add "enumeration" Value.text {}
      (fun d xs => { d with enumeration := listed xs }) rfl
      (fun x xs => by simp only [StringDraft.add, if_true, list]; rfl),
    foldlM_optionalMember StringDraft.add "default" Value.text
      (fun d x => { d with default := x.map some }) _ rfl
      (fun x => by simp only [StringDraft.add, String.reduceEq, if_true, if_false]; rfl),
    foldlM_optionalMember StringDraft.add "min_len" uint64Value
      (fun d x => { d with minLength := x.map some }) _ rfl
      (fun x => by simp only [StringDraft.add, String.reduceEq, if_true, if_false, length]; rfl),
    ← List.append_nil (optionalMember "max_len" uint64Value maxLength),
    foldlM_optionalMember StringDraft.add "max_len" uint64Value
      (fun d x => { d with maxLength := x.map some }) _ rfl
      (fun x => by simp only [StringDraft.add, String.reduceEq, if_true, if_false, length]; rfl)]
  change Except.ok (string ((listed enumeration).getD []) (default.map some).join
    (minLength.map some).join (maxLength.map some).join) = _
  rw [listed_getD, join_given, join_given, join_given]

theorem boolOfMembers_written (default : Option Bool) :
    boolOfMembers none (optionalMember "default" Value.bool default) = .ok (bool default) := by
  cases default <;> rfl

end FieldType

/-- The names that a property and a tag keep for themselves. -/
def ownNames : List String := ["name", "description", "required", "type"]

/-- Members that describe a field type: exact values under names that nothing else uses. -/
structure AreAttributes (members : List (String × Value)) : Prop where
  exact : MembersExact members
  foreign : ∀ member ∈ members, member.1 ∉ ownNames

namespace AreAttributes

theorem nil : AreAttributes [] := ⟨trivial, nofun⟩

theorem cons {name : String} {v : Value} {members : List (String × Value)} (exact : v.Exact)
    (foreign : name ∉ ownNames) (rest : AreAttributes members) :
    AreAttributes ((name, v) :: members) :=
  ⟨⟨exact, rest.exact⟩, List.forall_mem_cons.mpr ⟨foreign, rest.foreign⟩⟩

theorem append {front back : List (String × Value)} (h : AreAttributes front)
    (k : AreAttributes back) :
    AreAttributes (front ++ back) := by
  induction front with
  | nil => exact k
  | cons member front ih =>
    have first := List.forall_mem_cons.mp h.foreign
    exact cons h.exact.1 first.1 (ih ⟨h.exact.2, first.2⟩)

theorem optional {α : Type} {name : String} {write : α → Value} (foreign : name ∉ ownNames)
    (exact : ∀ x, (write x).Exact) (given : Option α) :
    AreAttributes (optionalMember name write given) := by
  cases given with
  | none => exact nil
  | some x => exact cons (exact x) foreign nil

theorem listed {α : Type} {name : String} {write : α → Value} (foreign : name ∉ ownNames)
    (exact : ∀ x, (write x).Exact) (given : List α) :
    AreAttributes (listMember name write given) := by
  have items (xs : List α) : ItemsExact (xs.map write) := by
    induction xs with
    | nil => trivial
    | cons x xs ih => exact ⟨exact x, ih⟩
  cases given with
  | nil => exact nil
  | cons x xs => exact cons (items (x :: xs)) foreign nil

end AreAttributes

namespace FieldType

/-- The attributes are those of the type under the tag that its own tag spells. -/
structure WrittenAs (t : FieldType) (tag : FieldTag) (attributes : List (String × Value)) :
    Prop where
  spelled : fieldTags.ofText t.tag = .ok tag
  plain : AreAttributes attributes
  read : ofMembers tag attributes = .ok t

theorem search_attributes {attributes : List (String × Value)} (plain : AreAttributes attributes)
    (tag : FieldTag) : fieldTags.search (some tag) attributes = .ok tag := by
  induction attributes with
  | nil => rfl
  | cons member rest ih =>
    obtain ⟨key, v⟩ := member
    obtain ⟨here, behind⟩ := List.forall_mem_cons.mp plain.foreign
    have other : key ≠ "type" := by
      rintro rfl
      exact here (show "type" ∈ ownNames by decide)
    rw [Tagging.search, if_neg other]
    exact ih ⟨plain.exact.2, behind⟩

/-- No field type has an attribute named like its tag. -/
theorem ofMembers_tag (tag : FieldTag) (v : Value) (attributes : List (String × Value)) :
    ofMembers tag (("type", v) :: attributes) = ofMembers tag attributes := by
  cases tag <;> rfl

theorem ofValue_record (members : List (String × Value)) :
    ofValue (.record members) =
      fieldTags.search none members >>= fun tag => ofMembers tag members := by
  rw [ofValue]
  cases fieldTags.search none members with
  | error _ => rfl
  | ok tag => cases tag <;> rfl

theorem WrittenAs.ofRecord {t : FieldType} {tag : FieldTag} {attributes : List (String × Value)}
    (written : t.WrittenAs tag attributes) :
    ofRecord (("type", .text t.tag) :: attributes) = .ok t := by
  have found : fieldTags.search none (("type", .text t.tag) :: attributes) = .ok tag := by
    rw [Tagging.search, if_pos rfl]
    change (fieldTags.ofText t.tag).bind _ = _
    rw [written.spelled]
    exact search_attributes written.plain tag
  rw [FieldType.ofRecord, ofValue_record, found]
  change ofMembers tag _ = _
  rw [ofMembers_tag, written.read]

/-- Nothing rides on any float of the types. -/
def FloatsBare (ts : List FieldType) : Prop :=
  ∀ d a b, float d a b ∈ ts → d = none ∧ a = none ∧ b = none

mutual

theorem writtenAs : (t : FieldType) → (ms : List (String × Value)) → t.members = .ok ms →
    FloatsBare t.parts →
    ∃ tag attributes, ms = ("type", .text t.tag) :: attributes ∧ t.WrittenAs tag attributes
  | integer e d a b, _, written, _ => by
    cases written
    refine ⟨.integer, _, rfl, rfl, ?_, integerOfMembers_written e d a b⟩
    exact (((AreAttributes.listed (by decide) int64_exact e).append
      (.optional (by decide) int64_exact d)).append (.optional (by decide) int64_exact a)).append
      (.optional (by decide) int64_exact b)
  | float d a b, _, written, bare => by
    cases written
    obtain ⟨rfl, rfl, rfl⟩ := bare d a b (by simp [parts])
    exact ⟨.float, _, rfl, rfl, .nil, rfl⟩
  | string e d a b, _, written, _ => by
    cases written
    refine ⟨.string, _, rfl, rfl, ?_, stringOfMembers_written e d a b⟩
    exact (((AreAttributes.listed (by decide) text_exact e).append
      (.optional (by decide) text_exact d)).append (.optional (by decide) uint64_exact a)).append
      (.optional (by decide) uint64_exact b)
  | bool d, _, written, _ => by
    cases written
    exact ⟨.bool, _, rfl, rfl, .optional (by decide) bool_exact d, boolOfMembers_written d⟩
  | reference name, _, written, _ => by
    cases written
    exact ⟨.reference, _, rfl, rfl, .cons trivial (by decide) .nil, rfl⟩
  | array element, ms, written, bare => by
    rw [members] at written
    obtain ⟨inner, below, same⟩ := bind_eq_ok.mp written
    cases same
    obtain ⟨tag, attributes, shape, under⟩ := writtenAs element inner below
      fun d a b mem => bare d a b (List.mem_cons_of_mem _ mem)
    have exact : (Value.record inner).Exact := by
      rw [shape]
      exact ⟨trivial, under.plain.exact⟩
    refine ⟨.array, _, rfl, rfl, .cons exact (by decide) .nil, ?_⟩
    have back : ofValue (.record inner) = .ok element := shape ▸ under.ofRecord
    change arrayOfMembers none [("array", .record inner)] = _
    rw [arrayOfMembers, if_pos rfl, back]
    rfl
  | anyOf variants, ms, written, bare => by
    rw [members] at written
    obtain ⟨inner, below, same⟩ := bind_eq_ok.mp written
    cases same
    obtain ⟨exact, back⟩ := allWrittenAs variants inner below
      fun d a b mem => bare d a b (List.mem_cons_of_mem _ mem)
    refine ⟨.anyOf, _, rfl, rfl, .cons (v := .list inner) exact (by decide) .nil, ?_⟩
    change anyOfOfMembers none [("any_of", .list inner)] = _
    rw [anyOfOfMembers, if_pos rfl, listOfValue, back]
    rfl

theorem allWrittenAs : (ts : List FieldType) → (vs : List Value) → valuesOfAll ts = .ok vs →
    FloatsBare (partsOfAll ts) → ItemsExact vs ∧ allOfItems vs = .ok ts
  | [], _, written, _ => by
    cases written
    exact ⟨trivial, rfl⟩
  | t :: ts, vs, written, bare => by
    rw [valuesOfAll] at written
    obtain ⟨ms, first, more⟩ := bind_eq_ok.mp written
    obtain ⟨rest, others, same⟩ := bind_eq_ok.mp more
    cases same
    obtain ⟨tag, attributes, rfl, under⟩ := writtenAs t ms first
      fun d a b mem => bare d a b (List.mem_append_left _ mem)
    obtain ⟨exact, back⟩ := allWrittenAs ts rest others
      fun d a b mem => bare d a b (List.mem_append_right _ mem)
    refine ⟨⟨⟨trivial, under.plain.exact⟩, exact⟩, ?_⟩
    have read : ofValue (.record (("type", .text t.tag) :: attributes)) = .ok t := under.ofRecord
    rw [allOfItems, read, back]
    rfl

end

theorem membersOfNodes_attributes {room : Nat} {attributes : List (String × Value)}
    (plain : AreAttributes attributes) (shallow : membersNesting attributes ≤ room) (tag : FieldTag)
    (others : List (String × Value)) :
    membersOfNodes room (some tag) others (memberNodes attributes) =
      .ok (some tag, others ++ attributes) := by
  induction attributes generalizing others with
  | nil => rw [List.append_nil]; rfl
  | cons member rest ih =>
    obtain ⟨key, v⟩ := member
    obtain ⟨here, behind⟩ := List.forall_mem_cons.mp plain.foreign
    obtain ⟨first, later⟩ := Nat.max_le.mp shallow
    have other : key ≠ "type" := by
      rintro rfl
      exact here (show "type" ∈ ownNames by decide)
    have step : membersOfNodes room (some tag) others (memberNodes ((key, v) :: rest)) =
        (faulty (v.node.load room)).bind fun w =>
          membersOfNodes room (some tag) (others ++ [(key, w)]) (memberNodes rest) := by
      rw [memberNodes, membersOfNodes]
      exact if_neg other
    rw [step, load_node v plain.exact.1 room first]
    change membersOfNodes room (some tag) (others ++ [(key, v)]) (memberNodes rest) = _
    rw [ih ⟨plain.exact.2, behind⟩ later, List.append_assoc]
    rfl

theorem WrittenAs.ofNode {t : FieldType} {tag : FieldTag} {attributes : List (String × Value)}
    (written : t.WrittenAs tag attributes) {room : Nat}
    (shallow : (Value.record (("type", .text t.tag) :: attributes)).nesting ≤ room) :
    FieldType.ofNode room (Value.record (("type", .text t.tag) :: attributes)).node = .ok t := by
  obtain ⟨left, entered, fits⟩ := enter_room shallow
  have members : membersOfNodes left none [] (memberNodes (("type", .text t.tag) :: attributes)) =
      .ok (some tag, attributes) := by
    have step : membersOfNodes left none [] (memberNodes (("type", .text t.tag) :: attributes)) =
        (mismatched (fieldTags.ofText t.tag)).bind fun found =>
          membersOfNodes left (some found) [] (memberNodes attributes) := rfl
    rw [step, written.spelled]
    exact membersOfNodes_attributes written.plain (Nat.max_le.mp fits).2 tag []
  rw [Value.node, FieldType.ofNode, entered]
  change (membersOfNodes left none []
    (memberNodes (("type", .text t.tag) :: attributes))).bind _ = _
  rw [members]
  change mismatched (ofMembers tag attributes) = _
  rw [written.read]
  rfl

end FieldType

end BotTypings
