import BotTypings.Proofs.Schema.Alterations
import BotTypings.Schema.Loading
import Mathlib.Data.List.Perm.Basic
import Mathlib.Logic.Relation

/-! Documents that say the same. A document may be rewritten by putting the members of any of its records
in another order, by inserting foreign members into the records that the model knows, and by going from
one alias to another. Whatever could be loaded before is loaded still, as the same schema.

Four ways of reading meet here: what stands in the text is read or skipped, and what is loaded is read
from memory or left alone. The induction is over the rewriting, and its invariant says for each place
what is kept there. -/
namespace BotTypings

open BotTypings.Json

namespace Place

/-- A record at the place is one of the model's. -/
def isModel : Place → Bool
  | schema | version | date | method | object | property | type | returns => true
  | _ => false

/-- What stands at the place is read in the text, and what is foreign there is skipped. -/
def inText : Place → Bool
  | schema | version | date | methods | method => true
  | _ => false

/-- A node can be passed over as a foreign member of a record at the place. -/
def Fits (p : Place) (room : Nat) (n : Node) : Prop :=
  if p.inText then n.skip = .ok () else ∃ v, n.load room = .ok v

end Place

/-- One rewriting of a node that stands at a place with so much room. -/
inductive Rewritten : Place → Nat → Node → Node → Prop
  | permute {p room members others ending} (same : members.Perm others) :
    Rewritten p room (.record members ending) (.record others ending)
  | insert {p room front back ending name n} (model : p.isModel) (new : name ∉ modelNames)
    (fits : p.Fits (room - 1) n) :
    Rewritten p room (.record (front ++ back) ending)
      (.record (front ++ (.ok name, n) :: back) ending)
  | rename {p room front back ending name other n} (meant : p.Alias name other) :
    Rewritten p room (.record (front ++ (.ok name, n) :: back) ending)
      (.record (front ++ (.ok other, n) :: back) ending)
  | retag {room name other} (one : name ∈ unionNames) (two : other ∈ unionNames) :
    Rewritten .kindTag room (.text (.ok name)) (.text (.ok other))
  | member {p room front back ending key n m} (inner : Rewritten (p.member key) (room - 1) n m) :
    Rewritten p room (.record (front ++ (key, n) :: back) ending)
      (.record (front ++ (key, m) :: back) ending)
  | item {p room items ending i n m} (there : items[i]? = some n)
    (inner : Rewritten (p.item i) (room - 1) n m) :
    Rewritten p room (.list items ending) (.list (items.set i m) ending)

/-- What can be loaded can be loaded still, and reads the same in memory. -/
def Place.KeepsValue (p : Place) (room : Nat) (n m : Node) : Prop :=
  ∀ v, n.load room = .ok v → ∃ w, m.load room = .ok w ∧ p.Same v w

/-- What is read at the place is read still. -/
def Place.Keeps (room : Nat) (n m : Node) : Place → Prop
  | schema => Kept (Schema.ofNode room) n m
  | version => Kept (Version.ofNode room) n m
  | date => Kept (ReleaseDate.ofNode room) n m
  | methods => Kept (readList room Method.ofNode) n m
  | method => Kept (Method.ofNode room) n m
  | other => (n.skip = .ok () → m.skip = .ok ()) ∧ other.KeepsValue room n m
  | p => p.KeepsValue room n m

/-- One change of members in the text, of a record at a place. -/
abbrev Place.AlteredNodes (p : Place) (room : Nat) :
    List (Key × Node) → List (Key × Node) → Prop :=
  Altered (fun key n => p.isModel ∧ ∃ name, key = .ok name ∧ name ∉ modelNames ∧ p.Fits room n)
    (fun key other => ∃ a b, key = .ok a ∧ other = .ok b ∧ p.Alias a b)
    fun key n m => (p.member key).Keeps room n m

section Kept

variable {p : Place} {room : Nat} {n m : Node} {α : Type}

/-- What is read from the loaded value alone is kept with the value. -/
theorem Place.KeepsValue.kept {read : Node → Except ReadError α} {Reads : Value → α → Prop}
    (keeps : p.KeepsValue room n m)
    (loads : ∀ n x, read n = .ok x ↔ ∃ v, n.load room = .ok v ∧ Reads v x)
    (same : ∀ v w x, p.Same v w → Reads v x → Reads w x) : Kept read n m := by
  intro x given
  obtain ⟨v, loaded, reads⟩ := (loads n x).mp given
  obtain ⟨w, reloaded, kept⟩ := keeps v loaded
  exact (loads m x).mpr ⟨w, reloaded, same v w x kept reads⟩

theorem keeps_scalar {read : Found → Except Mismatch α} (only : OnlyScalars read)
    (keeps : Place.other.Keeps room n m) : Kept (Node.scalar read) n m :=
  keeps.2.kept (fun _ _ => scalar_eq_ok_iff only room) fun _ _ _ same given =>
    kept_of_flat (FieldType.scalar_readsFlat only) same _ given

theorem keeps_properties (keeps : Place.properties.Keeps room n m) :
    Kept (readList room Property.ofNode) n m :=
  Place.KeepsValue.kept keeps (fun _ _ => readList_loaded Property.ofNode_eq_ok_iff)
    fun _ _ _ same given => same _ given

theorem keeps_objects (keeps : Place.objects.Keeps room n m) :
    Kept (readList room Object.ofNode) n m :=
  Place.KeepsValue.kept keeps (fun _ _ => readList_loaded Object.ofNode_eq_ok_iff)
    fun _ _ _ same given => same _ given

theorem keeps_returns (keeps : Place.returns.Keeps room n m) : Kept (FieldType.ofNode room) n m :=
  Place.KeepsValue.kept keeps (fun _ _ => FieldType.ofNode_eq_ok_iff)
    fun _ _ _ same given => ⟨same.1 given.1, same.2 _ given.2⟩

end Kept

theorem loadMembers_append {room : Nat} {front back : List (Key × Node)}
    {vs : List (String × Value)} :
    loadMembers room (front ++ back) = .ok vs ↔
      ∃ before after, loadMembers room front = .ok before ∧ loadMembers room back = .ok after ∧
        vs = before ++ after := by
  induction front generalizing vs with
  | nil => simp [loadMembers]
  | cons member front ih =>
    obtain ⟨key, n⟩ := member
    simp only [List.cons_append, loadMembers, bind_eq_ok, ih]
    constructor
    · rintro ⟨key, decoded, v, first, _, ⟨before, after, loaded, behind, rfl⟩, same⟩
      cases same
      exact ⟨_, after, ⟨key, decoded, v, first, before, loaded, rfl⟩, behind, rfl⟩
    · rintro ⟨_, after, ⟨key, decoded, v, first, before, loaded, same⟩, behind, rfl⟩
      cases same
      exact ⟨key, decoded, v, first, _, ⟨before, after, loaded, behind, rfl⟩, rfl⟩

theorem loadMembers_cons {room : Nat} {key : Key} {n : Node} {rest : List (Key × Node)}
    {vs : List (String × Value)} :
    loadMembers room ((key, n) :: rest) = .ok vs ↔
      ∃ name v behind, key = .ok name ∧ n.load room = .ok v ∧ loadMembers room rest = .ok behind ∧
        vs = (name, v) :: behind := by
  simp only [loadMembers, bind_eq_ok]
  constructor
  · rintro ⟨name, decoded, v, first, behind, others, same⟩
    cases same
    exact ⟨name, v, behind, decoded, first, others, rfl⟩
  · rintro ⟨name, v, behind, decoded, first, others, rfl⟩
    exact ⟨name, decoded, v, first, behind, others, rfl⟩

section Records

variable {p : Place} {room : Nat} {members others : List (Key × Node)} {ending : Option Break}

theorem Place.Keeps.value {n m : Node} (held : p.inText = false) (keeps : p.Keeps room n m) :
    p.KeepsValue room n m := by
  cases p with
  | schema | version | date | methods | method => cases held
  | other => exact keeps.2
  | _ => exact keeps

theorem Place.member_inText (held : p.inText = false) (key : Key) : (p.member key).inText = false := by
  cases key with
  | error _ => rfl
  | ok name =>
    rcases p.member_cases name with noPlace | leads
    · rw [noPlace]
      rfl
    · have closed : ∀ p : Place, p.inText = false → ∀ entry ∈ p.leads, entry.2.inText = false := by
        intro p
        cases p <;> decide
      exact closed p held _ leads

/-- Loaded members change as they do in the text. -/
theorem Place.AlteredNodes.loaded (held : p.inText = false)
    (altered : p.AlteredNodes room members others) {vs : List (String × Value)}
    (loaded : loadMembers room members = .ok vs) :
    ∃ ws, loadMembers room others = .ok ws ∧ p.AlteredValues vs ws := by
  cases altered with
  | permute same =>
    obtain ⟨ws, loaded, permuted⟩ :=
      List.perm_comp_forall₂ same.symm (loadMembers_eq_ok_iff.mp loaded)
    exact ⟨ws, loadMembers_eq_ok_iff.mpr loaded, .permute permuted.symm⟩
  | insert foreign =>
    obtain ⟨_, name, rfl, new, fits⟩ := foreign
    rw [Place.Fits, held] at fits
    obtain ⟨v, fits⟩ := fits
    obtain ⟨before, after, front, back, rfl⟩ := loadMembers_append.mp loaded
    exact ⟨before ++ (name, v) :: after, loadMembers_append.mpr ⟨before, _, front,
      loadMembers_cons.mpr ⟨name, v, after, rfl, fits, back, rfl⟩, rfl⟩, .insert new⟩
  | rename meant =>
    obtain ⟨name, other, rfl, rfl, meant⟩ := meant
    obtain ⟨before, _, front, back, rfl⟩ := loadMembers_append.mp loaded
    obtain ⟨_, v, after, same, first, tail, rfl⟩ := loadMembers_cons.mp back
    cases same
    exact ⟨before ++ (other, v) :: after, loadMembers_append.mpr ⟨before, _, front,
      loadMembers_cons.mpr ⟨other, v, after, rfl, first, tail, rfl⟩, rfl⟩, .rename meant⟩
  | replace keeps =>
    obtain ⟨before, _, front, back, rfl⟩ := loadMembers_append.mp loaded
    obtain ⟨name, v, after, rfl, first, tail, rfl⟩ := loadMembers_cons.mp back
    obtain ⟨w, again, same⟩ := keeps.value (Place.member_inText held _) v first
    exact ⟨before ++ (name, w) :: after, loadMembers_append.mpr ⟨before, _, front,
      loadMembers_cons.mpr ⟨name, w, after, rfl, again, tail, rfl⟩, rfl⟩, .replace same⟩

theorem keepsValue_record (held : p.inText = false)
    (altered : p.AlteredNodes (room - 1) members others) :
    p.KeepsValue room (.record members ending) (.record others ending) := by
  intro v loaded
  obtain ⟨left, vs, rfl, ended, inside, rfl⟩ := load_record_eq_ok_iff.mp loaded
  obtain ⟨ws, inside, changed⟩ := Place.AlteredNodes.loaded held altered inside
  exact ⟨.record ws, load_record_eq_ok_iff.mpr ⟨left, ws, rfl, ended, inside, rfl⟩,
    Place.same_record changed⟩

theorem skipMembers_eq_ok_iff {done : Unit} :
    skipMembers members = .ok done ↔ ∀ member ∈ members, member.2.skip = .ok () := by
  induction members with
  | nil => simp [skipMembers]
  | cons member members ih =>
    obtain ⟨key, n⟩ := member
    rw [skipMembers, bind_eq_ok, List.forall_mem_cons, ih]
    exact ⟨fun ⟨_, first, others⟩ => ⟨first, others⟩, fun ⟨first, others⟩ => ⟨(), first, others⟩⟩

theorem skip_record_eq_ok_iff {done : Unit} :
    (Node.record members ending).skip = .ok done ↔
      (∀ member ∈ members, member.2.skip = .ok ()) ∧ ending = none := by
  rw [Node.skip.eq_def]
  simp only [bind_eq_ok, skipMembers_eq_ok_iff]
  cases ending <;> simp [pure, Except.pure, throw, throwThe, MonadExceptOf.throw]

theorem keepsSkipped_record (altered : Place.other.AlteredNodes room members others)
    (skipped : (Node.record members ending).skip = .ok ()) :
    (Node.record others ending).skip = .ok () := by
  obtain ⟨each, ended⟩ := skip_record_eq_ok_iff.mp skipped
  refine skip_record_eq_ok_iff.mpr ⟨?_, ended⟩
  refine altered.all (P := fun member => member.2.skip = .ok ()) ?_ ?_ ?_ each
  · rintro key n ⟨impossible, _⟩
    cases impossible
  · exact fun key other n _ sound => sound
  · intro key n m keeps sound
    have place : Place.other.member key = .other := by cases key <;> rfl
    rw [place] at keeps
    exact keeps.1 sound

/-- The reader of a record in the text knows some names, all aliases of one of them or none, and passes
over what leads nowhere. -/
structure Place.Knows (p : Place) (names : List String) : Prop where
  text : p.inText
  model : ∀ name ∈ names, name ∈ modelNames
  aliases : ∀ group ∈ p.aliases, ∀ name ∈ group, name ∈ names
  leads : ∀ entry ∈ p.leads, entry.1 ∈ names

theorem Place.AlteredNodes.passes {names : List String} (knows : p.Knows names)
    (altered : p.AlteredNodes room members others)
    (all : ∀ member ∈ members, Passes names member) : ∀ member ∈ others, Passes names member := by
  refine altered.all (P := Passes names) ?_ ?_ ?_ all
  · rintro key n ⟨_, name, rfl, new, fits⟩
    rw [Place.Fits, knows.text] at fits
    exact ⟨name, rfl, fun _ => fits⟩
  · rintro _ _ n ⟨name, other, rfl, rfl, group, mem, one, two⟩ _
    exact ⟨other, rfl, fun foreign => absurd (knows.aliases group mem other two) foreign⟩
  · rintro _ n m keeps ⟨name, rfl, sound⟩
    refine ⟨name, rfl, fun foreign => ?_⟩
    rcases p.member_cases name with noPlace | leads
    · rw [noPlace] at keeps
      exact keeps.1 (sound foreign)
    · exact absurd (knows.leads _ leads) foreign

theorem Place.AlteredNodes.keeps {names : List String} {α : Type}
    {read : Node → Except ReadError α} {found : Option α}
    (altered : p.AlteredNodes room members others) (model : ∀ name ∈ names, name ∈ modelNames)
    (whole : ∀ group ∈ p.aliases, (∀ name ∈ group, name ∈ names) ∨ ∀ name ∈ group, name ∉ names)
    (keep : ∀ name ∈ names, ∀ n m, (p.member (.ok name)).Keeps room n m → Kept read n m)
    (all : given (named names) read members = held found) :
    given (named names) read others = held found := by
  refine altered.given ?_ ?_ ?_ all
  · rintro key n ⟨_, name, rfl, new, _⟩
    have foreign : name ∉ names := fun known => new (model name known)
    simpa [named] using foreign
  · rintro _ _ ⟨name, other, rfl, rfl, group, mem, one, two⟩
    rcases whole group mem with inside | outside
    · simp [named, inside name one, inside other two]
    · simp [named, outside name one, outside other two]
  · intro key n m own keeps
    cases key with
    | error _ => cases own
    | ok name => exact keep name (by simpa [named] using own) n m keeps

theorem keeps_triple {names : TripleNames} (second_new : names.second ≠ names.first)
    (third_new : names.third ≠ names.first) (third_other : names.third ≠ names.second)
    (knows : p.Knows [names.first, names.second, names.third]) (plain : p.leads = [])
    (noAliases : p.aliases = []) (altered : p.AlteredNodes (room - 1) members others) :
    Kept (readTriple names room) (.record members ending) (.record others ending) := by
  rintro ⟨a, b, c⟩ read
  obtain ⟨⟨left, rfl⟩, ended, passes, first, second, third⟩ :=
    (readTriple_record second_new third_new third_other).mp read
  have number {name : String} (known : name ∈ [names.first, names.second, names.third])
      {found : Option UInt32}
      (all : given (named [name]) (Node.scalar Found.asUInt32) members = held found) :
      given (named [name]) (Node.scalar Found.asUInt32) others = held found := by
    refine altered.keeps ?_ ?_ ?_ all
    · rintro other same
      cases List.mem_singleton.mp same
      exact knows.model name known
    · rw [noAliases]
      nofun
    · intro other _ n m keeps
      rw [Place.member, plain] at keeps
      exact keeps_scalar asUInt32_onlyScalars keeps
  exact (readTriple_record second_new third_new third_other).mpr ⟨⟨left, rfl⟩, ended,
    altered.passes knows passes, number (by simp) first, number (by simp) second,
    number (by simp) third⟩

theorem keeps_method (altered : Place.method.AlteredNodes (room - 1) members others) :
    Kept (Method.ofNode room) (.record members ending) (.record others ending) := by
  intro method read
  obtain ⟨left, rfl, ended, passes, name, ⟨description, described, same⟩, ⟨link, linked, last⟩,
    ⟨parameters, listed, given⟩, returns⟩ := Method.ofNode_record.mp read
  have text {name : String} (known : ∀ other ∈ [name], other ∈ modelNames)
      (single : ∀ group ∈ Place.method.aliases,
        (∀ other ∈ group, other ∈ [name]) ∨ ∀ other ∈ group, other ∉ [name])
      (plain : Place.method.member (.ok name) = .other) {found : Option String}
      (all : BotTypings.given (named [name]) (Node.scalar Found.asText) members = held found) :
      BotTypings.given (named [name]) (Node.scalar Found.asText) others = held found := by
    refine altered.keeps known single (fun other own n m keeps => ?_) all
    cases List.mem_singleton.mp own
    rw [plain] at keeps
    exact keeps_scalar asText_onlyScalars keeps
  have passed := altered.passes ⟨rfl, by decide, by decide, by decide⟩ passes
  refine Method.ofNode_record.mpr ⟨left, rfl, ended, passed,
    text (by decide) (by decide) rfl name,
    ⟨description, text (by decide) (by decide) rfl described, same⟩,
    ⟨link, text (by decide) (by decide) rfl linked, last⟩,
    ⟨parameters, altered.keeps (by decide) (by decide) ?_ listed, given⟩,
    altered.keeps (by decide) (by decide) ?_ returns⟩
  · intro name own n m keeps
    have place : ∀ name ∈ ["parameters", "arguments"],
        Place.method.member (.ok name) = .properties := by decide
    rw [place name own] at keeps
    exact keeps_properties keeps
  · intro name own n m keeps
    have place : ∀ name ∈ ["returns", "return_type"],
        Place.method.member (.ok name) = .returns := by decide
    rw [place name own] at keeps
    exact keeps_returns keeps

theorem keeps_schema (altered : Place.schema.AlteredNodes (room - 1) members others) :
    Kept (Schema.ofNode room) (.record members ending) (.record others ending) := by
  intro s read
  obtain ⟨left, rfl, ended, passes, version, released, ⟨methods, methodsGiven, methodsSame⟩, objects,
    objectsGiven, objectsSame⟩ := Schema.ofNode_record.mp read
  have part {name : String} {q : Place} (known : ∀ other ∈ [name], other ∈ modelNames)
      (place : Place.schema.member (.ok name) = q) {α : Type} {read : Node → Except ReadError α}
      (keep : ∀ n m, q.Keeps left n m → Kept read n m) {found : Option α}
      (all : given (named [name]) read members = held found) :
      given (named [name]) read others = held found := by
    refine altered.keeps known nofun (fun other own n m keeps => ?_) all
    cases List.mem_singleton.mp own
    rw [place] at keeps
    exact keep n m keeps
  exact Schema.ofNode_record.mpr ⟨left, rfl, ended,
    altered.passes ⟨rfl, by decide, by decide, by decide⟩ passes,
    part (q := .version) (by decide) rfl (fun _ _ keeps => keeps) version,
    part (q := .date) (by decide) rfl (fun _ _ keeps => keeps) released,
    ⟨methods, part (q := .methods) (by decide) rfl (fun _ _ keeps => keeps) methodsGiven,
      methodsSame⟩,
    objects, part (by decide) rfl (fun _ _ keeps => keeps_objects keeps) objectsGiven, objectsSame⟩

/-- At every place, what is read from a record is kept by a change of its members. -/
theorem Place.keeps_record (altered : p.AlteredNodes (room - 1) members others) :
    p.Keeps room (.record members ending) (.record others ending) := by
  cases p with
  | schema => exact keeps_schema altered
  | method => exact keeps_method altered
  | methods => exact fun _ read => absurd read refuse_ne_ok
  | version =>
    intro v read
    exact Version.ofNode_eq_ok_iff.mpr (keeps_triple (by decide) (by decide) (by decide)
      ⟨rfl, by decide, by decide, by decide⟩ rfl rfl altered _ (Version.ofNode_eq_ok_iff.mp read))
  | date =>
    intro d read
    exact ReleaseDate.ofNode_eq_ok_iff.mpr (keeps_triple (by decide) (by decide) (by decide)
      ⟨rfl, by decide, by decide, by decide⟩ rfl rfl altered _ (ReleaseDate.ofNode_eq_ok_iff.mp read))
  | other => exact ⟨keepsSkipped_record altered, keepsValue_record rfl altered⟩
  | _ => exact keepsValue_record rfl altered

end Records

section Lists

variable {p : Place} {room i : Nat} {items : List Node} {n m : Node} {ending : ListEnd}

theorem loadItems_set {S : Value → Value → Prop} (there : items[i]? = some n)
    (keeps : ∀ v, n.load room = .ok v → ∃ w, m.load room = .ok w ∧ S v w) {vs : List Value}
    (loaded : loadItems room items = .ok vs) :
    ∃ v w, vs[i]? = some v ∧ S v w ∧ loadItems room (items.set i m) = .ok (vs.set i w) := by
  induction items generalizing i vs with
  | nil => cases there
  | cons first items ih =>
    simp only [loadItems, bind_eq_ok] at loaded
    obtain ⟨v, here, behind, others, same⟩ := loaded
    cases same
    cases i with
    | zero =>
      cases there
      obtain ⟨w, again, same⟩ := keeps v here
      refine ⟨v, w, rfl, same, ?_⟩
      rw [List.set_cons_zero, loadItems, again, others]
      rfl
    | succ i =>
      obtain ⟨u, w, position, same, again⟩ := ih there others
      refine ⟨u, w, position, same, ?_⟩
      rw [List.set_cons_succ, loadItems, here, again]
      rfl

theorem keepsValue_list (there : items[i]? = some n)
    (keeps : (p.item i).KeepsValue (room - 1) n m) :
    p.KeepsValue room (.list items ending) (.list (items.set i m) ending) := by
  intro v loaded
  obtain ⟨left, vs, rfl, ended, inside, rfl⟩ := load_list_eq_ok_iff.mp loaded
  obtain ⟨v, w, position, same, again⟩ := loadItems_set there keeps inside
  exact ⟨.list (vs.set i w), load_list_eq_ok_iff.mpr ⟨left, _, rfl, ended, again, rfl⟩,
    Place.same_list position same⟩

theorem skipItems_eq_ok_iff {done : Unit} :
    skipItems items = .ok done ↔ ∀ n ∈ items, n.skip = .ok () := by
  induction items with
  | nil => simp [skipItems]
  | cons n items ih =>
    rw [skipItems, bind_eq_ok, List.forall_mem_cons, ih]
    exact ⟨fun ⟨_, first, others⟩ => ⟨first, others⟩, fun ⟨first, others⟩ => ⟨(), first, others⟩⟩

theorem skip_list_eq_ok_iff {done : Unit} :
    (Node.list items ending).skip = .ok done ↔
      (∀ n ∈ items, n.skip = .ok ()) ∧ ending = .closed := by
  rw [Node.skip.eq_def]
  simp only [bind_eq_ok, skipItems_eq_ok_iff]
  cases ending <;>
    simp [ListEnd.break?, pure, Except.pure, throw, throwThe, MonadExceptOf.throw]

theorem keepsSkipped_list (there : items[i]? = some n)
    (keeps : n.skip = .ok () → m.skip = .ok ())
    (skipped : (Node.list items ending).skip = .ok ()) :
    (Node.list (items.set i m) ending).skip = .ok () := by
  obtain ⟨each, ended⟩ := skip_list_eq_ok_iff.mp skipped
  refine skip_list_eq_ok_iff.mpr ⟨fun k mem => ?_, ended⟩
  rcases List.mem_or_eq_of_mem_set mem with old | rfl
  · exact each k old
  · exact keeps (each n (List.mem_of_getElem? there))

theorem readList_set {α : Type} {read : Nat → Node → Except ReadError α}
    (there : items[i]? = some n) (kept : Kept (read (room - 1)) n m) :
    Kept (readList room read) (.list items ending) (.list (items.set i m) ending) := by
  intro xs listed
  obtain ⟨left, _, rfl, same, each⟩ := readList_eq_ok_iff.mp listed
  cases same
  exact readList_eq_ok_iff.mpr ⟨left, _, rfl, rfl, mapM_set there kept xs each⟩

theorem keepsTriple_list {names : TripleNames} (there : items[i]? = some n)
    (keeps : Kept (Node.scalar Found.asUInt32) n m) :
    Kept (readTriple names room) (.list items ending) (.list (items.set i m) ending) := by
  rintro ⟨a, b, c⟩ read
  obtain ⟨fits, ended, x, y, z, rfl, first, second, third⟩ := readTriple_list.mp read
  refine readTriple_list.mpr ⟨fits, ended, ?_⟩
  rcases i with _ | _ | _ | i
  · cases there
    exact ⟨m, y, z, rfl, keeps a first, second, third⟩
  · cases there
    exact ⟨x, m, z, rfl, first, keeps b second, third⟩
  · cases there
    exact ⟨x, y, m, rfl, first, second, keeps c third⟩
  · cases there

theorem keepsMethod_list (there : items[i]? = some n)
    (keeps : (Place.method.item i).Keeps (room - 1) n m) :
    Kept (Method.ofNode room) (.list items ending) (.list (items.set i m) ending) := by
  intro method read
  obtain ⟨left, rfl, ended, a, b, c, d, e, rfl, one, two, three, four, five⟩ :=
    Method.ofNode_list.mp read
  refine Method.ofNode_list.mpr ⟨left, rfl, ended, ?_⟩
  rcases i with _ | _ | _ | _ | _ | i
  · cases there
    exact ⟨m, b, c, d, e, rfl, keeps_scalar asText_onlyScalars keeps _ one, two, three, four, five⟩
  · cases there
    exact ⟨a, m, c, d, e, rfl, one, keeps_scalar asText_onlyScalars keeps _ two, three, four, five⟩
  · cases there
    exact ⟨a, b, m, d, e, rfl, one, two, keeps_scalar asText_onlyScalars keeps _ three, four, five⟩
  · cases there
    exact ⟨a, b, c, m, e, rfl, one, two, three, keeps_properties keeps _ four, five⟩
  · cases there
    exact ⟨a, b, c, d, m, rfl, one, two, three, four, keeps_returns keeps _ five⟩
  · cases there

theorem keepsSchema_list (there : items[i]? = some n)
    (keeps : (Place.schema.item i).Keeps (room - 1) n m) :
    Kept (Schema.ofNode room) (.list items ending) (.list (items.set i m) ending) := by
  intro s read
  obtain ⟨left, rfl, ended, version, released, rest, rfl, one, two, defaults⟩ :=
    Schema.ofNode_list.mp read
  refine Schema.ofNode_list.mpr ⟨left, rfl, ended, ?_⟩
  rcases i with _ | _ | i
  · cases there
    exact ⟨m, released, rest, rfl, keeps _ one, two, defaults⟩
  · cases there
    exact ⟨version, m, rest, rfl, one, keeps _ two, defaults⟩
  refine ⟨version, released, rest.set i m, rfl, one, two, ?_⟩
  rcases defaults with ⟨rfl, _⟩ | ⟨methods, rfl, three, noObjects⟩ |
    ⟨methods, objects, rfl, three, four⟩
  · cases there
  · rcases i with _ | i
    · cases there
      exact .inr (.inl ⟨m, rfl, keeps _ three, noObjects⟩)
    · cases there
  · rcases i with _ | _ | i
    · cases there
      exact .inr (.inr ⟨m, objects, rfl, keeps _ three, four⟩)
    · cases there
      exact .inr (.inr ⟨methods, m, rfl, three, keeps_objects keeps _ four⟩)
    · cases there

/-- At every place, what is read from a list is kept by a change of an item. -/
theorem Place.keeps_list (there : items[i]? = some n) (keeps : (p.item i).Keeps (room - 1) n m) :
    p.Keeps room (.list items ending) (.list (items.set i m) ending) := by
  cases p with
  | schema => exact keepsSchema_list there keeps
  | method => exact keepsMethod_list there keeps
  | methods => exact readList_set there keeps
  | version =>
    intro v read
    exact Version.ofNode_eq_ok_iff.mpr (keepsTriple_list there
      (keeps_scalar asUInt32_onlyScalars keeps) _ (Version.ofNode_eq_ok_iff.mp read))
  | date =>
    intro d read
    exact ReleaseDate.ofNode_eq_ok_iff.mpr (keepsTriple_list there
      (keeps_scalar asUInt32_onlyScalars keeps) _ (ReleaseDate.ofNode_eq_ok_iff.mp read))
  | other => exact ⟨keepsSkipped_list there keeps.1, keepsValue_list there keeps.2⟩
  | object | kindTag | property => exact keepsValue_list there keeps.2
  | _ => exact keepsValue_list there keeps

end Lists

theorem retag_kept {name other : String} (one : name ∈ unionNames) (two : other ∈ unionNames) :
    Kept objectTags.ofValue (.text name) (.text other) := by
  have union : ∀ name ∈ unionNames, objectTags.ofValue (.text name) = .ok .anyOf := by decide
  intro tag read
  rw [union name one] at read
  rw [union other two]
  exact read

/-- A rewriting keeps what is read at its place. -/
theorem Rewritten.keeps {p : Place} {room : Nat} {n m : Node} (rewritten : Rewritten p room n m) :
    p.Keeps room n m := by
  induction rewritten with
  | permute same => exact Place.keeps_record (.permute same)
  | insert model new fits => exact Place.keeps_record (.insert ⟨model, _, rfl, new, fits⟩)
  | rename meant => exact Place.keeps_record (.rename ⟨_, _, rfl, rfl, meant⟩)
  | retag one two =>
    intro v loaded
    cases loaded
    exact ⟨_, rfl, retag_kept one two⟩
  | member _ ih => exact Place.keeps_record (.replace ih)
  | item there _ ih => exact Place.keeps_list there ih

theorem rewritten_kept {room : Nat} {n m : Node}
    (rewritten : Relation.ReflTransGen (Rewritten .schema room) n m) :
    Kept (Schema.ofNode room) n m := by
  induction rewritten with
  | refl => exact fun _ read => read
  | tail _ step ih => exact fun s read => step.keeps s (ih s read)

theorem readText_eq_ok_iff {α : Type} {read : Nat → Node → Except ReadError α} {text : String}
    {x : α} :
    readText read text = .ok x ↔
      read deepest (Document.ofText text).root = .ok x ∧ (Document.ofText text).trailing = false := by
  rw [readText]
  simp only [bind_eq_ok]
  constructor
  · rintro ⟨y, given, ended⟩
    cases behind : (Document.ofText text).trailing with
    | true =>
      rw [behind] at ended
      cases ended
    | false =>
      rw [behind] at ended
      cases ended
      exact ⟨given, rfl⟩
  · rintro ⟨given, ended⟩
    refine ⟨x, given, ?_⟩
    rw [ended]
    rfl

/-- A document that says the same in another way is loaded as the same schema. -/
theorem Schema.load_rewritten {text other : String} {s : Schema}
    (rewritten : Relation.ReflTransGen (Rewritten .schema deepest) (Document.ofText text).root
      (Document.ofText other).root)
    (tail : (Document.ofText other).trailing = (Document.ofText text).trailing)
    (loaded : Schema.load text = .ok s) : Schema.load other = .ok s := by
  obtain ⟨t, read, checked⟩ := bind_eq_ok.mp loaded
  obtain ⟨root, ended⟩ := readText_eq_ok_iff.mp (mapError_eq_ok.mp read)
  refine bind_eq_ok.mpr ⟨t, mapError_eq_ok.mpr ?_, checked⟩
  exact readText_eq_ok_iff.mpr ⟨rewritten_kept rewritten t root, tail.trans ended⟩

/-- A description of one method and one object. -/
def gallery (method object : Value) : Value :=
  .record [
    ("version", .record [("major", .integer 9), ("minor", .integer 1), ("patch", .integer 0)]),
    ("recent_changes", .record [("year", .integer 2025), ("month", .integer 7), ("day", .integer 3)]),
    ("methods", .list [method]), ("objects", .list [object])]

/-- A method whose only parameter is a list of numbers. -/
def sendAll (parameters : String) (foreign : List (String × Value)) : Value :=
  .record [("name", .text "sendAll"),
    (parameters, .list [.record [("name", .text "ids"), ("type", .text "array"),
      ("array", .record (("type", .text "integer") :: foreign))]]),
    ("returns", .record [("type", .text "bool")])]

def mediaVariants : Value :=
  .list [.record [("type", .text "reference"), ("reference", .text "Photo")]]

/-- A union that is described by its own tag and its own name for the variants. -/
def media (tag variants : String) : Value :=
  .record [("name", .text "Media"), ("type", .text tag), (variants, mediaVariants)]

/-- The tag comes last. -/
def mediaReversed (tag variants : String) : Value :=
  .record [(variants, mediaVariants), ("type", .text tag), ("name", .text "Media")]

theorem gallery_method {method other object : Value}
    (inner : Rewritten .method (deepest - 1 - 1) method.node other.node) :
    Rewritten .schema deepest (gallery method object).node (gallery other object).node :=
  @Rewritten.member .schema deepest
    (memberNodes [
      ("version", .record [("major", .integer 9), ("minor", .integer 1), ("patch", .integer 0)]),
      ("recent_changes",
        .record [("year", .integer 2025), ("month", .integer 7), ("day", .integer 3)])])
    (memberNodes [("objects", .list [object])]) none (.ok "methods") _ _
    (@Rewritten.item .methods _ [method.node] .closed 0 _ _ rfl inner)

theorem gallery_object {method object other : Value}
    (inner : Rewritten .object (deepest - 1 - 1) object.node other.node) :
    Rewritten .schema deepest (gallery method object).node (gallery method other).node :=
  @Rewritten.member .schema deepest
    (memberNodes [
      ("version", .record [("major", .integer 9), ("minor", .integer 1), ("patch", .integer 0)]),
      ("recent_changes",
        .record [("year", .integer 2025), ("month", .integer 7), ("day", .integer 3)]),
      ("methods", .list [method])])
    [] none (.ok "objects") _ _
    (@Rewritten.item .objects _ [object.node] .closed 0 _ _ rfl inner)

theorem sendAll_foreign :
    Rewritten .method (deepest - 1 - 1) (sendAll "arguments" []).node
      (sendAll "arguments" [("since", .list [.null])]).node := by
  have fits : Place.type.Fits 122 (Value.list [.null]).node := ⟨.list [.null], rfl⟩
  refine @Rewritten.member .method _ (memberNodes [("name", .text "sendAll")])
    (memberNodes [("returns", .record [("type", .text "bool")])]) none (.ok "arguments") _ _ ?_
  refine @Rewritten.item .properties _ [_] .closed 0 _ _ rfl ?_
  refine @Rewritten.member .property _
    (memberNodes [("name", .text "ids"), ("type", .text "array")]) [] none (.ok "array") _ _ ?_
  exact @Rewritten.insert .type _ (memberNodes [("type", .text "integer")]) [] none "since" _ rfl
    (by decide) fits

theorem gallery_rewritten :
    Relation.ReflTransGen (Rewritten .schema deepest)
      (gallery (sendAll "parameters" []) (media "any_of" "any_of")).node
      (gallery (sendAll "arguments" [("since", .list [.null])])
        (mediaReversed "oneOf" "one_of")).node := by
  have renamed : Rewritten .method (deepest - 1 - 1) (sendAll "parameters" []).node
      (sendAll "arguments" []).node :=
    @Rewritten.rename .method _ (memberNodes [("name", .text "sendAll")]) _ none "parameters"
      "arguments" _ ⟨["parameters", "arguments"], by decide, by decide, by decide⟩
  have variants : Rewritten .object (deepest - 1 - 1) (media "any_of" "any_of").node
      (media "any_of" "one_of").node :=
    @Rewritten.rename .object _ (memberNodes [("name", .text "Media"), ("type", .text "any_of")]) []
      none "any_of" "one_of" _ ⟨unionNames, by decide, by decide, by decide⟩
  have tagged : Rewritten .object (deepest - 1 - 1) (media "any_of" "one_of").node
      (media "oneOf" "one_of").node :=
    @Rewritten.member .object _ (memberNodes [("name", .text "Media")])
      (memberNodes [("one_of", mediaVariants)]) none (.ok "type") _ _
      (.retag (by decide) (by decide))
  have reversed : Rewritten .object (deepest - 1 - 1) (media "oneOf" "one_of").node
      (mediaReversed "oneOf" "one_of").node :=
    .permute (List.reverse_perm _).symm
  exact ((((Relation.ReflTransGen.single (gallery_method renamed)).tail
    (gallery_method sendAll_foreign)).tail (gallery_object variants)).tail
    (gallery_object tagged)).tail (gallery_object reversed)

theorem Schema.load_rewritten_gallery :
    ∃ s, Schema.load (gallery (sendAll "parameters" []) (media "any_of" "any_of")).compact = .ok s ∧
      Schema.load (gallery (sendAll "arguments" [("since", .list [.null])])
        (mediaReversed "oneOf" "one_of")).compact = .ok s := by
  have exact (method object : Value) (one : method.Exact) (two : object.Exact) :
      (gallery method object).Exact := by
    simp [gallery, Value.Exact, MembersExact, ItemsExact, Fits64, Decimal.unsignedEnd, one, two]
  have before := ofText_compact
    (exact (sendAll "parameters" []) (media "any_of" "any_of")
      (by simp [sendAll, Value.Exact, MembersExact, ItemsExact])
      (by simp [media, mediaVariants, Value.Exact, MembersExact, ItemsExact]))
  have after := ofText_compact
    (exact (sendAll "arguments" [("since", .list [.null])]) (mediaReversed "oneOf" "one_of")
      (by simp [sendAll, Value.Exact, MembersExact, ItemsExact])
      (by simp [mediaReversed, mediaVariants, Value.Exact, MembersExact, ItemsExact]))
  have loaded : Schema.load (gallery (sendAll "parameters" []) (media "any_of" "any_of")).compact =
      .ok ⟨⟨9, 1, 0⟩, ⟨2025, 7, 3⟩,
        [⟨"sendAll", "", "", [⟨"ids", "", false, .array .plainInteger⟩], .bool none⟩],
        [⟨"Media", "", "", .anyOf [.reference "Photo"], none⟩]⟩ := by
    rw [Schema.load, readText, before]
    rfl
  refine ⟨_, loaded, Schema.load_rewritten ?_ ?_ loaded⟩
  · rw [before, after]
    exact gallery_rewritten
  · rw [before, after]

end BotTypings
