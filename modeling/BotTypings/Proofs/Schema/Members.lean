import BotTypings.Proofs.Steps
import BotTypings.Schema.MemberReading

/-! What a reader takes from the members of a record. It looks for a few names, each given once at
most, and passes over the rest; so its answer is a matter of what is given under each of those names,
and the place of a member among the others never enters. Every reader of records in memory is
described here in these terms. -/
namespace BotTypings

open BotTypings.Json BotTypings.Decimal

section Given

variable {κ ν ε α β : Type}

/-- What reading makes of the members under some names, in their order. -/
def given (mine : κ → Bool) (read : ν → Except ε α) (members : List (κ × ν)) : List (Except ε α) :=
  (members.filter fun member => mine member.1).map fun member => read member.2

/-- What has been given already, once or not at all. -/
def held (found : Option α) : List (Except ε α) := (found.map Except.ok).toList

theorem given_nil (mine : κ → Bool) (read : ν → Except ε α) : given mine read [] = [] := rfl

theorem given_cons (mine : κ → Bool) (read : ν → Except ε α) (key : κ) (v : ν)
    (rest : List (κ × ν)) :
    given mine read ((key, v) :: rest) =
      if mine key then read v :: given mine read rest else given mine read rest := by
  unfold given
  by_cases own : mine key = true
  · simp [own]
  · simp [own]

theorem given_append (mine : κ → Bool) (read : ν → Except ε α) (front back : List (κ × ν)) :
    given mine read (front ++ back) = given mine read front ++ given mine read back := by
  simp [given]

/-- Reading some of the members is reading under fewer names. -/
theorem given_filter (mine keep : κ → Bool) (read : ν → Except ε α) (members : List (κ × ν)) :
    given mine read (members.filter fun member => keep member.1) =
      given (fun key => mine key && keep key) read members := by
  simp [given, List.filter_filter]

/-- Members that are left out and not among those read make no difference. -/
theorem given_filter_own (mine keep : κ → Bool) (read : ν → Except ε α) (members : List (κ × ν))
    (own : ∀ key, mine key → keep key) :
    given mine read (members.filter fun member => keep member.1) = given mine read members := by
  have both : (fun key => mine key && keep key) = mine := by
    funext key
    cases mineKey : mine key with
    | false => rfl
    | true => exact own key mineKey
  rw [given_filter, both]

theorem mem_given {mine : κ → Bool} {read : ν → Except ε α} {members : List (κ × ν)} {key : κ}
    {v : ν} (there : (key, v) ∈ members) (own : mine key = true) :
    read v ∈ given mine read members :=
  List.mem_map.mpr ⟨(key, v), List.mem_filter.mpr ⟨there, own⟩, rfl⟩

theorem held_inj {found other : Option α} :
    (held found : List (Except ε α)) = held other ↔ found = other := by
  cases found <;> cases other <;> simp [held]

theorem mem_held {r : Except ε α} {found : Option α} :
    r ∈ held found ↔ ∃ x, r = .ok x ∧ found = some x := by
  cases found <;> simp [held]

/-- One more content can be given only where none was, and only if it can be read. -/
theorem held_append_cons {found result : Option α} {r : Except ε α} {rest : List (Except ε α)} :
    held found ++ r :: rest = held result ↔
      found = none ∧ ∃ x, r = .ok x ∧ held (some x) ++ rest = held result := by
  cases found <;> cases result <;> cases r <;> simp [held]

/-- Whatever was given under a name could be read. -/
theorem read_of_given {mine : κ → Bool} {read : ν → Except ε α} {members : List (κ × ν)}
    {result : Option α} (all : given mine read members = held result) {key : κ} {v : ν}
    (there : (key, v) ∈ members) (own : mine key = true) :
    ∃ x, read v = .ok x ∧ result = some x := by
  have mem : read v ∈ given mine read members := mem_given there own
  rw [all] at mem
  exact mem_held.mp mem

theorem given_eq_held_some {mine : κ → Bool} {read : ν → Except ε α} {members : List (κ × ν)}
    {x : α} :
    given mine read members = held (some x) ↔
      ∃ member, (members.filter fun member => mine member.1) = [member] ∧
        read member.2 = .ok x := by
  change (members.filter fun member => mine member.1).map (fun member => read member.2) =
    [.ok x] ↔ _
  rw [List.map_eq_singleton_iff]

/-- What was given was given by some member. -/
theorem exists_of_given {mine : κ → Bool} {read : ν → Except ε α} {members : List (κ × ν)} {x : α}
    (all : given mine read members = held (some x)) :
    ∃ member ∈ members, mine member.1 ∧ read member.2 = .ok x := by
  obtain ⟨member, only, given⟩ := given_eq_held_some.mp all
  have found : member ∈ members.filter fun member => mine member.1 := by
    rw [only]
    exact List.mem_singleton_self member
  obtain ⟨mem, own⟩ := List.mem_filter.mp found
  exact ⟨member, mem, own, given⟩

end Given

section Once

variable {α β δ : Type}

theorem exists_once_eq_ok {name : String} {found : Option α} {r : Except Mismatch α}
    {Next : Option α → Prop} :
    (∃ next, once name found r = .ok next ∧ Next next) ↔
      found = none ∧ ∃ x, r = .ok x ∧ Next (some x) := by
  cases found with
  | none => cases r <;> simp [once, Except.map]
  | some _ => simp [once]

theorem exists_once_map_eq_ok {name : String} {found : Option α} {r : Except Mismatch α}
    {set : Option α → δ} {Next : δ → Prop} :
    (∃ d, (once name found r).map set = .ok d ∧ Next d) ↔
      found = none ∧ ∃ x, r = .ok x ∧ Next (set (some x)) := by
  cases found with
  | none => cases r <;> simp [once, Except.map]
  | some _ => simp [once, Except.map]

/-- A reader that looks for one thing alone, under one or more names. -/
theorem reads_one (f : Option α → List (String × Value) → Except Mismatch β)
    (finish : Option α → Except Mismatch β) (mine : String → Bool) (name : String)
    (read : Value → Except Mismatch α) (nil : ∀ found, f found [] = finish found)
    (hit : ∀ found key v rest, mine key = true →
      f found ((key, v) :: rest) = once name found (read v) >>= fun next => f next rest)
    (miss : ∀ found key v rest, mine key = false → f found ((key, v) :: rest) = f found rest)
    (found : Option α) (members : List (String × Value)) (y : β) :
    f found members = .ok y ↔
      ∃ result, held found ++ given mine read members = held result ∧ finish result = .ok y := by
  induction members generalizing found with
  | nil => simp [nil, given_nil, held_inj]
  | cons member rest ih =>
    obtain ⟨key, v⟩ := member
    rw [given_cons]
    by_cases own : mine key = true
    · simp only [hit found key v rest own, bind_eq_ok, ih, exists_once_eq_ok, own, if_true,
        held_append_cons]
      constructor
      · rintro ⟨free, x, given, result, all, done⟩
        exact ⟨result, ⟨free, x, given, all⟩, done⟩
      · rintro ⟨result, ⟨free, x, given, all⟩, done⟩
        exact ⟨free, x, given, result, all, done⟩
    · rw [miss found key v rest (by simpa using own), ih, if_neg own]

/-- One thing that a reader looks for: the name it is given under, and its place in what was read. -/
structure MemberSlot (δ : Type) where
  {α : Type}
  key : String
  read : Value → Except Mismatch α
  get : δ → Option α
  set : δ → Option α → δ

/-- No slot has the name of the member. -/
def passedBy {δ : Type} (slots : List (MemberSlot δ)) (member : String × Value) : Bool :=
  slots.all (·.key != member.1)

theorem passedBy_iff {δ : Type} {slots : List (MemberSlot δ)} {member : String × Value} :
    passedBy slots member = true ↔ ∀ s ∈ slots, member.1 ≠ s.key := by
  simp only [passedBy, List.all_eq_true, bne_iff_ne, ne_comm]

/-- A step of a reader: a member with the name of a slot is read into it, once at most; any other one
leaves the slots as they are, and what it adds to the rest is given. -/
structure FillsSlots {δ : Type} (add : δ → String × Value → Except Mismatch δ)
    (slots : List (MemberSlot δ)) (rest : δ → List (String × Value))
    (adds : String × Value → List (String × Value)) : Prop where
  keys : ∀ s ∈ slots, ∀ t ∈ slots, t.key = s.key → t = s
  own : ∀ s ∈ slots, ∀ d v, add d (s.key, v) = (once s.key (s.get d) (s.read v)).map (s.set d)
  other : ∀ d member, passedBy slots member = true → ∃ d', add d member = .ok d' ∧
    (∀ s ∈ slots, s.get d' = s.get d) ∧ rest d' = rest d ++ adds member
  get_set : ∀ s ∈ slots, ∀ d x, s.get (s.set d x) = x
  apart : ∀ s ∈ slots, ∀ t ∈ slots, t.key ≠ s.key → ∀ d x, t.get (s.set d x) = t.get d
  rest_set : ∀ s ∈ slots, ∀ d x, rest (s.set d x) = rest d
  whole : ∀ d e, (∀ s ∈ slots, s.get d = s.get e) → rest d = rest e → d = e

namespace FillsSlots

variable {add : δ → String × Value → Except Mismatch δ} {slots : List (MemberSlot δ)}
  {rest : δ → List (String × Value)} {adds : String × Value → List (String × Value)}

theorem given_passed {member : String × Value} (passed : passedBy slots member = true)
    {s : MemberSlot δ} (mem : s ∈ slots) (behind : List (String × Value)) :
    given (· == s.key) s.read (member :: behind) = given (· == s.key) s.read behind := by
  rw [given_cons, if_neg fun same => passedBy_iff.mp passed s mem (beq_iff_eq.mp same)]

/-- A slot holds the same, with a member still to come and with that member read into its slot. -/
theorem held_set (fills : FillsSlots add slots rest adds) {s : MemberSlot δ} (mem : s ∈ slots)
    {d : δ} (free : s.get d = none) {v : Value} {x : s.α} (reads : s.read v = .ok x) {t : MemberSlot δ}
    (memToo : t ∈ slots) (behind : List (String × Value)) (result : Option t.α) :
    held (t.get d) ++ given (· == t.key) t.read ((s.key, v) :: behind) = held result ↔
      held (t.get (s.set d (some x))) ++ given (· == t.key) t.read behind = held result := by
  rw [given_cons]
  by_cases same : t.key = s.key
  · obtain rfl := fills.keys s mem t memToo same
    rw [if_pos (beq_self_eq_true _), held_append_cons, fills.get_set t mem]
    simp [free, reads]
  · rw [if_neg fun own => same (beq_iff_eq.mp own).symm, fills.apart s mem t memToo same]

/-- A reader of slots succeeds exactly if no slot is given twice and what is given can be read. -/
theorem foldlM_eq_ok_iff (fills : FillsSlots add slots rest adds)
    (members : List (String × Value)) (d e : δ) :
    members.foldlM add d = .ok e ↔
      (∀ s ∈ slots, held (s.get d) ++ given (· == s.key) s.read members = held (s.get e)) ∧
      rest e = rest d ++ (members.filter (passedBy slots)).flatMap adds := by
  induction members generalizing d with
  | nil =>
    simp only [given_nil, held_inj, List.append_nil, List.filter_nil, List.flatMap_nil]
    constructor
    · intro done
      cases done
      exact ⟨fun _ _ => rfl, rfl⟩
    · rintro ⟨same, more⟩
      exact congrArg _ (fills.whole d e same more.symm)
  | cons member behind ih =>
    simp only [List.foldlM_cons, bind_eq_ok, ih]
    by_cases passed : passedBy slots member = true
    · obtain ⟨d', done, same, more⟩ := fills.other d member passed
      have each : (∀ s ∈ slots, held (s.get d) ++ given (· == s.key) s.read (member :: behind) =
          held (s.get e)) ↔ ∀ s ∈ slots, held (s.get d') ++ given (· == s.key) s.read behind =
            held (s.get e) := by
        refine forall₂_congr fun s mem => ?_
        rw [given_passed passed mem, same s mem]
      rw [done, List.filter_cons_of_pos passed, List.flatMap_cons, ← List.append_assoc, ← more, each]
      simp
    · obtain ⟨s, mem, own⟩ : ∃ s ∈ slots, s.key = member.1 := by simpa [passedBy] using passed
      obtain ⟨key, v⟩ := member
      cases own
      rw [fills.own s mem, exists_once_map_eq_ok, List.filter_cons_of_neg passed]
      constructor
      · rintro ⟨free, x, reads, each, more⟩
        rw [fills.rest_set s mem] at more
        exact ⟨fun t memToo => (fills.held_set mem free reads memToo _ _).mpr (each t memToo), more⟩
      · rintro ⟨each, more⟩
        have first := each s mem
        rw [given_cons, if_pos (beq_self_eq_true _), held_append_cons] at first
        obtain ⟨free, x, reads, _⟩ := first
        rw [← fills.rest_set s mem d (some x)] at more
        exact ⟨free, x, reads,
          fun t memToo => (fills.held_set mem free reads memToo _ _).mp (each t memToo), more⟩

end FillsSlots

/-- What a reader makes of the one thing it cannot do without. -/
def needed (name : String) (build : α → β) : Option α → Except Mismatch β
  | some x => .ok (build x)
  | none => .error (.missingField name)

theorem reads_needed (f : Option α → List (String × Value) → Except Mismatch β) (build : α → β)
    (mine : String → Bool) (name : String) (read : Value → Except Mismatch α)
    (nil : ∀ found, f found [] = needed name build found)
    (hit : ∀ found key v rest, mine key = true →
      f found ((key, v) :: rest) = once name found (read v) >>= fun next => f next rest)
    (miss : ∀ found key v rest, mine key = false → f found ((key, v) :: rest) = f found rest)
    (members : List (String × Value)) (y : β) :
    f none members = .ok y ↔
      ∃ x, given mine read members = held (some x) ∧ y = build x := by
  rw [reads_one f (needed name build) mine name read nil hit miss]
  constructor
  · rintro ⟨_ | x, all, done⟩
    · cases done
    · cases done
      exact ⟨x, all, rfl⟩
  · rintro ⟨x, all, rfl⟩
    exact ⟨some x, all, rfl⟩

end Once

/-- A list in memory, each of its items read. -/
def Json.Value.each {α : Type} (read : Value → Except Mismatch α) (v : Value) :
    Except Mismatch (List α) := do
  (← v.items).mapM read

theorem Tagging.search_eq_ok_iff {τ : Type} (tags : Tagging τ) (members : List (String × Value))
    (t : τ) :
    tags.search none members = .ok t ↔
      given (· == "type") tags.ofValue members = held (some t) := by
  rw [reads_needed tags.search id (· == "type") "type" tags.ofValue]
  · simp [eq_comm]
  · intro found
    cases found <;> rfl
  · intro found key v rest own
    cases beq_iff_eq.mp own
    cases found with
    | some _ => rfl
    | none =>
      change (tags.ofValue v >>= fun t => tags.search (some t) rest) = _
      cases tags.ofValue v <;> rfl
  · intro found key v rest other
    have apart : key ≠ "type" := by simpa using other
    rw [Tagging.search.eq_def]
    exact if_neg apart

namespace FieldType

/-- A bound or default, absent where it is null. -/
abbrev integerOption : Value → Except Mismatch (Option Int64) :=
  Value.optional (Value.scalar Found.asInt64)

abbrev floatOption : Value → Except Mismatch (Option Binary64) :=
  Value.optional (Value.scalar Found.asFloat)

abbrev textOption : Value → Except Mismatch (Option String) :=
  Value.optional (Value.scalar Found.asText)

abbrev lengthOption : Value → Except Mismatch (Option UInt64) :=
  Value.optional (Value.scalar Found.asUInt64)

abbrev boolOption : Value → Except Mismatch (Option Bool) :=
  Value.optional (Value.scalar Found.asBool)

def IntegerDraft.slots : List (MemberSlot IntegerDraft) :=
  [⟨"enumeration", int64s, (·.enumeration), fun d x => { d with enumeration := x }⟩,
    ⟨"default", integerOption, (·.default), fun d x => { d with default := x }⟩,
    ⟨"min", integerOption, (·.min), fun d x => { d with min := x }⟩,
    ⟨"max", integerOption, (·.max), fun d x => { d with max := x }⟩]

theorem IntegerDraft.fillsSlots : FillsSlots add slots (fun _ => []) fun _ => [] where
  keys := by simp [slots]
  own := by simp [slots, add]
  other d member passed := by
    simp only [passedBy_iff, slots, List.forall_mem_cons] at passed
    exact ⟨d, by simp [add, passed], fun _ _ => rfl, rfl⟩
  get_set := by simp [slots]
  apart := by simp [slots]
  rest_set := by simp
  whole d e same _ := by
    cases d; cases e
    simpa [slots] using same

theorem IntegerDraft.foldlM_eq_ok_iff (members : List (String × Value)) (d e : IntegerDraft) :
    members.foldlM add d = .ok e ↔
      held d.enumeration ++ given (· == "enumeration") int64s members = held e.enumeration ∧
      held d.default ++ given (· == "default") integerOption members = held e.default ∧
      held d.min ++ given (· == "min") integerOption members = held e.min ∧
      held d.max ++ given (· == "max") integerOption members = held e.max := by
  rw [fillsSlots.foldlM_eq_ok_iff]
  simp [slots]

theorem integerOfMembers_eq_ok_iff (members : List (String × Value)) (t : FieldType) :
    integerOfMembers members = .ok t ↔ ∃ enumeration default min max,
      given (· == "enumeration") int64s members = held enumeration ∧
      given (· == "default") integerOption members = held default ∧
      given (· == "min") integerOption members = held min ∧
      given (· == "max") integerOption members = held max ∧
      t = integer (enumeration.getD []) default.join min.join max.join := by
  simp only [integerOfMembers, bind_eq_ok, IntegerDraft.foldlM_eq_ok_iff]
  constructor
  · rintro ⟨d, ⟨first, second, third, fourth⟩, done⟩
    cases done
    exact ⟨_, _, _, _, first, second, third, fourth, rfl⟩
  · rintro ⟨a, b, c, d, first, second, third, fourth, rfl⟩
    exact ⟨⟨a, b, c, d⟩, ⟨first, second, third, fourth⟩, rfl⟩

def FloatDraft.slots : List (MemberSlot FloatDraft) :=
  [⟨"default", floatOption, (·.default), fun d x => { d with default := x }⟩,
    ⟨"min", floatOption, (·.min), fun d x => { d with min := x }⟩,
    ⟨"max", floatOption, (·.max), fun d x => { d with max := x }⟩]

theorem FloatDraft.fillsSlots : FillsSlots add slots (fun _ => []) fun _ => [] where
  keys := by simp [slots]
  own := by simp [slots, add]
  other d member passed := by
    simp only [passedBy_iff, slots, List.forall_mem_cons] at passed
    exact ⟨d, by simp [add, passed], fun _ _ => rfl, rfl⟩
  get_set := by simp [slots]
  apart := by simp [slots]
  rest_set := by simp
  whole d e same _ := by
    cases d; cases e
    simpa [slots] using same

theorem FloatDraft.foldlM_eq_ok_iff (members : List (String × Value)) (d e : FloatDraft) :
    members.foldlM add d = .ok e ↔
      held d.default ++ given (· == "default") floatOption members = held e.default ∧
      held d.min ++ given (· == "min") floatOption members = held e.min ∧
      held d.max ++ given (· == "max") floatOption members = held e.max := by
  rw [fillsSlots.foldlM_eq_ok_iff]
  simp [slots]

theorem floatOfMembers_eq_ok_iff (members : List (String × Value)) (t : FieldType) :
    floatOfMembers members = .ok t ↔ ∃ default min max,
      given (· == "default") floatOption members = held default ∧
      given (· == "min") floatOption members = held min ∧
      given (· == "max") floatOption members = held max ∧
      t = float default.join min.join max.join := by
  simp only [floatOfMembers, bind_eq_ok, FloatDraft.foldlM_eq_ok_iff]
  constructor
  · rintro ⟨d, ⟨first, second, third⟩, done⟩
    cases done
    exact ⟨_, _, _, first, second, third, rfl⟩
  · rintro ⟨a, b, c, first, second, third, rfl⟩
    exact ⟨⟨a, b, c⟩, ⟨first, second, third⟩, rfl⟩

def StringDraft.slots : List (MemberSlot StringDraft) :=
  [⟨"enumeration", texts, (·.enumeration), fun d x => { d with enumeration := x }⟩,
    ⟨"default", textOption, (·.default), fun d x => { d with default := x }⟩,
    ⟨"min_len", lengthOption, (·.minLength), fun d x => { d with minLength := x }⟩,
    ⟨"max_len", lengthOption, (·.maxLength), fun d x => { d with maxLength := x }⟩]

theorem StringDraft.fillsSlots : FillsSlots add slots (fun _ => []) fun _ => [] where
  keys := by simp [slots]
  own := by simp [slots, add]
  other d member passed := by
    simp only [passedBy_iff, slots, List.forall_mem_cons] at passed
    exact ⟨d, by simp [add, passed], fun _ _ => rfl, rfl⟩
  get_set := by simp [slots]
  apart := by simp [slots]
  rest_set := by simp
  whole d e same _ := by
    cases d; cases e
    simpa [slots] using same

theorem StringDraft.foldlM_eq_ok_iff (members : List (String × Value)) (d e : StringDraft) :
    members.foldlM add d = .ok e ↔
      held d.enumeration ++ given (· == "enumeration") texts members = held e.enumeration ∧
      held d.default ++ given (· == "default") textOption members = held e.default ∧
      held d.minLength ++ given (· == "min_len") lengthOption members = held e.minLength ∧
      held d.maxLength ++ given (· == "max_len") lengthOption members = held e.maxLength := by
  rw [fillsSlots.foldlM_eq_ok_iff]
  simp [slots]

theorem stringOfMembers_eq_ok_iff (members : List (String × Value)) (t : FieldType) :
    stringOfMembers members = .ok t ↔ ∃ enumeration default minLength maxLength,
      given (· == "enumeration") texts members = held enumeration ∧
      given (· == "default") textOption members = held default ∧
      given (· == "min_len") lengthOption members = held minLength ∧
      given (· == "max_len") lengthOption members = held maxLength ∧
      t = string (enumeration.getD []) default.join minLength.join maxLength.join := by
  simp only [stringOfMembers, bind_eq_ok, StringDraft.foldlM_eq_ok_iff]
  constructor
  · rintro ⟨d, ⟨first, second, third, fourth⟩, done⟩
    cases done
    exact ⟨_, _, _, _, first, second, third, fourth, rfl⟩
  · rintro ⟨a, b, c, d, first, second, third, fourth, rfl⟩
    exact ⟨⟨a, b, c, d⟩, ⟨first, second, third, fourth⟩, rfl⟩

theorem boolOfMembers_eq_ok_iff (members : List (String × Value)) (t : FieldType) :
    boolOfMembers none members = .ok t ↔
      ∃ default, given (· == "default") boolOption members = held default ∧
        t = bool default.join := by
  rw [reads_one boolOfMembers (fun found => .ok (bool found.join)) (· == "default") "default"
    boolOption (fun _ => rfl)]
  · simp [held, eq_comm]
  · intro found key v rest own
    rw [boolOfMembers, if_pos (by simpa using own), beq_iff_eq.mp own]
  · intro found key v rest other
    rw [boolOfMembers, if_neg (by simpa using other)]

theorem referenceOfMembers_eq_ok_iff (members : List (String × Value)) (t : FieldType) :
    referenceOfMembers none members = .ok t ↔
      ∃ name, given (· == "reference") (Value.scalar Found.asText) members = held (some name) ∧
        t = reference name := by
  refine reads_needed referenceOfMembers reference (· == "reference") "reference"
    (Value.scalar Found.asText) ?_ ?_ ?_ members t
  · intro found
    cases found <;> rfl
  · intro found key v rest own
    rw [referenceOfMembers, if_pos (by simpa using own), beq_iff_eq.mp own]
  · intro found key v rest other
    rw [referenceOfMembers, if_neg (by simpa using other)]

theorem arrayOfMembers_eq_ok_iff (members : List (String × Value)) (t : FieldType) :
    arrayOfMembers none members = .ok t ↔
      ∃ element, given (· == "array") ofValue members = held (some element) ∧
        t = array element := by
  refine reads_needed arrayOfMembers array (· == "array") "array" ofValue ?_ ?_ ?_ members t
  · intro found
    cases found <;> rw [arrayOfMembers] <;> rfl
  · intro found key v rest own
    cases beq_iff_eq.mp own
    rw [arrayOfMembers.eq_def]
    refine (if_pos rfl).trans ?_
    cases found with
    | some _ => rfl
    | none => cases ofValue v <;> rfl
  · intro found key v rest other
    rw [arrayOfMembers.eq_def]
    exact if_neg (by simpa using other)

theorem listOfValue_eq_each (v : Value) : listOfValue v = v.each ofValue := by
  have items (vs : List Value) : allOfItems vs = vs.mapM ofValue := by
    induction vs with
    | nil => rw [allOfItems]; rfl
    | cons v vs ih => rw [allOfItems, List.mapM_cons, ih]
  cases v with
  | list vs =>
    rw [listOfValue, items]
    rfl
  | _ => rw [listOfValue] <;> first | rfl | nofun

theorem anyOfOfMembers_eq_ok_iff (members : List (String × Value)) (t : FieldType) :
    anyOfOfMembers none members = .ok t ↔
      ∃ variants, given (· == "any_of") listOfValue members = held (some variants) ∧
        t = anyOf variants := by
  refine reads_needed anyOfOfMembers anyOf (· == "any_of") "any_of" listOfValue ?_ ?_ ?_ members t
  · intro found
    cases found <;> rw [anyOfOfMembers] <;> rfl
  · intro found key v rest own
    cases beq_iff_eq.mp own
    rw [anyOfOfMembers.eq_def]
    refine (if_pos rfl).trans ?_
    cases found with
    | some _ => rfl
    | none => cases listOfValue v <;> rfl
  · intro found key v rest other
    rw [anyOfOfMembers.eq_def]
    exact if_neg (by simpa using other)

end FieldType

/-- No list and no record is read. -/
structure OnlyScalars {α : Type} (read : Found → Except Mismatch α) : Prop where
  list : ∀ x, read .list ≠ .ok x
  record : ∀ x, read .record ≠ .ok x

theorem asText_onlyScalars : OnlyScalars Found.asText := ⟨nofun, nofun⟩

theorem asBool_onlyScalars : OnlyScalars Found.asBool := ⟨nofun, nofun⟩

theorem asUInt32_onlyScalars : OnlyScalars Found.asUInt32 := ⟨nofun, nofun⟩

theorem ofFound_onlyScalars {τ : Type} (tags : Tagging τ) : OnlyScalars tags.ofFound :=
  ⟨nofun, nofun⟩

/-- Neither a list nor a record. -/
def Json.Value.isScalar : Value → Bool
  | .list _ | .record _ => false
  | _ => true

/-- A scalar or a list of scalars: what an attribute that is no type can be. -/
def Json.Value.isFlat : Value → Bool
  | .list items => items.all isScalar
  | v => v.isScalar

/-- Only flat values are read. -/
def ReadsFlat {α : Type} (read : Value → Except Mismatch α) : Prop :=
  ∀ v x, read v = .ok x → v.isFlat

namespace FieldType

section Flat

variable {α : Type} {read : Found → Except Mismatch α}

theorem isScalar_of_scalar (only : OnlyScalars read) {v : Value} {x : α}
    (given : v.scalar read = .ok x) : v.isScalar := by
  cases v with
  | list _ => exact absurd given (only.list x)
  | record _ => exact absurd given (only.record x)
  | _ => rfl

theorem isFlat_of_isScalar {v : Value} (scalar : v.isScalar) : v.isFlat := by
  cases v with
  | list _ => cases scalar
  | _ => exact scalar

theorem scalar_readsFlat (only : OnlyScalars read) : ReadsFlat (Value.scalar read) :=
  fun _ _ given => isFlat_of_isScalar (isScalar_of_scalar only given)

theorem optional_readsFlat (only : OnlyScalars read) :
    ReadsFlat (Value.optional (Value.scalar read)) := by
  intro v x given
  cases v with
  | list _ =>
    obtain ⟨y, impossible, _⟩ := map_eq_ok.mp given
    exact absurd impossible (only.list y)
  | record _ =>
    obtain ⟨y, impossible, _⟩ := map_eq_ok.mp given
    exact absurd impossible (only.record y)
  | _ => rfl

theorem each_readsFlat (only : OnlyScalars read) : ReadsFlat (Value.each (Value.scalar read)) := by
  intro v xs given
  obtain ⟨items, listed, each⟩ := bind_eq_ok.mp given
  cases v with
  | list _ =>
    cases listed
    refine List.all_eq_true.mpr fun v mem => ?_
    obtain ⟨x, read⟩ := (exists_mapM_eq_ok items).mp ⟨xs, each⟩ v mem
    exact isScalar_of_scalar only read
  | _ => cases listed

end Flat

theorem int64s_readsFlat : ReadsFlat int64s := each_readsFlat ⟨nofun, nofun⟩

theorem texts_readsFlat : ReadsFlat texts := each_readsFlat asText_onlyScalars

theorem integerOption_readsFlat : ReadsFlat integerOption := optional_readsFlat ⟨nofun, nofun⟩

theorem floatOption_readsFlat : ReadsFlat floatOption := optional_readsFlat ⟨nofun, nofun⟩

theorem textOption_readsFlat : ReadsFlat textOption := optional_readsFlat asText_onlyScalars

theorem lengthOption_readsFlat : ReadsFlat lengthOption := optional_readsFlat ⟨nofun, nofun⟩

theorem boolOption_readsFlat : ReadsFlat boolOption := optional_readsFlat asBool_onlyScalars

theorem noneLeft_eq_ok {declared : Nat} {left : List Value} {done : Unit} :
    noneLeft declared left = .ok done ↔ left = [] := by
  cases left <;> simp [noneLeft]

/-- The items are flat if those behind the next one are. -/
theorem flat_of_nextItem {α : Type} {absent x : α} {read : Value → Except Mismatch α}
    (flat : ReadsFlat read) {items rest : List Value}
    (next : nextItem absent read items = .ok (x, rest)) (behind : ∀ v ∈ rest, v.isFlat) :
    ∀ v ∈ items, v.isFlat := by
  cases items with
  | nil => nofun
  | cons v items =>
    obtain ⟨y, given, same⟩ := map_eq_ok.mp next
    cases same
    exact List.forall_mem_cons.mpr ⟨flat v _ given, behind⟩

theorem arrayOfItems_eq_ok_iff {items : List Value} {t : FieldType} :
    arrayOfItems items = .ok t ↔ ∃ v element, items = [v] ∧ ofValue v = .ok element ∧
      t = array element := by
  cases items with
  | nil => simp [arrayOfItems]
  | cons v rest =>
    simp only [arrayOfItems, bind_eq_ok, noneLeft_eq_ok]
    constructor
    · rintro ⟨element, given, _, rfl, done⟩
      cases done
      exact ⟨v, element, rfl, given, rfl⟩
    · rintro ⟨_, element, same, given, rfl⟩
      cases same
      exact ⟨element, given, (), rfl, rfl⟩

theorem anyOfOfItems_eq_ok_iff {items : List Value} {t : FieldType} :
    anyOfOfItems items = .ok t ↔ ∃ v variants, items = [v] ∧ listOfValue v = .ok variants ∧
      t = anyOf variants := by
  cases items with
  | nil => simp [anyOfOfItems]
  | cons v rest =>
    simp only [anyOfOfItems, bind_eq_ok, noneLeft_eq_ok]
    constructor
    · rintro ⟨variants, given, _, rfl, done⟩
      cases done
      exact ⟨v, variants, rfl, given, rfl⟩
    · rintro ⟨_, variants, same, given, rfl⟩
      cases same
      exact ⟨variants, given, (), rfl, rfl⟩

/-- Only arrays and unions have attributes that are types. -/
theorem flat_of_ofItems {tag : FieldTag} (noArray : tag ≠ .array) (noUnion : tag ≠ .anyOf)
    {items : List Value} {t : FieldType} (read : ofItems tag items = .ok t) :
    (∀ v ∈ items, v.isFlat) ∧ fieldTags.ofText t.tag = .ok tag := by
  have ended {n : Nat} {left : List Value} {done : Unit} (none : noneLeft n left = .ok done) :
      ∀ v ∈ left, v.isFlat := by
    rw [noneLeft_eq_ok.mp none]
    nofun
  cases tag with
  | array => exact absurd rfl noArray
  | anyOf => exact absurd rfl noUnion
  | integer =>
    simp only [ofItems, integerOfItems, bind_eq_ok, Prod.exists] at read
    obtain ⟨_, _, first, _, _, second, _, _, third, _, _, fourth, _, none, done⟩ := read
    cases done
    refine ⟨?_, rfl⟩
    exact flat_of_nextItem int64s_readsFlat first <|
      flat_of_nextItem integerOption_readsFlat second <|
      flat_of_nextItem integerOption_readsFlat third <|
      flat_of_nextItem integerOption_readsFlat fourth <| ended none
  | float =>
    simp only [ofItems, floatOfItems, bind_eq_ok, Prod.exists] at read
    obtain ⟨_, _, first, _, _, second, _, _, third, _, none, done⟩ := read
    cases done
    refine ⟨?_, rfl⟩
    exact flat_of_nextItem floatOption_readsFlat first <|
      flat_of_nextItem floatOption_readsFlat second <|
      flat_of_nextItem floatOption_readsFlat third <| ended none
  | string =>
    simp only [ofItems, stringOfItems, bind_eq_ok, Prod.exists] at read
    obtain ⟨_, _, first, _, _, second, _, _, third, _, _, fourth, _, none, done⟩ := read
    cases done
    refine ⟨?_, rfl⟩
    exact flat_of_nextItem texts_readsFlat first <|
      flat_of_nextItem textOption_readsFlat second <|
      flat_of_nextItem lengthOption_readsFlat third <|
      flat_of_nextItem lengthOption_readsFlat fourth <| ended none
  | bool =>
    simp only [ofItems, boolOfItems, bind_eq_ok, Prod.exists] at read
    obtain ⟨_, _, first, _, none, done⟩ := read
    cases done
    refine ⟨?_, rfl⟩
    exact flat_of_nextItem boolOption_readsFlat first <| ended none
  | reference =>
    cases items with
    | nil => cases read
    | cons v rest =>
      simp only [ofItems, referenceOfItems, bind_eq_ok] at read
      obtain ⟨name, given, _, none, done⟩ := read
      cases done
      have flat := scalar_readsFlat asText_onlyScalars v name given
      exact ⟨List.forall_mem_cons.mpr ⟨flat, ended none⟩, rfl⟩

/-- What is read from a list has the tag that the list begins with. -/
theorem tag_of_ofItems {tag : FieldTag} {items : List Value} {t : FieldType}
    (read : ofItems tag items = .ok t) : fieldTags.ofText t.tag = .ok tag := by
  cases tag with
  | array =>
    obtain ⟨_, _, _, _, rfl⟩ := arrayOfItems_eq_ok_iff.mp read
    rfl
  | anyOf =>
    obtain ⟨_, _, _, _, rfl⟩ := anyOfOfItems_eq_ok_iff.mp read
    rfl
  | _ => exact (flat_of_ofItems (by decide) (by decide) read).2

/-- What is read from a record has the tag that the record holds. -/
theorem tag_of_ofMembers {tag : FieldTag} {members : List (String × Value)} {t : FieldType}
    (read : ofMembers tag members = .ok t) : fieldTags.ofText t.tag = .ok tag := by
  cases tag with
  | integer =>
    obtain ⟨_, _, _, _, _, _, _, _, rfl⟩ := (integerOfMembers_eq_ok_iff members t).mp read
    rfl
  | float =>
    obtain ⟨_, _, _, _, _, _, rfl⟩ := (floatOfMembers_eq_ok_iff members t).mp read
    rfl
  | string =>
    obtain ⟨_, _, _, _, _, _, _, _, rfl⟩ := (stringOfMembers_eq_ok_iff members t).mp read
    rfl
  | bool =>
    obtain ⟨_, _, rfl⟩ := (boolOfMembers_eq_ok_iff members t).mp read
    rfl
  | reference =>
    obtain ⟨_, _, rfl⟩ := (referenceOfMembers_eq_ok_iff members t).mp read
    rfl
  | array =>
    obtain ⟨_, _, rfl⟩ := (arrayOfMembers_eq_ok_iff members t).mp read
    rfl
  | anyOf =>
    obtain ⟨_, _, rfl⟩ := (anyOfOfMembers_eq_ok_iff members t).mp read
    rfl

end FieldType

theorem ObjectKind.propertiesOfMembers_eq_ok_iff (members : List (String × Value))
    (k : ObjectKind) :
    propertiesOfMembers none members = .ok k ↔
      ∃ fields, given (· == "properties") (Value.each Property.ofValue) members = held fields ∧
        k = properties (fields.getD []) := by
  rw [reads_one propertiesOfMembers (fun found => .ok (properties (found.getD [])))
    (· == "properties") "properties" (Value.each Property.ofValue) (fun _ => rfl)]
  · simp [held, eq_comm]
  · intro found key v rest own
    cases beq_iff_eq.mp own
    rfl
  · intro found key v rest other
    rw [propertiesOfMembers]
    exact if_neg (by simpa using other)

theorem ObjectKind.variantsOfMembers_eq_ok_iff (members : List (String × Value))
    (k : ObjectKind) :
    variantsOfMembers none members = .ok k ↔
      ∃ variants, given isVariantsKey FieldType.listOfValue members = held (some variants) ∧
        k = anyOf variants := by
  refine reads_needed variantsOfMembers anyOf isVariantsKey "any_of" FieldType.listOfValue ?_ ?_ ?_
    members k
  · intro found
    cases found <;> rfl
  · intro found key v rest own
    rw [variantsOfMembers, if_pos own]
  · intro found key v rest other
    rw [variantsOfMembers, if_neg (by simpa using other)]

/-- The kind that the members describe under a tag. -/
def ObjectKind.ofMembers (tag : ObjectTag) (members : List (String × Value)) :
    Except Mismatch ObjectKind :=
  match tag with
  | .properties => propertiesOfMembers none members
  | .anyOf => variantsOfMembers none members
  | .unknown => .ok unknown

theorem ObjectKind.ofRecord_eq_ok_iff {members : List (String × Value)} {k : ObjectKind} :
    ofRecord members = .ok k ↔
      ∃ tag, given (· == "type") objectTags.ofValue members = held (some tag) ∧
        ofMembers tag members = .ok k := by
  simp only [← Tagging.search_eq_ok_iff]
  rw [ofRecord]
  cases objectTags.search none members with
  | error _ => simp [bind, Except.bind]
  | ok tag => cases tag <;> simp [bind, Except.bind, pure, Except.pure, ofMembers]

theorem memorySource_own {α : Type} (name : String) (found : Option α)
    (read : Found → Except Mismatch α) (v : Value) :
    memorySource.own name found read v = once name found (v.scalar read) := by
  cases found with
  | some _ => rfl
  | none =>
    change ((read v.found).mapError id >>= fun x => pure (some x)) = (read v.found).map some
    cases read v.found <;> rfl

/-- What a property does not read itself describes its type. -/
def Property.isHeld (key : String) : Bool :=
  key != "name" && key != "description" && key != "required"

def PropertyDraft.slots : List (MemberSlot PropertyDraft) :=
  [⟨"name", Value.scalar Found.asText, (·.name), fun d x => { d with name := x }⟩,
    ⟨"description", Value.scalar Found.asText, (·.description),
      fun d x => { d with description := x }⟩,
    ⟨"required", Value.scalar Found.asBool, (·.required), fun d x => { d with required := x }⟩]

theorem PropertyDraft.passedBy_slots : passedBy slots = fun member => Property.isHeld member.1 := by
  funext member
  simp [passedBy, slots, Property.isHeld, bne_comm, Bool.and_assoc]

theorem PropertyDraft.fillsSlots :
    FillsSlots (fun d member => d.add memorySource member.1 member.2) slots (·.others)
      fun member => [member] where
  keys := by simp [slots]
  own := by simp [slots, add, memorySource_own]
  other d member passed := by
    simp only [passedBy_iff, slots, List.forall_mem_cons] at passed
    exact ⟨{ d with others := d.others ++ [member] },
      by simp [add, passed, memorySource, Except.map], by simp [slots], rfl⟩
  get_set := by simp [slots]
  apart := by simp [slots]
  rest_set := by simp [slots]
  whole d e same more := by
    cases d; cases e
    simp_all [slots]

theorem PropertyDraft.ofMembers_eq_foldlM (members : List (String × Value)) (d : PropertyDraft) :
    d.ofMembers members =
      members.foldlM (fun d member => d.add memorySource member.1 member.2) d := by
  induction members generalizing d with
  | nil => rfl
  | cons member rest ih => simp only [ofMembers, ih, List.foldlM_cons]

theorem PropertyDraft.ofMembers_eq_ok_iff (members : List (String × Value)) (d e : PropertyDraft) :
    d.ofMembers members = .ok e ↔
      held d.name ++ given (· == "name") (Value.scalar Found.asText) members = held e.name ∧
      held d.description ++ given (· == "description") (Value.scalar Found.asText) members =
        held e.description ∧
      held d.required ++ given (· == "required") (Value.scalar Found.asBool) members =
        held e.required ∧
      e.others = d.others ++ members.filter fun member => Property.isHeld member.1 := by
  rw [ofMembers_eq_foldlM, fillsSlots.foldlM_eq_ok_iff, passedBy_slots]
  simp [slots, and_assoc]

theorem Property.ofValue_record {members : List (String × Value)} {p : Property} :
    Property.ofValue (.record members) = .ok p ↔
      given (· == "name") (Value.scalar Found.asText) members = held (some p.name) ∧
      FieldType.ofValue (.record (members.filter fun member => Property.isHeld member.1)) =
        .ok p.kind ∧
      (∃ description,
        given (· == "description") (Value.scalar Found.asText) members = held description ∧
        p.description = description.getD "") ∧
      ∃ required,
        given (· == "required") (Value.scalar Found.asBool) members = held required ∧
        p.required = required.getD false := by
  simp only [Property.ofValue, bind_eq_ok, PropertyDraft.ofMembers_eq_ok_iff, PropertyDraft.finish,
    mapError_eq_ok, FieldType.ofRecord]
  constructor
  · rintro ⟨⟨_ | name, description, required, others⟩, ⟨first, second, third, rfl⟩, _, named, kind,
      typed, done⟩
    · cases named
    · cases named
      cases done
      exact ⟨first, typed, ⟨description, second, rfl⟩, required, third, rfl⟩
  · obtain ⟨_, _, _, _⟩ := p
    rintro ⟨first, typed, ⟨description, second, rfl⟩, required, third, rfl⟩
    exact ⟨⟨some _, description, required, _⟩, ⟨first, second, third, rfl⟩, _, rfl, _, typed, rfl⟩

def ObjectDraft.ofMembers (d : ObjectDraft) :
    List (String × Value) → Except Mismatch ObjectDraft
  | [] => .ok d
  | (key, v) :: rest => do (← d.add memorySource key v).ofMembers rest

/-- An object in memory, read as one in the text is. -/
def Object.ofValue : Value → Except Mismatch Object
  | .record members => do (← ObjectDraft.ofMembers {} members).finish memorySource
  | v => .error (.wrongType v.found "struct Object")

/-- What an object does not read itself describes its kind. -/
def Object.isHeld (key : String) : Bool :=
  key != "name" && key != "description" && key != "documentation_link"

def ObjectDraft.slots : List (MemberSlot ObjectDraft) :=
  [⟨"name", Value.scalar Found.asText, (·.name), fun d x => { d with name := x }⟩,
    ⟨"description", Value.scalar Found.asText, (·.description),
      fun d x => { d with description := x }⟩,
    ⟨"documentation_link", Value.scalar Found.asText, (·.documentationLink),
      fun d x => { d with documentationLink := x }⟩]

theorem ObjectDraft.passedBy_slots : passedBy slots = fun member => Object.isHeld member.1 := by
  funext member
  simp [passedBy, slots, Object.isHeld, bne_comm, Bool.and_assoc]

theorem ObjectDraft.fillsSlots :
    FillsSlots (fun d member => d.add memorySource member.1 member.2) slots (·.others)
      fun member => [member] where
  keys := by simp [slots]
  own := by simp [slots, add, memorySource_own]
  other d member passed := by
    simp only [passedBy_iff, slots, List.forall_mem_cons] at passed
    exact ⟨{ d with others := d.others ++ [member] },
      by simp [add, passed, memorySource, Except.map], by simp [slots], rfl⟩
  get_set := by simp [slots]
  apart := by simp [slots]
  rest_set := by simp [slots]
  whole d e same more := by
    cases d; cases e
    simp_all [slots]

theorem ObjectDraft.ofMembers_eq_foldlM (members : List (String × Value)) (d : ObjectDraft) :
    d.ofMembers members =
      members.foldlM (fun d member => d.add memorySource member.1 member.2) d := by
  induction members generalizing d with
  | nil => rfl
  | cons member rest ih => simp only [ofMembers, ih, List.foldlM_cons]

theorem ObjectDraft.ofMembers_eq_ok_iff (members : List (String × Value)) (d e : ObjectDraft) :
    d.ofMembers members = .ok e ↔
      held d.name ++ given (· == "name") (Value.scalar Found.asText) members = held e.name ∧
      held d.description ++ given (· == "description") (Value.scalar Found.asText) members =
        held e.description ∧
      held d.documentationLink ++
        given (· == "documentation_link") (Value.scalar Found.asText) members =
          held e.documentationLink ∧
      e.others = d.others ++ members.filter fun member => Object.isHeld member.1 := by
  rw [ofMembers_eq_foldlM, fillsSlots.foldlM_eq_ok_iff, passedBy_slots]
  simp [slots, and_assoc]

theorem Object.ofValue_record {members : List (String × Value)} {o : Object} :
    Object.ofValue (.record members) = .ok o ↔
      given (· == "name") (Value.scalar Found.asText) members = held (some o.name) ∧
      ObjectKind.ofRecord (members.filter fun member => Object.isHeld member.1) = .ok o.kind ∧
      (∃ description,
        given (· == "description") (Value.scalar Found.asText) members = held description ∧
        o.description = description.getD "") ∧
      (∃ link, given (· == "documentation_link") (Value.scalar Found.asText) members = held link ∧
        o.documentationLink = link.getD "") ∧
      o.typeParameters = none := by
  simp only [Object.ofValue, bind_eq_ok, ObjectDraft.ofMembers_eq_ok_iff, ObjectDraft.finish,
    mapError_eq_ok]
  constructor
  · rintro ⟨⟨_ | name, description, link, others⟩, ⟨first, second, third, rfl⟩, _, named, kind,
      typed, done⟩
    · cases named
    · cases named
      cases done
      exact ⟨first, typed, ⟨description, second, rfl⟩, ⟨link, third, rfl⟩, rfl⟩
  · obtain ⟨_, _, _, _, _⟩ := o
    rintro ⟨first, typed, ⟨description, second, rfl⟩, ⟨link, third, rfl⟩, rfl⟩
    exact ⟨⟨some _, description, link, _⟩, ⟨first, second, third, rfl⟩, _, rfl, _, typed, rfl⟩

end BotTypings
