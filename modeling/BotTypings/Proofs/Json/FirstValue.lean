import BotTypings.Json.Value
import BotTypings.Proofs.Schema.Loaded

/-! The first value of a text, by a grammar of its own. A value stands at the start of a text when the
text can be taken apart by the rules of the grammar; what stands behind the value is left as it is. The
tree of a text has a root that loads exactly when a value stands at the start of the text, and then it
loads as that value. -/
namespace BotTypings.Json

/-- The next token, blanks before it left out, and what stands behind it. -/
def nextToken? : List Char → Option (Token × List Char)
  | [] => none
  | c :: cs => if isSpace c then nextToken? cs else some (scanToken c cs)

mutual

/-- At the start of the text stands the value, with room for so many nested containers, and the rest
behind it. -/
inductive ValueAt : Nat → List Char → Value → List Char → Prop
  | null {room cs rest} (word : nextToken? cs = some (.null, rest)) : ValueAt room cs .null rest
  | bool {room cs b rest} (word : nextToken? cs = some (.bool b, rest)) :
    ValueAt room cs (.bool b) rest
  | number {room cs n x rest} (numeral : nextToken? cs = some (.number n, rest))
    (finite : n.read = .ok x) : ValueAt room cs x.toValue rest
  | text {room cs s rest} (quoted : nextToken? cs = some (.text (.ok s), rest)) :
    ValueAt room cs (.text s) rest
  | emptyList {room cs inner rest} (opened : nextToken? cs = some (.openList, inner))
    (closed : nextToken? inner = some (.closeList, rest)) : ValueAt (room + 1) cs (.list []) rest
  | list {room cs inner items rest} (opened : nextToken? cs = some (.openList, inner))
    (contents : ItemsAt room inner items rest) : ValueAt (room + 1) cs (.list items) rest
  | emptyRecord {room cs inner rest} (opened : nextToken? cs = some (.openRecord, inner))
    (closed : nextToken? inner = some (.closeRecord, rest)) :
    ValueAt (room + 1) cs (.record []) rest
  | record {room cs inner members rest} (opened : nextToken? cs = some (.openRecord, inner))
    (contents : MembersAt room inner members rest) : ValueAt (room + 1) cs (.record members) rest

/-- Items with commas between them, and the bracket that closes the list. -/
inductive ItemsAt : Nat → List Char → List Value → List Char → Prop
  | last {room cs v behind rest} (item : ValueAt room cs v behind)
    (closed : nextToken? behind = some (.closeList, rest)) : ItemsAt room cs [v] rest
  | cons {room cs v behind next vs rest} (item : ValueAt room cs v behind)
    (comma : nextToken? behind = some (.comma, next)) (others : ItemsAt room next vs rest) :
    ItemsAt room cs (v :: vs) rest

/-- Keyed values with commas between them, and the brace that closes the record. -/
inductive MembersAt : Nat → List Char → List (String × Value) → List Char → Prop
  | last {room cs key pair inner v behind rest}
    (quoted : nextToken? cs = some (.text (.ok key), pair))
    (colon : nextToken? pair = some (.colon, inner)) (value : ValueAt room inner v behind)
    (closed : nextToken? behind = some (.closeRecord, rest)) : MembersAt room cs [(key, v)] rest
  | cons {room cs key pair inner v behind next members rest}
    (quoted : nextToken? cs = some (.text (.ok key), pair))
    (colon : nextToken? pair = some (.colon, inner)) (value : ValueAt room inner v behind)
    (comma : nextToken? behind = some (.comma, next))
    (others : MembersAt room next members rest) : MembersAt room cs ((key, v) :: members) rest

end

theorem tokens_of_none {cs : List Char} (blank : nextToken? cs = none) : tokens cs = [] := by
  induction cs with
  | nil => simp [tokens]
  | cons c cs ih =>
    rw [nextToken?] at blank
    split at blank
    · rename_i space
      rw [tokens, if_pos space]
      exact ih blank
    · cases blank

theorem tokens_of_some {cs : List Char} {t : Token} {rest : List Char}
    (next : nextToken? cs = some (t, rest)) : tokens cs = t :: tokens rest := by
  induction cs with
  | nil => cases next
  | cons c cs ih =>
    rw [nextToken?] at next
    rw [tokens]
    split at next <;> rename_i space
    · rw [if_pos space]
      exact ih next
    · have scanned := Option.some.inj next
      rw [if_neg space, scanned]

theorem nextToken?_length {cs : List Char} {t : Token} {rest : List Char}
    (next : nextToken? cs = some (t, rest)) : rest.length < cs.length := by
  induction cs with
  | nil => cases next
  | cons c cs ih =>
    rw [nextToken?] at next
    rw [List.length_cons]
    split at next
    · exact Nat.lt_succ_of_lt (ih next)
    · have scanned := Option.some.inj next
      have shorter := scanToken_length c cs
      rw [scanned] at shorter
      exact Nat.lt_succ_of_le shorter

theorem nextToken?_eq_none_iff {cs : List Char} :
    nextToken? cs = none ↔ ∀ c ∈ cs, isSpace c = true := by
  induction cs with
  | nil => simp [nextToken?]
  | cons c cs ih =>
    rw [nextToken?, List.forall_mem_cons, ← ih]
    split <;> simp_all

theorem tokens_isEmpty_iff (cs : List Char) :
    (tokens cs).isEmpty = true ↔ ∀ c ∈ cs, isSpace c = true := by
  rw [← nextToken?_eq_none_iff]
  cases next : nextToken? cs with
  | none => simp [tokens_of_none next]
  | some found => simp [tokens_of_some next]

def Loads (room : Nat) (n : Node) (v : Value) : Prop := n.load room = .ok v

def MemberLoads (room : Nat) (member : Key × Node) (loaded : String × Value) : Prop :=
  member.1 = .ok loaded.1 ∧ Loads room member.2 loaded.2

section

variable {room : Nat} {v : Value}

theorem loadItems_eq_ok_iff {items : List Node} {vs : List Value} :
    loadItems room items = .ok vs ↔ List.Forall₂ (Loads room) items vs := by
  induction items generalizing vs with
  | nil => cases vs <;> simp [loadItems]
  | cons n items ih =>
    simp only [loadItems, bind_eq_ok, ih]
    constructor
    · rintro ⟨v, first, vs, others, same⟩
      cases same
      exact .cons first others
    · rintro (_ | ⟨first, others⟩)
      exact ⟨_, first, _, others, rfl⟩

theorem loads_list_iff {items : List Node} :
    Loads room (.list items .closed) v ↔
      ∃ left vs, room = left + 1 ∧ List.Forall₂ (Loads left) items vs ∧ v = .list vs := by
  change (Node.list items .closed).load room = .ok v ↔ _
  simp [load_list_eq_ok_iff, loadItems_eq_ok_iff]

theorem loads_record_iff {members : List (Key × Node)} :
    Loads room (.record members none) v ↔
      ∃ left vs, room = left + 1 ∧ List.Forall₂ (MemberLoads left) members vs ∧ v = .record vs := by
  change (Node.record members none).load room = .ok v ↔ _
  simp only [load_record_eq_ok_iff, loadMembers_eq_ok_iff, true_and]
  rfl

theorem not_loads_of_ending {items : List Node} {ending : ListEnd} (broken : ending ≠ .closed) :
    ¬ Loads room (.list items ending) v := by
  simp [Loads, load_list_eq_ok_iff, broken]

theorem not_loads_of_break {members : List (Key × Node)} {why : Break} :
    ¬ Loads room (.record members (some why)) v := by
  simp [Loads, load_record_eq_ok_iff]

end

theorem ValueAt.opens {room : Nat} {cs : List Char} {v : Value} {rest : List Char}
    (stands : ValueAt room cs v rest) :
    ∃ t left, nextToken? cs = some (t, left) ∧ t ≠ .closeList := by
  cases stands with
  | null word | bool word => exact ⟨_, _, word, by nofun⟩
  | number numeral => exact ⟨_, _, numeral, by nofun⟩
  | text quoted => exact ⟨_, _, quoted, by nofun⟩
  | emptyList opened | list opened | emptyRecord opened | record opened =>
    exact ⟨_, _, opened, by nofun⟩

theorem assemble_opening {cs rest : List Char} {t : Token} (next : nextToken? cs = some (t, rest))
    (stack : List Frame) : assemble .value stack (tokens cs) = assemble t.opening stack (tokens rest) := by
  rw [tokens_of_some next]
  rfl

/-- Where an item may stand, anything but a closing bracket is taken for a value. -/
theorem assemble_item_value {cs rest : List Char} {t : Token} (next : nextToken? cs = some (t, rest))
    (opens : t ≠ .closeList) (done : List Node) (first : Bool) (stack : List Frame) :
    assemble (.item done first) stack (tokens cs) =
      assemble .value (.list done :: stack) (tokens cs) := by
  rw [tokens_of_some next]
  cases t <;> first | rfl | exact absurd rfl opens

/-- A key and its colon, up to the value. -/
theorem assemble_keyed {cs pair inner : List Char} {key : Key}
    (quoted : nextToken? cs = some (.text key, pair)) (colon : nextToken? pair = some (.colon, inner))
    (done : List (Key × Node)) (first : Bool) (stack : List Frame) :
    assemble (.key done first) stack (tokens cs) =
      assemble .value (.record done key :: stack) (tokens inner) := by
  rw [tokens_of_some quoted, assemble, tokens_of_some colon]
  rfl

mutual

/-- A value of the grammar comes to a node that loads as this value, whatever containers are open. -/
theorem ValueAt.reaches {room : Nat} {cs : List Char} {v : Value} {rest : List Char} :
    ValueAt room cs v rest → ∃ n, Loads room n v ∧
      ∀ stack, assemble .value stack (tokens cs) = assemble (.after n) stack (tokens rest)
  | .null word => ⟨.null, rfl, assemble_opening word⟩
  | .bool word => ⟨.bool _, rfl, assemble_opening word⟩
  | .number numeral finite =>
    ⟨.number _, map_eq_ok.mpr ⟨_, finite, rfl⟩, assemble_opening numeral⟩
  | .text quoted => ⟨.text (.ok _), rfl, assemble_opening quoted⟩
  | .emptyList opened closed => by
    refine ⟨.list [] .closed, loads_list_iff.mpr ⟨_, [], rfl, .nil, rfl⟩, fun stack => ?_⟩
    rw [assemble_opening opened, tokens_of_some closed]
    rfl
  | .list opened contents => by
    obtain ⟨ns, loaded, run⟩ := contents.reaches
    refine ⟨.list ns .closed, loads_list_iff.mpr ⟨_, _, rfl, loaded, rfl⟩, fun stack => ?_⟩
    exact (assemble_opening opened stack).trans (run [] true stack)
  | .emptyRecord opened closed => by
    refine ⟨.record [] none, loads_record_iff.mpr ⟨_, [], rfl, .nil, rfl⟩, fun stack => ?_⟩
    rw [assemble_opening opened, tokens_of_some closed]
    rfl
  | .record opened contents => by
    obtain ⟨ns, loaded, run⟩ := contents.reaches
    refine ⟨.record ns none, loads_record_iff.mpr ⟨_, _, rfl, loaded, rfl⟩, fun stack => ?_⟩
    exact (assemble_opening opened stack).trans (run [] true stack)

theorem ItemsAt.reaches {room : Nat} {cs : List Char} {vs : List Value} {rest : List Char} :
    ItemsAt room cs vs rest → ∃ ns, List.Forall₂ (Loads room) ns vs ∧
      ∀ done first stack, assemble (.item done first) stack (tokens cs) =
        assemble (.after (.list (done.reverse ++ ns) .closed)) stack (tokens rest)
  | .last item closed => by
    obtain ⟨n, loaded, run⟩ := item.reaches
    obtain ⟨t, left, next, opens⟩ := item.opens
    refine ⟨[n], .cons loaded .nil, fun done first stack => ?_⟩
    rw [assemble_item_value next opens, run, tokens_of_some closed, assemble, List.reverse_cons]
  | .cons item comma others => by
    obtain ⟨n, loaded, run⟩ := item.reaches
    obtain ⟨ns, othersLoaded, runOthers⟩ := others.reaches
    obtain ⟨t, left, next, opens⟩ := item.opens
    refine ⟨n :: ns, .cons loaded othersLoaded, fun done first stack => ?_⟩
    rw [assemble_item_value next opens, run, tokens_of_some comma, assemble, runOthers,
      List.reverse_cons, List.append_assoc, List.singleton_append]

theorem MembersAt.reaches {room : Nat} {cs : List Char} {members : List (String × Value)}
    {rest : List Char} :
    MembersAt room cs members rest → ∃ ns, List.Forall₂ (MemberLoads room) ns members ∧
      ∀ done first stack, assemble (.key done first) stack (tokens cs) =
        assemble (.after (.record (done.reverse ++ ns) none)) stack (tokens rest)
  | .last quoted colon value closed => by
    obtain ⟨n, loaded, run⟩ := value.reaches
    refine ⟨[(.ok _, n)], .cons ⟨rfl, loaded⟩ .nil, fun done first stack => ?_⟩
    rw [assemble_keyed quoted colon, run, tokens_of_some closed, assemble, List.reverse_cons]
  | .cons quoted colon value comma others => by
    obtain ⟨n, loaded, run⟩ := value.reaches
    obtain ⟨ns, othersLoaded, runOthers⟩ := others.reaches
    refine ⟨(.ok _, n) :: ns, .cons ⟨rfl, loaded⟩ othersLoaded, fun done first stack => ?_⟩
    rw [assemble_keyed quoted colon, run, tokens_of_some comma, assemble, runOthers,
      List.reverse_cons, List.append_assoc, List.singleton_append]

end

/-- What a run does at the start of a text, whatever containers are open around it. Either it comes to
a node and leaves the rest, and what the node loads as stands there; or the text breaks, and what the
break leaves behind loads as nothing. -/
inductive Proceeds (run : List Frame → Document) (cs : List Char)
    (stands : Nat → Value → List Char → Prop) : Prop
  | reaches (n : Node) (rest : List Char) (shorter : rest.length < cs.length)
    (comes : ∀ stack, run stack = assemble (.after n) stack (tokens rest))
    (loads : ∀ room v, Loads room n v → stands room v rest)
  | breaks (n : Node) (ends : ∀ stack, run stack = broken stack n)
    (never : ∀ room v, ¬ Loads room n v)

section

variable {run run' : List Frame → Document} {cs : List Char}
  {stands stands' : Nat → Value → List Char → Prop}

theorem Proceeds.widen {left : List Char} (proceeds : Proceeds run left stands)
    (same : ∀ stack, run' stack = run stack) (shorter : left.length ≤ cs.length)
    (here : ∀ room v rest, stands room v rest → stands' room v rest) : Proceeds run' cs stands' := by
  obtain rfl : run' = run := funext same
  cases proceeds with
  | reaches n rest shorterRest comes loads =>
    exact .reaches n rest (by omega) comes fun room v loaded => here room v rest (loads room v loaded)
  | breaks n ends never => exact .breaks n ends never

theorem Proceeds.of_ending (items : List Node) {ending : ListEnd} (unended : ending ≠ .closed)
    (ends : ∀ stack, run stack = broken stack (.list items ending)) : Proceeds run cs stands :=
  .breaks _ ends fun _ _ => not_loads_of_ending unended

theorem Proceeds.of_break (members : List (Key × Node)) (why : Break)
    (ends : ∀ stack, run stack = broken stack (.record members (some why))) :
    Proceeds run cs stands :=
  .breaks _ ends fun _ _ => not_loads_of_break

end

def ValueProceeds (cs : List Char) : Prop :=
  Proceeds (fun stack => assemble .value stack (tokens cs)) cs (ValueAt · cs)

/-- A list of the items that are done, last first, and of those that stand in the text. -/
def ListStands (done : List Node) (cs : List Char) (room : Nat) (v : Value) (rest : List Char) : Prop :=
  ∃ left before items, room = left + 1 ∧ List.Forall₂ (Loads left) done before ∧
    ItemsAt left cs items rest ∧ v = .list (before.reverse ++ items)

def ItemsProceed (done : List Node) (first : Bool) (cs : List Char) : Prop :=
  Proceeds (fun stack => assemble (.item done first) stack (tokens cs)) cs (ListStands done cs)

theorem ListStands.closed {done : List Node} {n : Node} {cs behind rest : List Char} {room : Nat}
    {v : Value} (item : ∀ room v, Loads room n v → ValueAt room cs v behind)
    (bracket : nextToken? behind = some (.closeList, rest))
    (loaded : Loads room (.list (n :: done).reverse .closed) v) :
    ListStands done cs room v rest := by
  obtain ⟨left, vs, rfl, all, rfl⟩ := loads_list_iff.mp loaded
  rw [← vs.reverse_reverse, List.forall₂_reverse_iff] at all
  obtain ⟨w, before, here, others, reversed⟩ := List.forall₂_cons_left_iff.mp all
  refine ⟨left, before, [w], rfl, others, .last (item left w here) bracket, ?_⟩
  rw [← vs.reverse_reverse, reversed, List.reverse_cons]

theorem ListStands.cons {done : List Node} {n : Node} {cs behind next rest : List Char} {room : Nat}
    {v : Value} (item : ∀ room v, Loads room n v → ValueAt room cs v behind)
    (comma : nextToken? behind = some (.comma, next))
    (stands : ListStands (n :: done) next room v rest) : ListStands done cs room v rest := by
  obtain ⟨left, loaded, items, rfl, all, others, rfl⟩ := stands
  obtain ⟨w, before, here, doneLoaded, rfl⟩ := List.forall₂_cons_left_iff.mp all
  exact ⟨left, before, w :: items, rfl, doneLoaded, .cons (item left w here) comma others, by simp⟩

/-- Behind an item the list is closed, or goes on, or breaks. -/
theorem after_item (done : List Node) {n : Node} {cs behind : List Char}
    (shorter : behind.length < cs.length)
    (item : ∀ room v, Loads room n v → ValueAt room cs v behind)
    (others : ∀ next, next.length < behind.length → ItemsProceed (n :: done) false next) :
    Proceeds (fun stack => assemble (.after n) (.list done :: stack) (tokens behind)) cs
      (ListStands done cs) := by
  cases separator : nextToken? behind with
  | none =>
    have unclosed : ListEnd.unclosed ≠ .closed := nofun
    refine .of_ending (n :: done).reverse unclosed fun stack => ?_
    rw [tokens_of_none separator, assemble]
  | some found =>
    obtain ⟨t, rest⟩ := found
    have shorterRest := nextToken?_length separator
    rw [tokens_of_some separator]
    cases t with
    | closeList =>
      exact .reaches _ rest (by omega) (fun _ => rfl) fun _ _ => .closed item separator
    | comma =>
      exact (others rest shorterRest).widen (fun _ => rfl) (by omega) fun _ _ _ => .cons item separator
    | _ =>
      have unseparated : ListEnd.unseparated ≠ .closed := nofun
      exact .of_ending (n :: done).reverse unseparated fun _ => rfl

theorem items_proceed {size : Nat} (values : ∀ cs : List Char, cs.length < size → ValueProceeds cs)
    (cs : List Char) (small : cs.length < size) (done : List Node) (first : Bool)
    (further : ∀ rest, nextToken? cs = some (.closeList, rest) → first = false) :
    ItemsProceed done first cs := by
  have unclosed : ListEnd.unclosed ≠ .closed := nofun
  cases next : nextToken? cs with
  | none =>
    cases first with
    | true =>
      refine .of_ending done.reverse unclosed fun stack => ?_
      rw [tokens_of_none next]
      rfl
    | false =>
      refine .of_ending (done.reverse ++ [.broken (.same .endOfValue)]) unclosed fun stack => ?_
      rw [tokens_of_none next]
      rfl
  | some found =>
    obtain ⟨t, rest⟩ := found
    -- A closing bracket here has a comma before it, since an empty list was closed at its opening.
    by_cases closing : t = .closeList
    · subst closing
      obtain rfl := further rest next
      have dangling : ListEnd.dangling ≠ .closed := nofun
      refine .of_ending done.reverse dangling fun stack => ?_
      rw [tokens_of_some next]
      rfl
    · have item := assemble_item_value next closing done first
      rcases values cs small with ⟨n, behind, shorter, comes, loads⟩ | ⟨n, ends, -⟩
      · have behindItem := after_item done shorter loads fun next shorterNext =>
          items_proceed values next (by omega) (n :: done) false fun _ _ => rfl
        exact behindItem.widen (fun stack => (item stack).trans (comes _)) (Nat.le_refl _)
          fun _ _ _ stands => stands
      · exact .of_ending (done.reverse ++ [n]) unclosed fun stack => (item stack).trans (ends _)
  termination_by cs.length

def RecordStands (done : List (Key × Node)) (cs : List Char) (room : Nat) (v : Value)
    (rest : List Char) : Prop :=
  ∃ left before members, room = left + 1 ∧ List.Forall₂ (MemberLoads left) done before ∧
    MembersAt left cs members rest ∧ v = .record (before.reverse ++ members)

def MembersProceed (done : List (Key × Node)) (first : Bool) (cs : List Char) : Prop :=
  Proceeds (fun stack => assemble (.key done first) stack (tokens cs)) cs (RecordStands done cs)

theorem RecordStands.closed {done : List (Key × Node)} {key : Key} {n : Node}
    {cs pair inner behind rest : List Char} {room : Nat} {v : Value}
    (quoted : nextToken? cs = some (.text key, pair)) (colon : nextToken? pair = some (.colon, inner))
    (value : ∀ room v, Loads room n v → ValueAt room inner v behind)
    (brace : nextToken? behind = some (.closeRecord, rest))
    (loaded : Loads room (.record ((key, n) :: done).reverse none) v) :
    RecordStands done cs room v rest := by
  obtain ⟨left, vs, rfl, all, rfl⟩ := loads_record_iff.mp loaded
  rw [← vs.reverse_reverse, List.forall₂_reverse_iff] at all
  obtain ⟨⟨k, w⟩, before, ⟨rfl, here⟩, others, reversed⟩ := List.forall₂_cons_left_iff.mp all
  refine ⟨left, before, [(k, w)], rfl, others, .last quoted colon (value left w here) brace, ?_⟩
  rw [← vs.reverse_reverse, reversed, List.reverse_cons]

theorem RecordStands.cons {done : List (Key × Node)} {key : Key} {n : Node}
    {cs pair inner behind next rest : List Char} {room : Nat} {v : Value}
    (quoted : nextToken? cs = some (.text key, pair)) (colon : nextToken? pair = some (.colon, inner))
    (value : ∀ room v, Loads room n v → ValueAt room inner v behind)
    (comma : nextToken? behind = some (.comma, next))
    (stands : RecordStands ((key, n) :: done) next room v rest) : RecordStands done cs room v rest := by
  obtain ⟨left, loaded, members, rfl, all, others, rfl⟩ := stands
  obtain ⟨⟨k, w⟩, before, ⟨rfl, here⟩, doneLoaded, rfl⟩ := List.forall₂_cons_left_iff.mp all
  exact ⟨left, before, (k, w) :: members, rfl, doneLoaded,
    .cons quoted colon (value left w here) comma others, by simp⟩

/-- Behind a member the record is closed, or goes on, or breaks. -/
theorem after_member (done : List (Key × Node)) {key : Key} {n : Node}
    {cs pair inner behind : List Char} (shorter : behind.length < cs.length)
    (quoted : nextToken? cs = some (.text key, pair)) (colon : nextToken? pair = some (.colon, inner))
    (value : ∀ room v, Loads room n v → ValueAt room inner v behind)
    (others : ∀ next, next.length < behind.length → MembersProceed ((key, n) :: done) false next) :
    Proceeds (fun stack => assemble (.after n) (.record done key :: stack) (tokens behind)) cs
      (RecordStands done cs) := by
  cases separator : nextToken? behind with
  | none =>
    refine .of_break ((key, n) :: done).reverse (.same .endOfRecord) fun stack => ?_
    rw [tokens_of_none separator, assemble]
  | some found =>
    obtain ⟨t, rest⟩ := found
    have shorterRest := nextToken?_length separator
    rw [tokens_of_some separator]
    cases t with
    | closeRecord =>
      exact .reaches _ rest (by omega) (fun _ => rfl) fun _ _ => .closed quoted colon value separator
    | comma =>
      exact (others rest shorterRest).widen (fun _ => rfl) (by omega) fun _ _ _ =>
        .cons quoted colon value separator
    | _ =>
      exact .of_break ((key, n) :: done).reverse (.same .expectedRecordSeparator) fun _ => rfl

theorem after_key (done : List (Key × Node)) (first : Bool) {key : Key} {cs pair : List Char}
    (quoted : nextToken? cs = some (.text key, pair))
    (values : ∀ inner, inner.length < pair.length → ValueProceeds inner)
    (others : ∀ n next, next.length < pair.length → MembersProceed ((key, n) :: done) false next) :
    MembersProceed done first cs := by
  have shorterPair := nextToken?_length quoted
  cases colon : nextToken? pair with
  | none =>
    refine .of_break (done.reverse ++ [(key, .broken (.same .endOfRecord))]) (.same .endOfRecord)
      fun stack => ?_
    rw [tokens_of_some quoted, assemble, tokens_of_none colon]
    rfl
  | some found =>
    obtain ⟨t, inner⟩ := found
    have shorterInner := nextToken?_length colon
    cases t with
    | colon =>
      have member := assemble_keyed quoted colon done first
      rcases values inner shorterInner with ⟨n, behind, shorter, comes, loads⟩ | ⟨n, ends, -⟩
      · have shorterBehind : behind.length < cs.length := by omega
        have behindMember := after_member done shorterBehind quoted colon loads
          fun next shorterNext => others n next (by omega)
        exact behindMember.widen (fun stack => (member stack).trans (comes _)) (Nat.le_refl _)
          fun _ _ _ stands => stands
      · exact .of_break (done.reverse ++ [(key, n)]) (.same .endOfRecord) fun stack =>
          (member stack).trans (ends _)
    | _ =>
      refine .of_break (done.reverse ++ [(key, .broken (.same .expectedColon))])
        (.same .endOfRecord) fun stack => ?_
      rw [tokens_of_some quoted, assemble, tokens_of_some colon]
      rfl

theorem members_proceed {size : Nat}
    (values : ∀ cs : List Char, cs.length < size → ValueProceeds cs) (cs : List Char)
    (small : cs.length < size) (done : List (Key × Node)) (first : Bool)
    (further : ∀ rest, nextToken? cs = some (.closeRecord, rest) → first = false) :
    MembersProceed done first cs := by
  cases next : nextToken? cs with
  | none =>
    refine .of_break done.reverse
      (if first then .same .endOfRecord else ⟨.endOfValue, .endOfRecord⟩) fun stack => ?_
    rw [tokens_of_none next]
    rfl
  | some found =>
    obtain ⟨t, pair⟩ := found
    have shorterPair := nextToken?_length next
    cases t with
    | text key =>
      refine after_key done first next (fun inner shorter => values inner (by omega)) ?_
      intro n next shorter
      exact members_proceed values next (by omega) ((key, n) :: done) false fun _ _ => rfl
    | brokenText why =>
      refine .of_break done.reverse why fun stack => ?_
      rw [tokens_of_some next]
      rfl
    | closeRecord =>
      obtain rfl := further pair next
      refine .of_break done.reverse ⟨.trailingComma, .keyNotText⟩ fun stack => ?_
      rw [tokens_of_some next]
      rfl
    | _ =>
      refine .of_break done.reverse (.same .keyNotText) fun stack => ?_
      rw [tokens_of_some next]
      rfl
  termination_by cs.length

theorem list_proceeds {cs inner : List Char} (opened : nextToken? cs = some (.openList, inner))
    (values : ∀ text : List Char, text.length < cs.length → ValueProceeds text) :
    ValueProceeds cs := by
  have shorter := nextToken?_length opened
  by_cases empty : ∃ rest, nextToken? inner = some (.closeList, rest)
  · obtain ⟨rest, closed⟩ := empty
    have shorterRest := nextToken?_length closed
    refine .reaches (.list [] .closed) rest (by omega) (fun stack => ?_) fun room v loaded => ?_
    · rw [tokens_of_some opened, assemble, tokens_of_some closed]
      rfl
    · obtain ⟨left, vs, rfl, none, rfl⟩ := loads_list_iff.mp loaded
      cases none
      exact .emptyList opened closed
  · have items := items_proceed values inner shorter [] true fun rest closed =>
      absurd ⟨rest, closed⟩ empty
    refine items.widen (assemble_opening opened) (by omega) fun room v rest stands => ?_
    obtain ⟨left, before, vs, rfl, none, contents, rfl⟩ := stands
    cases none
    exact .list opened contents

theorem record_proceeds {cs inner : List Char} (opened : nextToken? cs = some (.openRecord, inner))
    (values : ∀ text : List Char, text.length < cs.length → ValueProceeds text) :
    ValueProceeds cs := by
  have shorter := nextToken?_length opened
  by_cases empty : ∃ rest, nextToken? inner = some (.closeRecord, rest)
  · obtain ⟨rest, closed⟩ := empty
    have shorterRest := nextToken?_length closed
    refine .reaches (.record [] none) rest (by omega) (fun stack => ?_) fun room v loaded => ?_
    · rw [tokens_of_some opened, assemble, tokens_of_some closed]
      rfl
    · obtain ⟨left, vs, rfl, none, rfl⟩ := loads_record_iff.mp loaded
      cases none
      exact .emptyRecord opened closed
  · have members := members_proceed values inner shorter [] true fun rest closed =>
      absurd ⟨rest, closed⟩ empty
    refine members.widen (assemble_opening opened) (by omega) fun room v rest stands => ?_
    obtain ⟨left, before, vs, rfl, none, contents, rfl⟩ := stands
    cases none
    exact .record opened contents

theorem value_proceeds (cs : List Char) : ValueProceeds cs := by
  -- Whatever stands inside of a container stands in a shorter text.
  have values (text : List Char) (shorter : text.length < cs.length) : ValueProceeds text :=
    value_proceeds text
  cases next : nextToken? cs with
  | none =>
    refine .breaks (.broken (.same .endOfValue)) (fun stack => ?_) nofun
    rw [tokens_of_none next]
    rfl
  | some found =>
    obtain ⟨t, rest⟩ := found
    have shorter := nextToken?_length next
    have opening := assemble_opening next
    cases t with
    | openList => exact list_proceeds next values
    | openRecord => exact record_proceeds next values
    | null =>
      refine .reaches .null rest shorter opening fun room v loaded => ?_
      cases loaded
      exact .null next
    | bool b =>
      refine .reaches (.bool b) rest shorter opening fun room v loaded => ?_
      cases loaded
      exact .bool next
    | number n =>
      refine .reaches (.number n) rest shorter opening fun room v loaded => ?_
      obtain ⟨x, finite, rfl⟩ := map_eq_ok.mp loaded
      exact .number next finite
    | text content =>
      refine .reaches (.text content) rest shorter opening fun room v loaded => ?_
      obtain ⟨s, rfl, rfl⟩ := map_eq_ok.mp loaded
      exact .text next
    | brokenText why | brokenScalar why => exact .reaches (.broken why) rest shorter opening nofun
    | closeList | closeRecord | comma | colon | stray _ =>
      exact .reaches (.broken (.same .expectedValue)) rest shorter opening nofun
  termination_by cs.length

/-- The value that a text starts with, and what stands behind it. -/
def FirstValue (text : String) (v : Value) (rest : List Char) : Prop :=
  ValueAt deepest text.toList v rest

theorem FirstValue.exists_ofText {text : String} {v : Value} {rest : List Char}
    (stands : FirstValue text v rest) :
    ∃ n, Loads deepest n v ∧ Document.ofText text = ⟨n, !(tokens rest).isEmpty⟩ := by
  obtain ⟨n, loaded, run⟩ := ValueAt.reaches stands
  refine ⟨n, loaded, (run []).trans ?_⟩
  rw [assemble]

theorem exists_firstValue_iff {text : String} {v : Value} :
    (∃ rest, FirstValue text v rest) ↔ Loads deepest (Document.ofText text).root v := by
  constructor
  · rintro ⟨rest, stands⟩
    obtain ⟨n, loaded, tree⟩ := stands.exists_ofText
    rwa [tree]
  · intro loaded
    rcases value_proceeds text.toList with ⟨n, rest, _, comes, loads⟩ | ⟨n, ends, never⟩
    · have tree : Document.ofText text = ⟨n, !(tokens rest).isEmpty⟩ := by
        rw [Document.ofText, comes, assemble]
      rw [tree] at loaded
      exact ⟨rest, loads deepest v loaded⟩
    · have tree : Document.ofText text = ⟨n, false⟩ := ends []
      rw [tree] at loaded
      exact absurd loaded (never deepest v)

theorem FirstValue.unique {text : String} {v w : Value} {rest left : List Char}
    (stands : FirstValue text v rest) (standsToo : FirstValue text w left) : v = w := by
  have loaded := exists_firstValue_iff.mp ⟨rest, stands⟩
  have loadedToo := exists_firstValue_iff.mp ⟨left, standsToo⟩
  exact Except.ok.inj (loaded.symm.trans loadedToo)

end BotTypings.Json
