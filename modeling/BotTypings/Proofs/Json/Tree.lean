import BotTypings.Json.Scalar
import BotTypings.Proofs.Json.Scalars

/-! The tree of a written value. Written on one line, a value without doubles is read as one tree,
that of its own members in their own order, and loading the tree gives the value back as long as
there is room for its nesting. The text behind the value is left as it was. -/
namespace BotTypings.Json

mutual

/-- No doubles, and no integer beyond sixty-four bits: what the text gives back without rounding. -/
def Value.Exact : Value → Prop
  | .null | .bool _ | .text _ => True
  | .integer n => Fits64 n
  | .float _ => False
  | .list items => ItemsExact items
  | .record members => MembersExact members

def ItemsExact : List Value → Prop
  | [] => True
  | v :: vs => v.Exact ∧ ItemsExact vs

def MembersExact : List (String × Value) → Prop
  | [] => True
  | (_, v) :: members => v.Exact ∧ MembersExact members

end

mutual

/-- How many lists and records stand inside one another. -/
def Value.nesting : Value → Nat
  | .list items => itemsNesting items + 1
  | .record members => membersNesting members + 1
  | _ => 0

def itemsNesting : List Value → Nat
  | [] => 0
  | v :: vs => max v.nesting (itemsNesting vs)

def membersNesting : List (String × Value) → Nat
  | [] => 0
  | (_, v) :: members => max v.nesting (membersNesting members)

end

mutual

/-- The tree of an exact value. Nothing is said about doubles, so theirs is left broken. -/
def Value.node : Value → Node
  | .null => .null
  | .bool b => .bool b
  | .integer n => .number (integerNumeral n)
  | .float _ => .broken (.same .invalidNumber)
  | .text s => .text (.ok s)
  | .list items => .list (itemNodes items) .closed
  | .record members => .record (memberNodes members) none

def itemNodes : List Value → List Node
  | [] => []
  | v :: vs => v.node :: itemNodes vs

def memberNodes : List (String × Value) → List (Key × Node)
  | [] => []
  | (key, v) :: members => (.ok key, v.node) :: memberNodes members

end

theorem tokens_cons {c : Char} (solid : isSpace c = false) (cs : List Char) :
    tokens (c :: cs) = (scanToken c cs).1 :: tokens (scanToken c cs).2 := by
  rw [tokens, if_neg (by rw [solid]; decide)]

theorem tokens_openList (cs : List Char) : tokens ('[' :: cs) = .openList :: tokens cs :=
  tokens_cons rfl cs

theorem tokens_closeList (cs : List Char) : tokens (']' :: cs) = .closeList :: tokens cs :=
  tokens_cons rfl cs

theorem tokens_openRecord (cs : List Char) : tokens ('{' :: cs) = .openRecord :: tokens cs :=
  tokens_cons rfl cs

theorem tokens_closeRecord (cs : List Char) : tokens ('}' :: cs) = .closeRecord :: tokens cs :=
  tokens_cons rfl cs

theorem tokens_comma (cs : List Char) : tokens (',' :: cs) = .comma :: tokens cs :=
  tokens_cons rfl cs

theorem tokens_colon (cs : List Char) : tokens (':' :: cs) = .colon :: tokens cs :=
  tokens_cons rfl cs

theorem encodeText_toList (s : String) (rest : List Char) :
    (encodeText s).toList ++ rest = '"' :: (s.toList.flatMap encodeChar ++ '"' :: rest) := by
  simp [encodeText]

theorem tokens_text (s : String) (rest : List Char) :
    tokens ((encodeText s).toList ++ rest) = .text (.ok s) :: tokens rest := by
  rw [encodeText_toList, tokens_cons rfl, scanToken_written]

theorem integer_toList (n : Int) :
    (toString n).toList =
      (if n < 0 then ['-'] else []) ++ Nat.toDigits 10 n.natAbs := by
  rw [Int.toString_eq_repr, Int.repr_eq_if]
  by_cases negative : n < 0
  · have size : (-n).toNat = n.natAbs := by omega
    rw [if_neg (by omega), if_pos negative, String.toList_append, Nat.toList_repr, size]
    rfl
  · have size : n.toNat = n.natAbs := by omega
    rw [if_pos (by omega), if_neg negative, Nat.toList_repr, size, List.nil_append]

/-- A written integer has a sign and digits, and no other character. -/
theorem notMem_integer {c : Char} (unsigned : c ≠ '-') (other : c.isDigit = false) (n : Int) :
    c ∉ (toString n).toList := by
  rw [integer_toList, List.mem_append, not_or]
  constructor
  · split
    · exact fun sign => unsigned (List.mem_singleton.mp sign)
    · exact List.not_mem_nil
  · intro mem
    rw [toDigits_isDigit n.natAbs c mem] at other
    cases other

theorem scanToken_digit {c : Char} (digit : c.isDigit = true) (cs : List Char) :
    scanToken c cs = scanNumber false (c :: cs) := by
  unfold scanToken
  split
  case h_12 => rw [if_pos digit]
  all_goals exact absurd digit (by decide)

theorem isSpace_digit {c : Char} (digit : c.isDigit = true) : isSpace c = false := by
  cases space : isSpace c with
  | false => rfl
  | true =>
    have blank : c = ' ' ∨ c = '\t' ∨ c = '\n' ∨ c = '\r' := by
      simpa only [isSpace, Bool.or_eq_true, beq_iff_eq, or_assoc] using space
    rcases blank with rfl | rfl | rfl | rfl <;> exact absurd digit (by decide)

theorem tokens_integer (n : Int) {rest : List Char} (ends : EndsNumber rest) :
    tokens ((toString n).toList ++ rest) = .number (integerNumeral n) :: tokens rest := by
  rw [integer_toList, integerNumeral]
  by_cases negative : n < 0
  · rw [if_pos negative, decide_eq_true negative]
    change tokens ('-' :: (Nat.toDigits 10 n.natAbs ++ rest)) = _
    have scan : scanToken '-' (Nat.toDigits 10 n.natAbs ++ rest) =
        (.number ⟨true, Nat.toDigits 10 n.natAbs, [], none⟩, rest) :=
      scanNumber_toDigits true n.natAbs ends
    rw [tokens_cons rfl, scan]
  · rw [if_neg negative, decide_eq_false negative, List.nil_append]
    have scan := scanNumber_toDigits false n.natAbs ends
    obtain ⟨d, ds, digits⟩ := List.exists_cons_of_ne_nil
      (Nat.toDigits_ne_nil (n := n.natAbs) (b := 10))
    have digit : d.isDigit = true :=
      toDigits_isDigit n.natAbs d (by rw [digits]; exact List.mem_cons_self)
    rw [digits] at scan ⊢
    rw [List.cons_append, tokens_cons (isSpace_digit digit), scanToken_digit digit,
      ← List.cons_append, scan]

theorem compactItems_ends (vs : List Value) (rest : List Char) :
    EndsNumber ((compactItems vs).toList ++ rest) := by
  cases vs with
  | nil => exact ⟨rfl, by decide, by decide, by decide⟩
  | cons v vs =>
    simp only [compactItems, String.toList_append, List.append_assoc]
    exact ⟨rfl, by decide, by decide, by decide⟩

theorem compactMembers_ends (members : List (String × Value)) (rest : List Char) :
    EndsNumber ((compactMembers members).toList ++ rest) := by
  cases members with
  | nil => exact ⟨rfl, by decide, by decide, by decide⟩
  | cons member members =>
    simp only [compactMembers, String.toList_append, List.append_assoc]
    exact ⟨rfl, by decide, by decide, by decide⟩

/-- No value starts with the bracket that closes a list. -/
theorem tokens_value {v : Value} (exact : v.Exact) {rest : List Char} (ends : EndsNumber rest) :
    ∃ t ts, tokens (v.compact.toList ++ rest) = t :: ts ∧ t ≠ .closeList := by
  match v, exact with
  | .null, _ => exact ⟨_, _, tokens_cons (c := 'n') rfl _, by nofun⟩
  | .bool true, _ => exact ⟨_, _, tokens_cons (c := 't') rfl _, by nofun⟩
  | .bool false, _ => exact ⟨_, _, tokens_cons (c := 'f') rfl _, by nofun⟩
  | .integer n, _ => exact ⟨_, _, tokens_integer n ends, by nofun⟩
  | .text s, _ => exact ⟨_, _, tokens_text s rest, by nofun⟩
  | .list [], _ => exact ⟨_, _, tokens_openList _, by nofun⟩
  | .list (v :: vs), _ =>
    rw [Value.compact, String.toList_append, String.toList_append]
    exact ⟨_, _, tokens_openList _, by nofun⟩
  | .record [], _ => exact ⟨_, _, tokens_openRecord _, by nofun⟩
  | .record ((key, v) :: members), _ =>
    simp only [Value.compact, String.toList_append, List.append_assoc]
    exact ⟨_, _, tokens_openRecord _, by nofun⟩

theorem assemble_item {v : Value} (exact : v.Exact) {rest : List Char} (ends : EndsNumber rest)
    (done : List Node) (first : Bool) (stack : List Frame) :
    assemble (.item done first) stack (tokens (v.compact.toList ++ rest)) =
      assemble .value (.list done :: stack) (tokens (v.compact.toList ++ rest)) := by
  obtain ⟨t, ts, scanned, opens⟩ := tokens_value exact ends
  rw [scanned]
  cases t <;> first | rfl | exact absurd rfl opens

theorem assemble_key (key : String) (rest : List Char) (done : List (Key × Node)) (first : Bool)
    (stack : List Frame) :
    assemble (.key done first) stack (tokens ((encodeText key).toList ++ ':' :: rest)) =
      assemble .value (.record done (.ok key) :: stack) (tokens rest) := by
  rw [tokens_text, tokens_colon]
  rfl

mutual

theorem assemble_value : (v : Value) → v.Exact → (stack : List Frame) → (rest : List Char) →
    EndsNumber rest → assemble .value stack (tokens (v.compact.toList ++ rest)) =
      assemble (.after v.node) stack (tokens rest)
  | .null, _, stack, rest, _ => by
    have word : tokens ('n' :: 'u' :: 'l' :: 'l' :: rest) = .null :: tokens rest :=
      tokens_cons rfl _
    exact congrArg (assemble .value stack) word
  | .bool true, _, stack, rest, _ => by
    have word : tokens ('t' :: 'r' :: 'u' :: 'e' :: rest) = .bool true :: tokens rest :=
      tokens_cons rfl _
    exact congrArg (assemble .value stack) word
  | .bool false, _, stack, rest, _ => by
    have word : tokens ('f' :: 'a' :: 'l' :: 's' :: 'e' :: rest) = .bool false :: tokens rest :=
      tokens_cons rfl _
    exact congrArg (assemble .value stack) word
  | .integer n, _, stack, rest, ends => by
    rw [Value.compact, tokens_integer n ends]
    rfl
  | .text s, _, stack, rest, _ => by
    rw [Value.compact, tokens_text]
    rfl
  | .list [], _, stack, rest, _ => by
    change assemble .value stack (tokens ('[' :: ']' :: rest)) = _
    rw [tokens_openList, tokens_closeList]
    rfl
  | .list (v :: vs), exact, stack, rest, _ => by
    have ends := compactItems_ends vs rest
    have text : (Value.list (v :: vs)).compact.toList ++ rest =
        '[' :: (v.compact.toList ++ ((compactItems vs).toList ++ rest)) := by
      simp [Value.compact]
    rw [text, tokens_openList]
    change assemble (.item [] true) stack
      (tokens (v.compact.toList ++ ((compactItems vs).toList ++ rest))) = _
    rw [assemble_item exact.1 ends, assemble_value v exact.1 _ _ ends, assemble_items vs exact.2]
    rfl
  | .record [], _, stack, rest, _ => by
    change assemble .value stack (tokens ('{' :: '}' :: rest)) = _
    rw [tokens_openRecord, tokens_closeRecord]
    rfl
  | .record ((key, v) :: members), exact, stack, rest, _ => by
    have ends := compactMembers_ends members rest
    have text : (Value.record ((key, v) :: members)).compact.toList ++ rest =
        '{' :: ((encodeText key).toList ++
          ':' :: (v.compact.toList ++ ((compactMembers members).toList ++ rest))) := by
      simp [Value.compact]
    rw [text, tokens_openRecord]
    change assemble (.key [] true) stack (tokens ((encodeText key).toList ++
      ':' :: (v.compact.toList ++ ((compactMembers members).toList ++ rest)))) = _
    rw [assemble_key, assemble_value v exact.1 _ _ ends, assemble_members members exact.2]
    rfl

theorem assemble_items : (vs : List Value) → ItemsExact vs → (n : Node) → (done : List Node) →
    (stack : List Frame) → (rest : List Char) →
    assemble (.after n) (.list done :: stack) (tokens ((compactItems vs).toList ++ rest)) =
      assemble (.after (.list (done.reverse ++ n :: itemNodes vs) .closed)) stack (tokens rest)
  | [], _, n, done, stack, rest => by
    change assemble (.after n) (.list done :: stack) (tokens (']' :: rest)) = _
    rw [tokens_closeList, assemble, List.reverse_cons]
    rfl
  | v :: vs, exact, n, done, stack, rest => by
    have ends := compactItems_ends vs rest
    have text : (compactItems (v :: vs)).toList ++ rest =
        ',' :: (v.compact.toList ++ ((compactItems vs).toList ++ rest)) := by
      simp [compactItems]
    rw [text, tokens_comma]
    change assemble (.item (n :: done) false) stack
      (tokens (v.compact.toList ++ ((compactItems vs).toList ++ rest))) = _
    rw [assemble_item exact.1 ends, assemble_value v exact.1 _ _ ends, assemble_items vs exact.2,
      List.reverse_cons, List.append_assoc]
    rfl

theorem assemble_members : (members : List (String × Value)) → MembersExact members → (n : Node) →
    (done : List (Key × Node)) → (key : Key) → (stack : List Frame) → (rest : List Char) →
    assemble (.after n) (.record done key :: stack)
      (tokens ((compactMembers members).toList ++ rest)) =
      assemble (.after (.record (done.reverse ++ (key, n) :: memberNodes members) none)) stack
        (tokens rest)
  | [], _, n, done, key, stack, rest => by
    change assemble (.after n) (.record done key :: stack) (tokens ('}' :: rest)) = _
    rw [tokens_closeRecord, assemble, List.reverse_cons]
    rfl
  | (name, v) :: members, exact, n, done, key, stack, rest => by
    have ends := compactMembers_ends members rest
    have text : (compactMembers ((name, v) :: members)).toList ++ rest =
        ',' :: ((encodeText name).toList ++
          ':' :: (v.compact.toList ++ ((compactMembers members).toList ++ rest))) := by
      simp [compactMembers]
    rw [text, tokens_comma]
    change assemble (.key ((key, n) :: done) false) stack (tokens ((encodeText name).toList ++
      ':' :: (v.compact.toList ++ ((compactMembers members).toList ++ rest)))) = _
    rw [assemble_key, assemble_value v exact.1 _ _ ends, assemble_members members exact.2,
      List.reverse_cons, List.append_assoc]
    rfl

end

theorem ofText_compact {v : Value} (exact : v.Exact) :
    Document.ofText v.compact = ⟨v.node, false⟩ := by
  have read := assemble_value v exact [] [] trivial
  rw [List.append_nil] at read
  rw [Document.ofText, read, tokens]
  rfl

theorem integerNumeral_read {n : Int} (fits : Fits64 n) :
    (integerNumeral n).read = .ok (.integer n) := by
  rw [Numeral.read, integerNumeral_value fits]

theorem enter_room {nesting room : Nat} (shallow : nesting + 1 ≤ room) :
    ∃ left, enter room = .ok left ∧ nesting ≤ left := by
  cases room with
  | zero => exact absurd shallow (Nat.not_succ_le_zero nesting)
  | succ left => exact ⟨left, rfl, Nat.le_of_succ_le_succ shallow⟩

mutual

theorem load_node : (v : Value) → v.Exact → (room : Nat) → v.nesting ≤ room →
    v.node.load room = .ok v
  | .null, _, _, _ => rfl
  | .bool _, _, _, _ => rfl
  | .integer n, fits, _, _ => by
    rw [Value.node, Node.load, integerNumeral_read fits]
    rfl
  | .text _, _, _, _ => rfl
  | .list items, exact, room, shallow => by
    obtain ⟨left, entered, fits⟩ := enter_room shallow
    rw [Value.node, Node.load, entered]
    change (loadItems left (itemNodes items)).bind _ = _
    rw [loadItems_nodes items exact left fits]
    rfl
  | .record members, exact, room, shallow => by
    obtain ⟨left, entered, fits⟩ := enter_room shallow
    rw [Value.node, Node.load, entered]
    change (loadMembers left (memberNodes members)).bind _ = _
    rw [loadMembers_nodes members exact left fits]
    rfl

theorem loadItems_nodes : (vs : List Value) → ItemsExact vs → (room : Nat) →
    itemsNesting vs ≤ room → loadItems room (itemNodes vs) = .ok vs
  | [], _, _, _ => rfl
  | v :: vs, exact, room, shallow => by
    obtain ⟨first, others⟩ := Nat.max_le.mp shallow
    rw [itemNodes, loadItems, load_node v exact.1 room first,
      loadItems_nodes vs exact.2 room others]
    rfl

theorem loadMembers_nodes : (members : List (String × Value)) → MembersExact members →
    (room : Nat) → membersNesting members ≤ room →
    loadMembers room (memberNodes members) = .ok members
  | [], _, _, _ => rfl
  | (key, v) :: members, exact, room, shallow => by
    obtain ⟨first, others⟩ := Nat.max_le.mp shallow
    rw [memberNodes, loadMembers, load_node v exact.1 room first,
      loadMembers_nodes members exact.2 room others]
    rfl

end

theorem found_node {v : Value} (exact : v.Exact) : v.node.found = .ok v.found := by
  match v, exact with
  | .null, _ | .bool _, _ | .text _, _ | .list _, _ | .record _, _ => rfl
  | .integer n, fits =>
    rw [Value.node, Node.found, integerNumeral_read fits]
    rfl

end BotTypings.Json
