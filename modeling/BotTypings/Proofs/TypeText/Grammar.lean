import BotTypings.Text.Blank
import BotTypings.TypeText.Literal

/-! A grammar of type texts, for reading them back.

    union    = postfix (| postfix)*
    postfix  = primary []*
    primary  = name | literal | { toJSON(): name } | { toString(): string } | ( union )

A name is a word or several joined by dots. What a text says is read off its tokens, and the tokens of
a union tell which union it is, whatever else follows them. -/
namespace BotTypings.TypeText

open BotTypings.Text

inductive Token where
  | word (name : String)
  | literal (value : String)
  | mark (c : Char)
  deriving DecidableEq

def isWordStart (c : Char) : Bool := ('a' ≤ c && c ≤ 'z') || ('A' ≤ c && c ≤ 'Z') || c == '_'

def isWordChar (c : Char) : Bool := isWordStart c || ('0' ≤ c && c ≤ '9')

def marks : List Char := ['|', '[', ']', '{', '}', '(', ')', ':', '.']

/-- The value of a literal behind its opening quote, and what follows the closing one. -/
def readLiteral : List Char → Option (List Char × List Char)
  | [] => none
  | '"' :: rest => some ([], rest)
  | '\\' :: '\\' :: rest => (readLiteral rest).map fun (value, after) => ('\\' :: value, after)
  | '\\' :: '"' :: rest => (readLiteral rest).map fun (value, after) => ('"' :: value, after)
  | '\\' :: _ => none
  | c :: rest => (readLiteral rest).map fun (value, after) => (c :: value, after)

theorem readLiteral_length {cs value after : List Char}
    (read : readLiteral cs = some (value, after)) : after.length < cs.length := by
  induction cs using readLiteral.induct generalizing value with
  | case1 | case5 => simp [readLiteral] at read
  | case2 rest =>
    simp only [readLiteral, Option.some.injEq, Prod.mk.injEq] at read
    rw [← read.2]
    exact Nat.lt_succ_self _
  | case3 rest ih | case4 rest ih =>
    simp only [readLiteral, Option.map_eq_some_iff, Prod.exists, Prod.mk.injEq] at read
    obtain ⟨inner, _, found, _, rfl⟩ := read
    have shorter := ih found
    simp only [List.length_cons]
    omega
  | case6 c rest open_ escaped quoted plain ih =>
    rw [readLiteral.eq_6 c rest open_ escaped quoted plain] at read
    simp only [Option.map_eq_some_iff, Prod.exists, Prod.mk.injEq] at read
    obtain ⟨inner, _, found, _, rfl⟩ := read
    have shorter := ih found
    simp only [List.length_cons]
    omega

/-- The tokens of a text, where blanks separate words and mean nothing else. -/
def lex (cs : List Char) : Option (List Token) :=
  match cs with
  | [] => some []
  | c :: rest =>
    if isBlank c then lex rest
    else if isWordStart c then
      (lex (rest.dropWhile isWordChar)).map
        (.word (String.ofList (c :: rest.takeWhile isWordChar)) :: ·)
    else if c = '"' then
      match _read : readLiteral rest with
      | none => none
      | some (value, after) => (lex after).map (.literal (String.ofList value) :: ·)
    else if c ∈ marks then (lex rest).map (.mark c :: ·)
    else none
termination_by cs.length
decreasing_by
  · exact Nat.lt_succ_self _
  · exact Nat.lt_succ_of_le (List.dropWhile_sublist _).length_le
  · have shorter := readLiteral_length _read
    simp only [List.length_cons]
    omega
  · exact Nat.lt_succ_self _

/-- A word, or several joined by dots. -/
structure DottedName where
  first : String
  more : List String
  deriving DecidableEq

mutual

inductive UnionTree where
  | one (p : PostfixTree)
  | more (p : PostfixTree) (rest : UnionTree)

/-- A primary with so many pairs of brackets behind it. -/
inductive PostfixTree where
  | mk (p : PrimaryTree) (pairs : Nat)

inductive PrimaryTree where
  | name (n : DottedName)
  | literal (value : String)
  | builder (n : DottedName)
  | formattable
  | group (u : UnionTree)

end

def DottedName.tokens (n : DottedName) : List Token :=
  .word n.first :: n.more.flatMap fun w => [.mark '.', .word w]

def brackets (pairs : Nat) : List Token :=
  (List.replicate pairs ()).flatMap fun _ => [.mark '[', .mark ']']

mutual

def UnionTree.tokens : UnionTree → List Token
  | .one p => p.tokens
  | .more p rest => p.tokens ++ .mark '|' :: rest.tokens

def PostfixTree.tokens : PostfixTree → List Token
  | .mk p pairs => p.tokens ++ brackets pairs

def PrimaryTree.tokens : PrimaryTree → List Token
  | .name n => n.tokens
  | .literal value => [.literal value]
  | .builder n =>
    .mark '{' :: .word "toJSON" :: .mark '(' :: .mark ')' :: .mark ':' :: n.tokens ++ [.mark '}']
  | .formattable =>
    [.mark '{', .word "toString", .mark '(', .mark ')', .mark ':', .word "string", .mark '}']
  | .group u => .mark '(' :: u.tokens ++ [.mark ')']

end

/-- The text is that of the union, blanks between words aside. -/
def Reads (text : String) (u : UnionTree) : Prop := lex text.toList = some u.tokens

/-- None of the marks comes next. -/
def NotNext (cs : List Char) (ts : List Token) : Prop := ∀ c ∈ cs, ts.head? ≠ some (.mark c)

theorem NotNext.mark {cs : List Char} {c : Char} (other : c ∉ cs) (ts : List Token) :
    NotNext cs (.mark c :: ts) := by
  intro d mem same
  cases same
  exact other mem

theorem notNext_nil (cs : List Char) : NotNext cs [] := fun _ _ next => nomatch next

theorem NotNext.subset {cs ds : List Char} {ts : List Token} (stops : NotNext cs ts)
    (less : ds ⊆ cs) : NotNext ds ts :=
  fun c mem => stops c (less mem)

/-- Repeated parts, each of which begins with the mark, end where the mark does not come next. -/
theorem repeated_inj {α : Type} {part : α → List Token} {c : Char}
    (begins : ∀ x, (part x).head? = some (.mark c))
    (part_inj : ∀ x y ts ts', part x ++ ts = part y ++ ts' → x = y ∧ ts = ts') {xs ys : List α}
    {rest rest' : List Token} (stops : NotNext [c] rest) (stopsToo : NotNext [c] rest')
    (same : xs.flatMap part ++ rest = ys.flatMap part ++ rest') : xs = ys ∧ rest = rest' := by
  have next (x : α) (ts : List Token) : (part x ++ ts).head? = some (.mark c) := by
    rw [List.head?_append, begins]
    rfl
  induction xs generalizing ys with
  | nil =>
    cases ys with
    | nil => exact ⟨rfl, same⟩
    | cons y ys =>
      rw [List.flatMap_nil, List.nil_append, List.flatMap_cons, List.append_assoc] at same
      exact absurd (same ▸ next y _) (stops c List.mem_cons_self)
  | cons x xs ih =>
    cases ys with
    | nil =>
      rw [List.flatMap_nil, List.nil_append, List.flatMap_cons, List.append_assoc] at same
      exact absurd (same ▸ next x _) (stopsToo c List.mem_cons_self)
    | cons y ys =>
      rw [List.flatMap_cons, List.flatMap_cons, List.append_assoc, List.append_assoc] at same
      obtain ⟨rfl, others⟩ := part_inj x y _ _ same
      obtain ⟨rfl, behind⟩ := ih others
      exact ⟨rfl, behind⟩

theorem DottedName.tokens_inj {n n' : DottedName} {rest rest' : List Token}
    (stops : NotNext ['.'] rest) (stopsToo : NotNext ['.'] rest')
    (same : n.tokens ++ rest = n'.tokens ++ rest') : n = n' ∧ rest = rest' := by
  obtain ⟨first, more⟩ := n
  obtain ⟨first', more'⟩ := n'
  simp only [DottedName.tokens, List.cons_append, List.cons.injEq, Token.word.injEq] at same
  obtain ⟨rfl, others⟩ := same
  have part_inj (w w' : String) (ts ts' : List Token) :
      [.mark '.', .word w] ++ ts = [.mark '.', .word w'] ++ ts' → w = w' ∧ ts = ts' := by
    simp
  obtain ⟨rfl, behind⟩ := repeated_inj (fun _ => rfl) part_inj stops stopsToo others
  exact ⟨rfl, behind⟩

theorem brackets_inj {pairs pairs' : Nat} {rest rest' : List Token} (stops : NotNext ['['] rest)
    (stopsToo : NotNext ['['] rest') (same : brackets pairs ++ rest = brackets pairs' ++ rest') :
    pairs = pairs' ∧ rest = rest' := by
  have part_inj (x y : Unit) (ts ts' : List Token) :
      [.mark '[', .mark ']'] ++ ts = [.mark '[', .mark ']'] ++ ts' → x = y ∧ ts = ts' := by
    simp
  obtain ⟨counts, behind⟩ := repeated_inj (fun _ => rfl) part_inj stops stopsToo same
  have lengths := congrArg List.length counts
  rw [List.length_replicate, List.length_replicate] at lengths
  exact ⟨lengths, behind⟩

theorem notNext_brackets {rest : List Token} (stops : NotNext ['.'] rest) (pairs : Nat) :
    NotNext ['.'] (brackets pairs ++ rest) := by
  cases pairs with
  | zero => exact stops
  | succ pairs => exact .mark (by decide) _

mutual

theorem UnionTree.tokens_inj : (u u' : UnionTree) → {rest rest' : List Token} →
    NotNext ['.', '[', '|'] rest → NotNext ['.', '[', '|'] rest' →
    u.tokens ++ rest = u'.tokens ++ rest' → u = u' ∧ rest = rest'
  | .one p, .one p', rest, rest', stops, stopsToo, same => by
    obtain ⟨rfl, behind⟩ := p.tokens_inj p' (stops.subset (by simp)) (stopsToo.subset (by simp)) same
    exact ⟨rfl, behind⟩
  | .one p, .more p' others, rest, rest', stops, _, same => by
    rw [UnionTree.tokens, UnionTree.tokens, List.append_assoc] at same
    obtain ⟨_, behind⟩ := p.tokens_inj p' (stops.subset (by simp)) (.mark (by decide) _) same
    exact absurd (congrArg List.head? behind) (stops '|' (by simp))
  | .more p others, .one p', rest, rest', _, stopsToo, same => by
    rw [UnionTree.tokens, UnionTree.tokens, List.append_assoc] at same
    obtain ⟨_, behind⟩ := p.tokens_inj p' (.mark (by decide) _) (stopsToo.subset (by simp)) same
    exact absurd (congrArg List.head? behind.symm) (stopsToo '|' (by simp))
  | .more p others, .more p' others', rest, rest', stops, stopsToo, same => by
    rw [UnionTree.tokens, UnionTree.tokens, List.append_assoc, List.append_assoc] at same
    obtain ⟨rfl, behind⟩ := p.tokens_inj p' (.mark (by decide) _) (.mark (by decide) _) same
    have further := (List.cons_inj_right _).mp behind
    obtain ⟨rfl, last⟩ := others.tokens_inj others' stops stopsToo further
    exact ⟨rfl, last⟩

theorem PostfixTree.tokens_inj : (p p' : PostfixTree) → {rest rest' : List Token} →
    NotNext ['.', '['] rest → NotNext ['.', '['] rest' →
    p.tokens ++ rest = p'.tokens ++ rest' → p = p' ∧ rest = rest'
  | .mk p pairs, .mk p' pairs', rest, rest', stops, stopsToo, same => by
    rw [PostfixTree.tokens, PostfixTree.tokens, List.append_assoc, List.append_assoc] at same
    obtain ⟨rfl, behind⟩ := p.tokens_inj p' (notNext_brackets (stops.subset (by simp)) pairs)
      (notNext_brackets (stopsToo.subset (by simp)) pairs') same
    obtain ⟨rfl, last⟩ := brackets_inj (stops.subset (by simp)) (stopsToo.subset (by simp)) behind
    exact ⟨rfl, last⟩

/-- What a primary begins with tells which kind it is. -/
theorem PrimaryTree.tokens_inj : (p p' : PrimaryTree) → {rest rest' : List Token} →
    NotNext ['.'] rest → NotNext ['.'] rest' →
    p.tokens ++ rest = p'.tokens ++ rest' → p = p' ∧ rest = rest'
  | .name n, .name n', rest, rest', stops, stopsToo, same => by
    obtain ⟨rfl, behind⟩ := DottedName.tokens_inj stops stopsToo same
    exact ⟨rfl, behind⟩
  | .literal v, .literal v', rest, rest', _, _, same => by
    simpa [PrimaryTree.tokens] using same
  | .builder n, .builder n', rest, rest', _, _, same => by
    simp only [PrimaryTree.tokens, List.cons_append, List.append_assoc, List.cons.injEq,
      true_and] at same
    obtain ⟨rfl, behind⟩ := DottedName.tokens_inj (.mark (by decide) _) (.mark (by decide) _) same
    exact ⟨rfl, by simpa using behind⟩
  | .formattable, .formattable, rest, rest', _, _, same => by
    simpa [PrimaryTree.tokens] using same
  | .group u, .group u', rest, rest', _, _, same => by
    simp only [PrimaryTree.tokens, List.cons_append, List.append_assoc, List.cons.injEq,
      true_and] at same
    obtain ⟨rfl, behind⟩ := u.tokens_inj u' (.mark (by decide) _) (.mark (by decide) _) same
    exact ⟨rfl, by simpa using behind⟩
  | .name _, .literal _, _, _, _, _, same | .name _, .builder _, _, _, _, _, same
  | .name _, .formattable, _, _, _, _, same | .name _, .group _, _, _, _, _, same
  | .literal _, .name _, _, _, _, _, same | .literal _, .builder _, _, _, _, _, same
  | .literal _, .formattable, _, _, _, _, same | .literal _, .group _, _, _, _, _, same
  | .builder _, .name _, _, _, _, _, same | .builder _, .literal _, _, _, _, _, same
  | .builder _, .formattable, _, _, _, _, same | .builder _, .group _, _, _, _, _, same
  | .formattable, .name _, _, _, _, _, same | .formattable, .literal _, _, _, _, _, same
  | .formattable, .builder _, _, _, _, _, same | .formattable, .group _, _, _, _, _, same
  | .group _, .name _, _, _, _, _, same | .group _, .literal _, _, _, _, _, same
  | .group _, .builder _, _, _, _, _, same | .group _, .formattable, _, _, _, _, same => by
    simp [PrimaryTree.tokens, DottedName.tokens] at same

end

theorem Reads.unique {text : String} {u u' : UnionTree} (reads : Reads text u)
    (readsToo : Reads text u') : u = u' := by
  have same : u.tokens ++ [] = u'.tokens ++ [] := by
    rw [List.append_nil, List.append_nil]
    exact Option.some.inj (reads.symm.trans readsToo)
  exact (u.tokens_inj u' (notNext_nil _) (notNext_nil _) same).1

end BotTypings.TypeText
