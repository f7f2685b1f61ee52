import BotTypings.Proofs.Text.Casing
import BotTypings.Proofs.TypeText.Grammar
import BotTypings.TypeText.Mapper

/-! What a type text says, and that it is read back. The members of a union are listed once the
parentheses are resolved; written out again, with parentheses where an array asks for them, they make
a text that the grammar reads as these members and as nothing else. -/
namespace BotTypings.TypeText

open BotTypings.Text

inductive UnionMember where
  | name (n : DottedName)
  | literal (value : String)
  | builder (n : DottedName)
  | formattable
  | array (members : List UnionMember)

/-- So many arrays around what the members say. -/
def arrays : Nat → List UnionMember → List UnionMember
  | 0, members => members
  | n + 1, members => [.array (arrays n members)]

mutual

def UnionTree.members : UnionTree → List UnionMember
  | .one p => p.members
  | .more p rest => p.members ++ rest.members

def PostfixTree.members : PostfixTree → List UnionMember
  | .mk p pairs => arrays pairs p.members

def PrimaryTree.members : PrimaryTree → List UnionMember
  | .name n => [.name n]
  | .literal value => [.literal value]
  | .builder n => [.builder n]
  | .formattable => [.formattable]
  | .group u => u.members

end

def DottedName.text (n : DottedName) : String := joined "." (n.first :: n.more)

mutual

def UnionMember.text : UnionMember → String
  | .name n => n.text
  | .literal value => TypeText.literal value
  | .builder n => "\x7b toJSON(): " ++ n.text ++ " \x7d"
  | .formattable => "\x7b toString(): string \x7d"
  | .array members => Mapper.arrayText (joined " | " (memberTexts members))

def memberTexts : List UnionMember → List String
  | [] => []
  | member :: rest => member.text :: memberTexts rest

end

theorem memberTexts_eq (members : List UnionMember) :
    memberTexts members = members.map UnionMember.text := by
  induction members with
  | nil => rfl
  | cons member rest ih => rw [memberTexts, List.map_cons, ih]

/-- The text of a union with the members. -/
def unionText (members : List UnionMember) : String := joined " | " (members.map UnionMember.text)

theorem text_array (members : List UnionMember) :
    (UnionMember.array members).text = Mapper.arrayText (unionText members) := by
  rw [UnionMember.text, memberTexts_eq]
  rfl

def WordChars (name : String) : Prop := ∀ c ∈ name.toList, isWordChar c = true

instance : DecidablePred WordChars := fun name =>
  decidable_of_iff (name.toList.all isWordChar = true) List.all_eq_true

structure IsWord (name : String) : Prop where
  start : name.toList.head?.any isWordStart = true
  chars : WordChars name

structure DottedName.Proper (n : DottedName) : Prop where
  first : IsWord n.first
  more : ∀ w ∈ n.more, IsWord w

/-- Names are made of words, and there is no array of nothing. -/
inductive UnionMember.Proper : UnionMember → Prop
  | name {n : DottedName} (proper : n.Proper) : Proper (.name n)
  | literal (value : String) : Proper (.literal value)
  | builder {n : DottedName} (proper : n.Proper) : Proper (.builder n)
  | formattable : Proper .formattable
  | array {members : List UnionMember} (given : members ≠ []) (all : ∀ m ∈ members, Proper m) :
    Proper (.array members)

/-- No word goes on here. -/
def Apart (cs : List Char) : Prop := ∀ c, cs.head? = some c → isWordChar c = false

theorem apart_cons {c : Char} (other : isWordChar c = false) (cs : List Char) : Apart (c :: cs) := by
  intro d same
  cases same
  exact other

theorem Apart.append {cs ds : List Char} (first : Apart cs) (second : Apart ds) :
    Apart (cs ++ ds) := by
  cases cs with
  | nil => exact second
  | cons c cs => exact apart_cons (first c rfl) _

/-- The characters are read as the tokens where no word goes on behind them. -/
def Prints (cs : List Char) (ts : List Token) : Prop :=
  ∀ rest, Apart rest → lex (cs ++ rest) = (lex rest).map (ts ++ ·)

theorem Prints.lex_eq {cs : List Char} {ts : List Token} (prints : Prints cs ts) :
    lex cs = some ts := by
  have alone := prints [] nofun
  rw [List.append_nil, lex, Option.map_some, List.append_nil] at alone
  exact alone

theorem Prints.append {cs ds : List Char} {ts us : List Token} (first : Prints cs ts)
    (second : Prints ds us) (apart : Apart ds) : Prints (cs ++ ds) (ts ++ us) := by
  intro rest stops
  rw [List.append_assoc, first _ (apart.append stops), second rest stops, Option.map_map]
  simp only [Function.comp_def, List.append_assoc]

theorem prints_nil : Prints [] [] := by
  intro rest _
  simp

section

variable {cs : List Char} {ts : List Token}

theorem Prints.blank (prints : Prints cs ts) : Prints (' ' :: cs) ts := by
  intro rest stops
  rw [List.cons_append, lex, if_pos (by decide), prints rest stops]

theorem Prints.mark {c : Char} (mark : c ∈ marks) (prints : Prints cs ts) :
    Prints (c :: cs) (.mark c :: ts) := by
  have plain : marks.all (fun c => !isBlank c && !isWordStart c && c != '"') = true := by decide
  have here := List.all_eq_true.mp plain c mark
  simp only [Bool.and_eq_true, Bool.not_eq_true', bne_iff_ne] at here
  obtain ⟨⟨visible, noWord⟩, noQuote⟩ := here
  intro rest stops
  rw [List.cons_append, lex, if_neg (by simp [visible]), if_neg (by simp [noWord]), if_neg noQuote,
    if_pos mark, prints rest stops, Option.map_map]
  rfl

end

theorem ascii_of_wordChar {c : Char} (word : isWordChar c = true) : c.toNat < 128 := by
  simp only [isWordChar, isWordStart, Bool.or_eq_true, Bool.and_eq_true, decide_eq_true_eq,
    beq_iff_eq] at word
  rcases word with ((⟨_, high⟩ | ⟨_, high⟩) | rfl) | ⟨_, high⟩
  · exact Nat.lt_of_le_of_lt high (by decide)
  · exact Nat.lt_of_le_of_lt high (by decide)
  · decide
  · exact Nat.lt_of_le_of_lt high (by decide)

theorem visible_of_wordChar {c : Char} (word : isWordChar c = true) : isBlank c = false := by
  have table : ∀ n < 128, isWordChar (Char.ofNat n) = true → isBlank (Char.ofNat n) = false := by
    decide
  exact ascii_forall (P := fun c => isWordChar c = true → isBlank c = false) table
    (ascii_of_wordChar word) word

theorem prints_word {name : String} (word : IsWord name) : Prints name.toList [.word name] := by
  intro rest stops
  obtain ⟨starts, chars⟩ := word
  cases cut : name.toList with
  | nil =>
    rw [cut] at starts
    cases starts
  | cons c cs =>
    rw [WordChars, cut, List.forall_mem_cons] at chars
    rw [cut] at starts
    have ends : rest.takeWhile isWordChar = [] ∧ rest.dropWhile isWordChar = rest := by
      cases rest with
      | nil => exact ⟨rfl, rfl⟩
      | cons d ds => simp [stops d rfl]
    have whole : (cs ++ rest).takeWhile isWordChar = cs := by
      rw [List.takeWhile_append_of_pos chars.2, ends.1, List.append_nil]
    have behind : (cs ++ rest).dropWhile isWordChar = rest := by
      rw [List.dropWhile_append_of_pos chars.2, ends.2]
    have start : isWordStart c = true := starts
    rw [List.cons_append, lex, if_neg (by simp [visible_of_wordChar chars.1]), if_pos start, whole,
      behind, ← cut, String.ofList_toList]
    rfl

theorem readLiteral_literalChars (value rest : List Char) :
    readLiteral (value.flatMap literalChar ++ '"' :: rest) = some (value, rest) := by
  induction value with
  | nil => rfl
  | cons c cs ih =>
    rw [List.flatMap_cons, List.append_assoc, literalChar]
    split
    · rename_i backslash
      simp [backslash, readLiteral, ih]
    · rename_i plain
      split
      · rename_i quote
        simp [quote, readLiteral, ih]
      · rename_i noQuote
        have step := readLiteral.eq_6 c (cs.flatMap literalChar ++ '"' :: rest) noQuote
          (fun _ same => absurd same plain) (fun _ same => absurd same plain) plain
        rw [List.singleton_append, step, ih]
        rfl

theorem prints_literal (value : String) :
    Prints (TypeText.literal value).toList [.literal value] := by
  intro rest _
  have opening : lex ('"' :: (value.toList.flatMap literalChar ++ '"' :: rest)) =
      (lex rest).map ([.literal value] ++ ·) := by
    rw [lex, if_neg (by decide), if_neg (by decide), if_pos rfl]
    split
    · rename_i failed
      rw [readLiteral_literalChars] at failed
      cases failed
    · rename_i found after read
      rw [readLiteral_literalChars] at read
      cases read
      rw [String.ofList_toList]
      rfl
  rw [literal_toList, List.cons_append, List.append_assoc]
  exact opening

theorem prints_name {n : DottedName} (proper : n.Proper) : Prints n.text.toList n.tokens := by
  obtain ⟨first, more⟩ := n
  induction more generalizing first with
  | nil => exact prints_word proper.first
  | cons next rest ih =>
    obtain ⟨word, words⟩ := List.forall_mem_cons.mp proper.more
    have behind := ih next ⟨word, words⟩
    have whole : (DottedName.text ⟨first, next :: rest⟩).toList =
        first.toList ++ '.' :: (DottedName.text ⟨next, rest⟩).toList := by
      simp [DottedName.text, joined]
    rw [whole]
    exact (prints_word proper.first).append (behind.mark (by decide)) (apart_cons (by decide) _)

/-- The member as a postfix of the grammar. -/
def Written (member : UnionMember) : Prop :=
  ∃ p : PostfixTree, Prints member.text.toList p.tokens ∧ p.members = [member]

theorem unionText_cons (member next : UnionMember) (rest : List UnionMember) :
    (unionText (member :: next :: rest)).toList =
      member.text.toList ++ ' ' :: '|' :: ' ' :: (unionText (next :: rest)).toList := by
  simp [unionText, joined]

theorem written_union {members : List UnionMember} (written : ∀ m ∈ members, Written m)
    (given : members ≠ []) :
    ∃ u : UnionTree, Prints (unionText members).toList u.tokens ∧ u.members = members := by
  induction members with
  | nil => exact absurd rfl given
  | cons member rest ih =>
    obtain ⟨here, behind⟩ := List.forall_mem_cons.mp written
    obtain ⟨p, prints, means⟩ := here
    cases rest with
    | nil => exact ⟨.one p, prints, means⟩
    | cons next rest =>
      obtain ⟨u, others, say⟩ := ih behind (List.cons_ne_nil _ _)
      refine ⟨.more p u, ?_, by rw [UnionTree.members, means, say]; rfl⟩
      rw [unionText_cons]
      have bar : '|' ∈ marks := by decide
      exact prints.append (others.blank.mark bar).blank (apart_cons (by decide) _)

theorem prints_brackets : Prints ['[', ']'] (brackets 1) :=
  (prints_nil.mark (by decide)).mark (by decide)

theorem brackets_succ (pairs : Nat) : brackets (pairs + 1) = brackets pairs ++ brackets 1 := by
  rw [brackets, brackets, brackets, ← List.flatMap_append, List.replicate_append_replicate]

/-- Parentheses stand around everything that has a bar in it, so brackets are about the whole text; a
text without a bar is that of a single member. -/
theorem written_array {members : List UnionMember} (written : ∀ m ∈ members, Written m)
    (given : members ≠ []) : Written (.array members) := by
  rw [Written, text_array, Mapper.arrayText]
  split
  · obtain ⟨u, prints, means⟩ := written_union written given
    refine ⟨.mk (.group u) 1, ?_, by rw [PostfixTree.members, PrimaryTree.members, means]; rfl⟩
    have closing := prints_brackets.mark (c := ')') (by decide)
    have opened := (prints.append closing (apart_cons (by decide) _)).mark (c := '(') (by decide)
    simpa [PostfixTree.tokens, PrimaryTree.tokens, String.toList_append] using opened
  · rename_i noBar
    obtain ⟨only, rfl⟩ : ∃ only, members = [only] := by
      cases members with
      | nil => exact absurd rfl given
      | cons member rest =>
        cases rest with
        | nil => exact ⟨member, rfl⟩
        | cons next rest =>
          rw [unionText_cons] at noBar
          exact absurd (by simp) noBar
    obtain ⟨⟨p, pairs⟩, prints, means⟩ := written only List.mem_cons_self
    refine ⟨.mk p (pairs + 1), ?_, ?_⟩
    · rw [PostfixTree.tokens, brackets_succ, ← List.append_assoc, String.toList_append]
      exact prints.append prints_brackets (apart_cons (by decide) _)
    · rw [PostfixTree.members] at means ⊢
      rw [arrays, means]

theorem written_primary {member : UnionMember} {p : PrimaryTree}
    (prints : Prints member.text.toList p.tokens) (means : p.members = [member]) : Written member := by
  refine ⟨.mk p 0, ?_, means⟩
  have none : p.tokens ++ brackets 0 = p.tokens := List.append_nil _
  rw [PostfixTree.tokens, none]
  exact prints

/-- An object type with one method. -/
theorem prints_method {method : String} (word : IsWord method) {cs : List Char} {ts : List Token}
    (result : Prints cs ts) :
    Prints ('{' :: ' ' :: method.toList ++ '(' :: ')' :: ':' :: ' ' :: cs ++ [' ', '}'])
      (.mark '{' :: .word method :: .mark '(' :: .mark ')' :: .mark ':' :: ts ++ [.mark '}']) := by
  have closing : Prints [' ', '}'] [.mark '}'] := (prints_nil.mark (by decide)).blank
  have colon := (result.append closing (apart_cons (by decide) _)).blank.mark (c := ':') (by decide)
  have call := (colon.mark (c := ')') (by decide)).mark (c := '(') (by decide)
  have signature := (prints_word word).append call (apart_cons (by decide) _)
  have whole := signature.blank.mark (c := '{') (by decide)
  simpa using whole

theorem written_of_proper {member : UnionMember} (proper : member.Proper) : Written member := by
  induction proper with
  | name proper => exact written_primary (p := .name _) (prints_name proper) rfl
  | literal value => exact written_primary (p := .literal value) (prints_literal value) rfl
  | @builder n proper =>
    have toJSON : IsWord "toJSON" := ⟨by decide, by decide⟩
    have method := prints_method toJSON (prints_name proper)
    refine written_primary (p := .builder n) ?_ rfl
    simpa [UnionMember.text, PrimaryTree.tokens] using method
  | formattable =>
    have text : IsWord "string" := ⟨by decide, by decide⟩
    have toString : IsWord "toString" := ⟨by decide, by decide⟩
    have method := prints_method toString (prints_word text)
    refine written_primary (p := .formattable) ?_ rfl
    simpa [UnionMember.text, PrimaryTree.tokens] using method
  | array given _ ih => exact written_array ih given

/-- Members that can be written are read back from their text. -/
theorem reads_unionText {members : List UnionMember} (proper : ∀ m ∈ members, m.Proper)
    (given : members ≠ []) : ∃ u : UnionTree, Reads (unionText members) u ∧ u.members = members := by
  obtain ⟨u, prints, means⟩ := written_union (fun m mem => written_of_proper (proper m mem)) given
  exact ⟨u, prints.lex_eq, means⟩

theorem unionText_inj {members others : List UnionMember} (proper : ∀ m ∈ members, m.Proper)
    (properToo : ∀ m ∈ others, m.Proper) (given : members ≠ []) (givenToo : others ≠ [])
    (same : unionText members = unionText others) : members = others := by
  obtain ⟨u, reads, means⟩ := reads_unionText proper given
  obtain ⟨u', readsToo, meansToo⟩ := reads_unionText properToo givenToo
  rw [← means, ← meansToo, Reads.unique reads (same ▸ readsToo)]

end BotTypings.TypeText
