import BotTypings.Proofs.Declaration.Members
import BotTypings.Proofs.Json.Tree
import BotTypings.Proofs.TypeText.Rendered

/-! Literal unions read back. A union is cut at the bars between its parts, and each part gives the
value that it was written for: a quoted text may hold bars, quotes and backslashes and still ends at
its own closing quote. So the values that a property lists can be told from the line that declares
them, in their order and with their repetitions. -/
namespace BotTypings

open BotTypings.Text BotTypings.Json

namespace TypeText

/-- Where a character stands: outside double quotes, between two of them, or behind a backslash
there. -/
inductive Quoting where
  | outside
  | inside
  | escaped
  deriving DecidableEq

def Quoting.after : Quoting → Char → Quoting
  | outside, c => if c = '"' then inside else outside
  | inside, c => if c = '"' then outside else if c = '\\' then escaped else inside
  | escaped, _ => inside

/-- The pieces of a text between the bars that stand outside double quotes, a blank on either side. -/
def unionParts : Quoting → List Char → List (List Char)
  | _, [] => [[]]
  | .outside, ' ' :: '|' :: ' ' :: rest => [] :: unionParts .outside rest
  | quoting, c :: rest => putFirst c (unionParts (quoting.after c) rest)

theorem unionParts_cons {quoting : Quoting} {c : Char} (kept : quoting ≠ .outside ∨ c ≠ ' ')
    (rest : List Char) :
    unionParts quoting (c :: rest) = putFirst c (unionParts (quoting.after c) rest) := by
  refine unionParts.eq_3 quoting c rest fun _ outside blank _ => ?_
  exact kept.elim (· outside) (· blank)

theorem foldr_putFirst (cs : List Char) (part : List Char) (rest : List (List Char)) :
    cs.foldr putFirst (part :: rest) = (cs ++ part) :: rest := by
  induction cs with
  | nil => rfl
  | cons c cs ih => rw [List.foldr_cons, ih, putFirst, List.cons_append]

/-- The characters are cut nowhere, and what follows them is cut as it would be without them. -/
def Whole (cs : List Char) : Prop :=
  ∀ rest, unionParts .outside (cs ++ rest) = cs.foldr putFirst (unionParts .outside rest)

theorem whole_plain {cs : List Char} (plain : ∀ c ∈ cs, c ≠ ' ' ∧ c ≠ '"') : Whole cs := by
  intro rest
  induction cs with
  | nil => rfl
  | cons c cs ih =>
    obtain ⟨⟨blank, quote⟩, others⟩ := List.forall_mem_cons.mp plain
    have stays : Quoting.outside.after c = .outside := if_neg quote
    rw [List.cons_append, unionParts_cons (.inr blank), stays, ih others, List.foldr_cons]

/-- Between the quotes of a literal every quote and every backslash stands behind a backslash. -/
theorem unionParts_inside (value rest : List Char) :
    unionParts .inside (value.flatMap literalChar ++ '"' :: rest) =
      (value.flatMap literalChar ++ ['"']).foldr putFirst (unionParts .outside rest) := by
  have between (c : Char) (rest : List Char) : unionParts .inside (c :: rest) =
      putFirst c (unionParts (Quoting.inside.after c) rest) := unionParts_cons (.inl (by decide)) rest
  have behind (c : Char) (rest : List Char) : unionParts .escaped (c :: rest) =
      putFirst c (unionParts .inside rest) := unionParts_cons (.inl (by decide)) rest
  induction value with
  | nil => exact between '"' rest
  | cons c cs ih =>
    rw [List.flatMap_cons, List.append_assoc, List.append_assoc, List.foldr_append, ← ih, literalChar]
    split
    · exact (between '\\' _).trans (congrArg (putFirst '\\') (behind '\\' _))
    · rename_i plain
      split
      · exact (between '\\' _).trans (congrArg (putFirst '\\') (behind '"' _))
      · rename_i noQuote
        have stays : Quoting.inside.after c = .inside := by
          rw [Quoting.after, if_neg noQuote, if_neg plain]
        exact (between c _).trans (by rw [stays]; rfl)

theorem whole_literal (value : String) : Whole (literal value).toList := by
  intro rest
  rw [literal_toList, List.cons_append, List.append_assoc, List.singleton_append,
    unionParts_cons (.inr (by decide))]
  exact congrArg (putFirst '"') (unionParts_inside value.toList rest)

theorem unionParts_joined {texts : List String} (given : texts ≠ [])
    (whole : ∀ text ∈ texts, Whole text.toList) :
    unionParts .outside (joined " | " texts).toList = texts.map String.toList := by
  induction texts with
  | nil => exact absurd rfl given
  | cons text rest ih =>
    obtain ⟨first, others⟩ := List.forall_mem_cons.mp whole
    cases rest with
    | nil =>
      have last := first []
      rw [List.append_nil] at last
      rw [joined, last, unionParts, foldr_putFirst, List.append_nil]
      rfl
    | cons next rest =>
      have bar : (joined " | " (text :: next :: rest)).toList =
          text.toList ++ ' ' :: '|' :: ' ' :: (joined " | " (next :: rest)).toList := by
        simp only [joined, String.toList_append, List.append_assoc]
        rfl
      rw [bar, first, unionParts, foldr_putFirst, List.append_nil, ih (List.cons_ne_nil _ _) others]
      rfl

def natural? (digits : List Char) : Option Nat :=
  if digits.all Char.isDigit && !digits.isEmpty then some (naturalOf digits) else none

def integer? : List Char → Option Int
  | '-' :: digits => (natural? digits).map fun n => -(n : Int)
  | digits => (natural? digits).map Int.ofNat

/-- The integer, where sixty-four bits hold it. -/
def int64? (n : Int) : Option Int64 :=
  if (Int64.ofInt n).toInt = n then some (Int64.ofInt n) else none

/-- The value that a part of a union says: a quoted text with its escapes undone, or an integer. -/
def listedValue? : List Char → Option ListedValue
  | '"' :: rest =>
    match readLiteral rest with
    | some (value, []) => some (.string (String.ofList value))
    | _ => none
  | part => ((integer? part).bind int64?).map .integer

/-- The values of a union, from left to right. -/
def readUnion (text : String) : Option (List ListedValue) :=
  (unionParts .outside text.toList).mapM listedValue?

theorem natural?_toDigits (n : Nat) : natural? (Nat.toDigits 10 n) = some n := by
  have all : (Nat.toDigits 10 n).all Char.isDigit = true :=
    List.all_eq_true.mpr (toDigits_isDigit n)
  simp [natural?, all, naturalOf_toDigits]

theorem integer?_toString (n : Int) : integer? (toString n).toList = some n := by
  rw [integer_toList]
  split
  · rename_i negative
    have sign : integer? ('-' :: Nat.toDigits 10 n.natAbs) = some (-(n.natAbs : Int)) := by
      rw [integer?, natural?_toDigits]
      rfl
    have back : -(n.natAbs : Int) = n := by omega
    exact sign.trans (congrArg some back)
  · rename_i positive
    have unsigned (rest : List Char) : Nat.toDigits 10 n.natAbs ≠ '-' :: rest := by
      intro same
      have digit := toDigits_isDigit n.natAbs '-' (same ▸ List.mem_cons_self)
      exact absurd digit (by decide)
    have back : (n.natAbs : Int) = n := by omega
    rw [List.nil_append, integer?.eq_2 _ unsigned, natural?_toDigits]
    exact congrArg some back

theorem int64?_toInt (n : Int64) : int64? n.toInt = some n := by
  rw [int64?, Int64.ofInt_toInt, if_pos rfl]

theorem listedValue?_literal (v : ListedValue) : listedValue? v.literal.toList = some v := by
  cases v with
  | string value =>
    simp [ListedValue.literal, literal_toList, listedValue?, readLiteral_literalChars]
  | integer n =>
    have unquoted (rest : List Char) : (toString n.toInt).toList ≠ '"' :: rest := by
      intro same
      exact notMem_integer (by decide) (by decide) n.toInt (same ▸ List.mem_cons_self)
    rw [ListedValue.literal, listedValue?.eq_2 _ unquoted, integer?_toString]
    simp [int64?_toInt]

theorem whole_listed (v : ListedValue) : Whole v.literal.toList := by
  cases v with
  | string value => exact whole_literal value
  | integer n =>
    apply whole_plain
    intro c mem
    constructor
    · rintro rfl
      exact notMem_integer (by decide) (by decide) n.toInt mem
    · rintro rfl
      exact notMem_integer (by decide) (by decide) n.toInt mem

theorem mapM_listedValue? (values : List ListedValue) :
    ((values.map ListedValue.literal).map String.toList).mapM listedValue? = some values := by
  induction values with
  | nil => rfl
  | cons v values ih =>
    rw [List.map_cons, List.map_cons, List.mapM_cons, listedValue?_literal, ih]
    rfl

/-- A union of literals is read back as the values that were written. -/
theorem readUnion_joined {values : List ListedValue} (given : values ≠ []) :
    readUnion (joined " | " (values.map ListedValue.literal)) = some values := by
  have whole : ∀ text ∈ values.map ListedValue.literal, Whole text.toList := by
    intro text mem
    obtain ⟨v, _, rfl⟩ := List.mem_map.mp mem
    exact whole_listed v
  have parts := unionParts_joined (fun none => given (List.map_eq_nil_iff.mp none)) whole
  rw [readUnion, parts, mapM_listedValue?]

end TypeText

namespace FieldType

mutual

theorem values_of_mem_enumerations : (t : FieldType) → ∀ e ∈ t.enumerations, e.values ≠ []
  | integer [] .., _, mem | string [] .., _, mem | float .., _, mem | bool .., _, mem
  | reference .., _, mem | expression .., _, mem => by cases mem
  | integer (_ :: _) .., _, mem | string (_ :: _) .., _, mem => by
    rw [List.mem_singleton.mp mem]
    exact List.cons_ne_nil _ _
  | array element, e, mem => values_of_mem_enumerations element e mem
  | anyOf variants, e, mem => values_of_mem_enumerationsOfAll variants e mem

theorem values_of_mem_enumerationsOfAll : (ts : List FieldType) →
    ∀ e ∈ enumerationsOfAll ts, e.values ≠ []
  | [], _, mem => by cases mem
  | t :: ts, e, mem => by
    rcases List.mem_append.mp mem with first | later
    · exact values_of_mem_enumerations t e first
    · exact values_of_mem_enumerationsOfAll ts e later

end

/-- No enumeration is empty, so a type that has one lists a value. -/
theorem enumerated_ne_nil {t : FieldType} (listed : t.enumerations ≠ []) :
    t.enumerations.flatMap Enumeration.values ≠ [] := by
  obtain ⟨e, mem⟩ := List.exists_mem_of_ne_nil _ listed
  obtain ⟨v, inside⟩ := List.exists_mem_of_ne_nil _ (values_of_mem_enumerations t e mem)
  exact List.ne_nil_of_mem (List.mem_flatMap.mpr ⟨e, mem, inside⟩)

end FieldType

section

variable {m : Mapper} {owner : Owner} {p : Property}

theorem Mapper.unionValues_of_enumerations
    (plain : m.stringOverride owner.scope p.slot = none) :
    m.unionValues owner p = p.kind.enumerations.flatMap Enumeration.values := by
  rw [unionValues_of_plain plain, FieldType.values, FieldType.enumerations_values]

/-- The union that the line of a property declares. -/
def DeclaresUnion (m : Mapper) (owner : Owner) (p : Property) (union : String) : Prop :=
  aliasLine m owner p =
    "export type " ++ m.aliasName owner p.name ++ " = " ++ union ++ "\n\n"

theorem declaresUnion (plain : m.stringOverride owner.scope p.slot = none)
    (listed : p.kind.enumerations ≠ []) :
    DeclaresUnion m owner p
      (joined " | "
        ((p.kind.enumerations.flatMap Enumeration.values).map ListedValue.literal)) := by
  have values := Mapper.unionValues_of_enumerations plain
  have declared := Mapper.aliasFor_eq_some_iff.mpr
    ⟨values ▸ FieldType.enumerated_ne_nil listed, rfl⟩
  rw [DeclaresUnion, aliasLine, declared, values]
  rfl

theorem DeclaresUnion.unique {union other : String} (declares : DeclaresUnion m owner p union)
    (declaresToo : DeclaresUnion m owner p other) : union = other := by
  have same := congrArg String.toList (declares.symm.trans declaresToo)
  simp only [String.toList_append, List.append_cancel_right_eq, List.append_cancel_left_eq] at same
  exact String.toList_inj.mp same

theorem DeclaresUnion.reads {union : String} (plain : m.stringOverride owner.scope p.slot = none)
    (listed : p.kind.enumerations ≠ []) (declares : DeclaresUnion m owner p union) :
    TypeText.readUnion union = some (p.kind.enumerations.flatMap Enumeration.values) := by
  rw [declares.unique (declaresUnion plain listed)]
  exact TypeText.readUnion_joined (FieldType.enumerated_ne_nil listed)

end

/-- The line of a property without wider strings declares a union from which all values that the
property lists are read back, in their order and with their repetitions. So two properties with one
union list the same values. -/
theorem declaresUnion_readBack (m : Mapper) (owner : Owner) (p : Property)
    (plain : m.stringOverride owner.scope p.slot = none) (listed : p.kind.enumerations ≠ []) :
    (∃ union, DeclaresUnion m owner p union) ∧
      ∀ union, DeclaresUnion m owner p union →
        TypeText.readUnion union = some (p.kind.enumerations.flatMap Enumeration.values) ∧
        ∀ (m' : Mapper) (owner' : Owner) (p' : Property),
          m'.stringOverride owner'.scope p'.slot = none → p'.kind.enumerations ≠ [] →
          DeclaresUnion m' owner' p' union →
          p'.kind.enumerations.flatMap Enumeration.values =
            p.kind.enumerations.flatMap Enumeration.values := by
  refine ⟨⟨_, declaresUnion plain listed⟩, ?_⟩
  intro union declares
  have values := declares.reads plain listed
  refine ⟨values, ?_⟩
  intro m' owner' p' plainToo listedToo declaresToo
  have valuesToo := declaresToo.reads plainToo listedToo
  exact Option.some.inj (valuesToo.symm.trans values)

/-- Values that look like separators, quotes and escapes, and repeated integers of either sign. -/
def delimiter : Property where
  name := "delimiter"
  description := ""
  required := true
  kind := .array (.anyOf [.string [" | ", "\"", "\\", ""] none none none,
    .integer [-1, 7, 7] none none none, .array (.string ["\\\" | \"7"] none none none)])

/-- The same values, listed in another arrangement. -/
def flatDelimiter : Property where
  name := "flat_delimiter"
  description := ""
  required := false
  kind := .anyOf [.string [" | ", "\""] none none none, .string ["\\", ""] none none none,
    .integer [-1] none none none, .integer [7, 7] none none none,
    .string ["\\\" | \"7"] none none none]

def delimiterUnion : String :=
  "\" | \" | \"\\\"\" | \"\\\\\" | \"\" | -1 | 7 | 7 | \"\\\\\\\" | \\\"7\""

theorem delimiter_readBack :
    DeclaresUnion .standard ⟨"Quiz", .objects⟩ delimiter delimiterUnion ∧
      TypeText.readUnion delimiterUnion = some [.string " | ", .string "\"", .string "\\",
        .string "", .integer (-1), .integer 7, .integer 7, .string "\\\" | \"7"] ∧
      DeclaresUnion .standard ⟨"sendQuiz", .methods⟩ flatDelimiter delimiterUnion ∧
      flatDelimiter.kind.enumerations.flatMap Enumeration.values =
        delimiter.kind.enumerations.flatMap Enumeration.values := by
  have declares : DeclaresUnion .standard ⟨"Quiz", .objects⟩ delimiter delimiterUnion := by
    unfold DeclaresUnion
    decide +kernel
  have declaresToo : DeclaresUnion .standard ⟨"sendQuiz", .methods⟩ flatDelimiter
      delimiterUnion := by
    unfold DeclaresUnion
    decide +kernel
  have readBack := declaresUnion_readBack .standard ⟨"Quiz", .objects⟩ delimiter (by decide)
    (by decide)
  obtain ⟨values, alike⟩ := readBack.2 delimiterUnion declares
  have same := alike .standard ⟨"sendQuiz", .methods⟩ flatDelimiter (by decide) (by decide)
    declaresToo
  exact ⟨declares, values, declaresToo, same⟩

end BotTypings
