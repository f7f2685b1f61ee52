import BotTypings.Json.Numeral
import BotTypings.Json.Quoting
import BotTypings.Text.Alphabet
import Mathlib.Data.List.Basic
import Mathlib.Data.List.Induction
import Mathlib.Data.List.TakeWhile

/-! Where a text mentions colours. A mention is a whole run of digits with a hexadecimal form right
behind it. How the mentions of a text come from those of what stands behind a part of it is told
here, without any scan: a part that ends in no digit and has neither a blank nor a parenthesis to
give begins none, and a run of digits begins at most one. -/
namespace BotTypings.Color

open BotTypings.Decimal BotTypings.Text BotTypings.Json

/-- The number that hexadecimal digits of either case stand for. -/
def hexadecimal? (cs : List Char) : Option Nat :=
  (cs.mapM hexValue?).map fun digits => digits.foldl (fun n d => n * 16 + d) 0

/-- Hexadecimal digits as they stand behind a decimal number. -/
def form (hex : List Char) : List Char := ' ' :: '(' :: '0' :: 'x' :: (hex ++ [')'])

/-- No run of digits reaches the end. -/
def NoDigitLast (text : List Char) : Prop := ∀ c, text.getLast? = some c → isDecimalDigit c = false

/-- No run of digits begins here. -/
def NoDigitFirst (text : List Char) : Prop := ∀ c, text.head? = some c → isDecimalDigit c = false

instance (text : List Char) : Decidable (NoDigitLast text) :=
  decidable_of_iff (text.getLast?.all (!isDecimalDigit ·) = true) (by
    rw [NoDigitLast]
    cases text.getLast? <;> simp)

/-- A run of digits and the hexadecimal form behind it, with what stands around them. -/
structure Mention where
  before : List Char
  run : List Char
  hex : List Char
  after : List Char

namespace Mention

def text (x : Mention) : List Char := x.before ++ (x.run ++ (form x.hex ++ x.after))

/-- The text mentions this, whatever script the run is in and whether or not the numbers agree. The
run is whole, as no digit stands before it and a blank stands behind. -/
structure In (x : Mention) (cs : List Char) : Prop where
  same : cs = x.text
  whole : NoDigitLast x.before
  present : x.run ≠ []
  digits : ∀ c ∈ x.run, isDecimalDigit c = true
  six : x.hex.length = 6
  hexadecimal : ∀ c ∈ x.hex, (hexValue? c).isSome = true

/-- The colour of a mention. Only ASCII digits make a number, and it has to be a signed one of 64 bits
and that of the hexadecimal form. -/
def color? (x : Mention) : Option Int64 :=
  if x.run.all Char.isDigit ∧ (naturalOf x.run : Int) ≤ signedMax 64 ∧
      hexadecimal? x.hex = some (naturalOf x.run) then
    some (Int64.ofNat (naturalOf x.run))
  else none

/-- What a text mentions at its very start. -/
def leading (run hex after : List Char) : Mention := ⟨[], run, hex, after⟩

def behind (front : List Char) (x : Mention) : Mention := { x with before := front ++ x.before }

@[simp] theorem behind_color? (front : List Char) (x : Mention) :
    (x.behind front).color? = x.color? := rfl

theorem behind_behind (front more : List Char) (x : Mention) :
    (x.behind more).behind front = x.behind (front ++ more) := by
  simp [behind]

@[simp] theorem behind_text (front : List Char) (x : Mention) :
    (x.behind front).text = front ++ x.text := by
  simp [behind, text]

end Mention

/-- All mentions of a text from left to right. -/
structure Lists (found : List Mention) (text : List Char) : Prop where
  mem : ∀ x, x ∈ found ↔ x.In text
  order : found.Pairwise fun x y => x.before.length < y.before.length

theorem hexadecimal?_concat (hex : List Char) (c : Char) :
    hexadecimal? (hex ++ [c]) =
      (hexadecimal? hex).bind fun n => (hexValue? c).map fun d => n * 16 + d := by
  simp only [hexadecimal?, List.mapM_append, List.mapM_cons, List.mapM_nil]
  cases hex.mapM hexValue? <;> cases hexValue? c <;> simp

theorem hexadecimal?_isSome_iff {hex : List Char} :
    (hexadecimal? hex).isSome = true ↔ ∀ c ∈ hex, (hexValue? c).isSome = true := by
  induction hex using List.reverseRecOn with
  | nil => simp [hexadecimal?]
  | append_singleton hex c ih =>
    rw [hexadecimal?_concat]
    simp only [List.forall_mem_append, List.forall_mem_singleton, ← ih]
    cases hexadecimal? hex <;> simp

theorem hexValue?_lt {c : Char} {n : Nat} (value : hexValue? c = some n) : n < 16 := by
  have bound : ∀ {d : Char}, c ≤ d → c.toNat ≤ d.toNat := fun below =>
    UInt32.le_iff_toNat_le.mp below
  unfold hexValue? at value
  split at value
  · rename_i digit
    have : c.toNat ≤ 57 := bound digit.2
    cases value
    omega
  · split at value
    · rename_i small
      have : c.toNat ≤ 102 := bound small.2
      cases value
      omega
    · split at value
      · rename_i capital
        have : c.toNat ≤ 70 := bound capital.2
        cases value
        omega
      · cases value

/-- One hexadecimal digit more is four bits more. -/
theorem unsignedEnd_digit (length : Nat) :
    unsignedEnd (4 * (length + 1)) = unsignedEnd (4 * length) * 16 :=
  Nat.pow_add 2 (4 * length) 4

theorem hexadecimal?_lt {hex : List Char} {n : Nat} (value : hexadecimal? hex = some n) :
    n < unsignedEnd (4 * hex.length) := by
  induction hex using List.reverseRecOn generalizing n with
  | nil =>
    cases value
    decide
  | append_singleton hex c ih =>
    simp only [hexadecimal?_concat, Option.bind_eq_some_iff, Option.map_eq_some_iff] at value
    obtain ⟨high, front, low, last, rfl⟩ := value
    have above := ih front
    have digit := hexValue?_lt last
    rw [List.length_append, List.length_singleton, unsignedEnd_digit]
    omega

theorem hexadecimal?_le {hex : List Char} {n : Nat} (value : hexadecimal? hex = some n)
    (six : hex.length = 6) : n ≤ 0xFFFFFF := by
  have bound := hexadecimal?_lt value
  rw [six] at bound
  exact Nat.le_of_lt_succ bound

/-- What six hexadecimal digits say stays far below the greatest signed integer of 64 bits. -/
theorem le_signedMax {n : Nat} (small : n ≤ 0xFFFFFF) : (n : Int) ≤ signedMax 64 := by
  have greatest : signedMax 64 = 0x7FFFFFFFFFFFFFFF := by decide
  omega

theorem blank_notMem_form_tail {hex : List Char}
    (valid : ∀ c ∈ hex, (hexValue? c).isSome = true) : ' ' ∉ (form hex).tail := by
  have blank : ' ' ∉ hex := fun inside => absurd (valid ' ' inside) (by decide)
  simp [form, blank]

theorem noDigitFirst_form (hex after : List Char) : NoDigitFirst (form hex ++ after) := by
  intro c first
  cases Option.some.inj first
  decide

theorem form_eq_concat (hex : List Char) :
    form hex = (' ' :: '(' :: '0' :: 'x' :: hex) ++ [')'] := rfl

theorem noDigitLast_form (hex : List Char) : NoDigitLast (form hex) := by
  intro c last
  have closing : (form hex).getLast? = some ')' := by
    rw [form_eq_concat, List.getLast?_concat]
  rw [closing] at last
  cases last
  decide

theorem isDecimalDigit_of_isDigit {c : Char} (digit : c.isDigit = true) :
    isDecimalDigit c = true := by
  have ascii : c.toNat < 0x80 := by
    simp only [Char.isDigit, Bool.and_eq_true, decide_eq_true_eq] at digit
    have upper : c.val.toNat ≤ 57 := digit.2
    change c.val.toNat < 0x80
    omega
  rw [isDecimalDigit_ascii ascii]
  exact digit

section

variable {front rest before run hex left : List Char} {x y : Mention} {found : List Mention}

theorem NoDigitLast.reach (ends : NoDigitLast (before ++ run)) (present : run ≠ []) :
    ∃ c ∈ run, isDecimalDigit c = false := by
  obtain ⟨others, last, rfl⟩ := List.eq_nil_or_concat run |>.resolve_left present
  exact ⟨last, by simp, ends last (by simp)⟩

/-- A text that has no digit to give to the run, or none to take from it, may stand in front. -/
theorem Mention.In.behind (here : y.In rest)
    (apart : NoDigitLast front ∨ NoDigitFirst rest) :
    (y.behind front).In (front ++ rest) := by
  refine ⟨by rw [Mention.behind_text, here.same], ?_, here.present, here.digits, here.six,
    here.hexadecimal⟩
  intro c last
  by_cases start : y.before = []
  · rcases apart with ends | begins
    · apply ends
      simpa [Mention.behind, start] using last
    · obtain ⟨digit, others, run⟩ := List.exists_cons_of_ne_nil here.present
      have decimal := here.digits digit (by simp [run])
      have first : rest.head? = some digit := by simp [here.same, Mention.text, start, run]
      rw [begins digit first] at decimal
      cases decimal
  · apply here.whole
    rwa [Mention.behind, List.getLast?_append_of_ne_nil _ start] at last

/-- A mention stands behind the front, or it begins in there. -/
theorem Mention.In.behind_or_inside (here : x.In (front ++ rest)) :
    (∃ y : Mention, y.In rest ∧ x = y.behind front) ∨
      ∃ inside, inside ≠ [] ∧ front = x.before ++ inside ∧
        x.run ++ (form x.hex ++ x.after) = inside ++ rest := by
  obtain ⟨before, run, hex, after⟩ := x
  have behind : ∀ {others}, before = front ++ others →
      rest = others ++ (run ++ (form hex ++ after)) →
      ∃ y : Mention, y.In rest ∧ (⟨before, run, hex, after⟩ : Mention) = y.behind front := by
    rintro others rfl same
    refine ⟨⟨others, run, hex, after⟩, ⟨same, ?_, here.present, here.digits, here.six,
      here.hexadecimal⟩, rfl⟩
    intro c last
    apply here.whole
    have some : others ≠ [] := by
      rintro rfl
      cases last
    rwa [List.getLast?_append_of_ne_nil _ some]
  rcases List.append_eq_append_iff.mp here.same with ⟨others, split, tail⟩ | ⟨inside, split, tail⟩
  · exact .inl (behind split tail)
  · by_cases none : inside = []
    · subst none
      have start : before = front ++ [] := by simp [split]
      exact .inl (behind start (by simpa using tail.symm))
    · exact .inr ⟨inside, none, split, tail⟩

/-- A mention that begins in a front without a digit at the end has its whole run and the blank behind
it in there. -/
theorem Mention.In.behind_or_blank (here : x.In (front ++ rest)) (ends : NoDigitLast front) :
    (∃ y : Mention, y.In rest ∧ x = y.behind front) ∨
      ∃ more, front = x.before ++ (x.run ++ ' ' :: more) ∧
        (form x.hex).tail ++ x.after = more ++ rest := by
  refine here.behind_or_inside.imp_right ?_
  rintro ⟨inside, some, rfl, tail⟩
  obtain ⟨last, lastInside, other⟩ := ends.reach some
  have notInRun : last ∉ x.run := by
    intro inRun
    rw [here.digits last inRun] at other
    cases other
  rcases List.append_eq_append_iff.mp tail with ⟨more, rfl, suffix⟩ | ⟨more, run, _⟩
  · cases more with
    | nil => exact absurd (by simpa using lastInside) notInRun
    | cons blank more =>
      obtain ⟨rfl, others⟩ := List.cons.inj suffix
      exact ⟨more, rfl, others⟩
  · exact absurd (run ▸ List.mem_append_left more lastInside) notInRun

/-- A text with no blank but at its start hides no mention and begins none. -/
theorem in_append_iff_of_blank (blank : ' ' ∉ front.tail) (ends : NoDigitLast front) :
    x.In (front ++ rest) ↔ ∃ y : Mention, y.In rest ∧ x = y.behind front := by
  constructor
  · intro here
    rcases here.behind_or_blank ends with behind | ⟨more, rfl, _⟩
    · exact behind
    · refine absurd ?_ blank
      have nonempty : x.before ++ x.run ≠ [] := by simp [here.present]
      rw [← List.append_assoc, List.tail_append_of_ne_nil nonempty]
      simp
  · rintro ⟨y, here, rfl⟩
    exact here.behind (.inl ends)

/-- Neither does a text without a parenthesis, as long as none follows. -/
theorem in_append_iff_of_paren (paren : '(' ∉ front) (next : rest.head? ≠ some '(')
    (ends : NoDigitLast front) :
    x.In (front ++ rest) ↔ ∃ y : Mention, y.In rest ∧ x = y.behind front := by
  constructor
  · intro here
    rcases here.behind_or_blank ends with behind | ⟨more, rfl, tail⟩
    · exact behind
    · cases more with
      | nil =>
        refine absurd ?_ next
        rw [← List.nil_append rest, ← tail]
        rfl
      | cons c more =>
        obtain ⟨rfl, _⟩ := List.cons.inj tail
        exact absurd (by simp) paren
  · rintro ⟨y, here, rfl⟩
    exact here.behind (.inl ends)

theorem takeWhile_run (digits : ∀ c ∈ run, isDecimalDigit c = true)
    (next : NoDigitFirst rest) :
    (run ++ rest).takeWhile isDecimalDigit = run := by
  rw [List.takeWhile_append_of_pos digits]
  cases rest with
  | nil => simp
  | cons c rest => simp [next c rfl]

/-- The run that a text begins with makes a mention or none; those behind it are others. -/
theorem in_run_iff (present : run ≠ []) (digits : ∀ c ∈ run, isDecimalDigit c = true)
    (next : NoDigitFirst rest) :
    x.In (run ++ rest) ↔
      (x.before = [] ∧ x.run = run ∧ rest = form x.hex ++ x.after ∧ x.hex.length = 6 ∧
        ∀ c ∈ x.hex, (hexValue? c).isSome = true) ∨
      ∃ y : Mention, y.In rest ∧ x = y.behind run := by
  constructor
  · intro here
    rcases here.behind_or_inside with behind | ⟨inside, some, split, tail⟩
    · exact .inr behind
    -- It begins within the run, so at its start: a digit may not come before it.
    · have start : x.before = [] := by
        rcases List.eq_nil_or_concat x.before with none | ⟨others, last, concat⟩
        · exact none
        · have decimal := digits last (by simp [split, concat])
          rw [here.whole last (by simp [concat])] at decimal
          cases decimal
      rw [start, List.nil_append] at split
      subst split
      have same : x.run = run := by
        rw [← takeWhile_run here.digits (noDigitFirst_form x.hex x.after), tail,
          takeWhile_run digits next]
      rw [same] at tail
      exact .inl ⟨start, same, (List.append_cancel_left tail).symm, here.six, here.hexadecimal⟩
  · rintro (⟨start, rfl, rfl, six, valid⟩ | ⟨y, here, rfl⟩)
    · exact ⟨by simp [Mention.text, start], by simp [start, NoDigitLast], present, digits, six, valid⟩
    · exact here.behind (.inr next)

theorem lists_nil {text : List Char} (plain : '(' ∉ text) : Lists [] text := by
  refine ⟨?_, .nil⟩
  intro x
  refine iff_of_false List.not_mem_nil ?_
  intro here
  rw [here.same] at plain
  simp [Mention.text, form] at plain

/-- A list of mentions is the only one of its text. -/
theorem Lists.unique {text : List Char} {others : List Mention} (listed : Lists found text)
    (again : Lists others text) : found = others := by
  have nodup : ∀ {xs}, Lists xs text → xs.Nodup := by
    intro xs listed
    refine listed.order.imp ?_
    rintro x y less rfl
    exact Nat.lt_irrefl _ less
  have perm : found.Perm others := by
    rw [List.perm_ext_iff_of_nodup (nodup listed) (nodup again)]
    intro x
    rw [listed.mem, again.mem]
  refine perm.eq_of_pairwise ?_ listed.order again.order
  intro x y _ _ less more
  exact absurd more (Nat.lt_asymm less)

theorem Lists.order_behind (listed : Lists found rest) (front : List Char) :
    (found.map (·.behind front)).Pairwise fun x y => x.before.length < y.before.length := by
  rw [List.pairwise_map]
  refine listed.order.imp ?_
  intro x y less
  simpa [Mention.behind] using less

theorem Lists.behind (listed : Lists found rest)
    (apart : ∀ x : Mention, x.In (front ++ rest) ↔ ∃ y : Mention, y.In rest ∧ x = y.behind front) :
    Lists (found.map (·.behind front)) (front ++ rest) := by
  constructor
  · intro x
    simp only [apart, List.mem_map, listed.mem, eq_comm]
  · exact listed.order_behind front

/-- A run with a hexadecimal form behind it comes before all that stands behind them. -/
theorem Lists.mention (listed : Lists found left) (present : run ≠ [])
    (digits : ∀ c ∈ run, isDecimalDigit c = true) (six : hex.length = 6)
    (valid : ∀ c ∈ hex, (hexValue? c).isSome = true) :
    Lists (.leading run hex left :: found.map (·.behind (run ++ form hex)))
      (run ++ (form hex ++ left)) := by
  constructor
  · intro x
    simp only [in_run_iff present digits (noDigitFirst_form hex left),
      in_append_iff_of_blank (blank_notMem_form_tail valid) (noDigitLast_form hex),
      List.mem_cons, List.mem_map, listed.mem]
    refine or_congr ?_ ?_
    · constructor
      · rintro rfl
        exact ⟨rfl, rfl, rfl, six, valid⟩
      · obtain ⟨before, run', hex', after⟩ := x
        rintro ⟨rfl, rfl, same, six', _⟩
        have tail : hex ++ ([')'] ++ left) = hex' ++ ([')'] ++ after) := by
          simpa [form] using same
        obtain ⟨rfl, rest⟩ := List.append_inj tail (six.trans six'.symm)
        cases List.append_cancel_left rest
        rfl
    · constructor
      · rintro ⟨y, here, rfl⟩
        exact ⟨_, ⟨y, here, rfl⟩, by rw [Mention.behind_behind]⟩
      · rintro ⟨_, ⟨y, here, rfl⟩, rfl⟩
        exact ⟨y, here, by rw [Mention.behind_behind]⟩
  · refine List.pairwise_cons.mpr ⟨?_, listed.order_behind _⟩
    intro x later
    obtain ⟨y, _, rfl⟩ := List.mem_map.mp later
    have some := List.length_pos_of_ne_nil present
    simp only [Mention.leading, Mention.behind, List.length_nil, List.length_append]
    omega

end

end BotTypings.Color
