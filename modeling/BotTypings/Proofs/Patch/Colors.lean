import BotTypings.Patch.Color
import BotTypings.Proofs.Patch.Mentions

/-! Which colours a scan finds: those of all mentions of the text, in their order. What the scan leaves
behind in one step can begin no mention but the one that it looks at, so none is lost. -/
namespace BotTypings.Color

open BotTypings.Decimal BotTypings.Text BotTypings.Json

/-- How a colour stands in a text: a run of digits that no digit comes before, and six hexadecimal
digits that say the same number. -/
structure ShownBy (before run hex : List Char) (n : Nat) : Prop where
  whole : ∀ c, before.getLast? = some c → isDecimalDigit c = false
  present : run ≠ []
  digits : ∀ c ∈ run, c.isDigit = true
  decimal : naturalOf run = n
  length : hex.length = 6
  hexadecimal : hexadecimal? hex = some n

/-- The text shows the colour somewhere, as in `7322096 (0x6FB9F0)`. -/
def Shown (text : List Char) (n : Nat) : Prop :=
  ∃ before run hex after,
    text = before ++ (run ++ (" (0x".toList ++ (hex ++ ')' :: after))) ∧ ShownBy before run hex n

theorem hexadecimal?_six (a b c d e f : Char) :
    hexadecimal? [a, b, c, d, e, f] = (do
      let high ← unit? '0' '0' a b
      let low ← unit? c d e f
      return high * 0x10000 + low) := by
  have zero : hexValue? '0' = some 0 := by decide
  simp only [hexadecimal?, unit?, zero, List.mapM_cons, List.mapM_nil]
  cases hexValue? a <;> cases hexValue? b <;> cases hexValue? c <;> cases hexValue? d <;>
    cases hexValue? e <;> cases hexValue? f <;> simp
  omega

theorem hexSuffix?_eq_some_iff {cs left : List Char} {n : Nat} :
    hexSuffix? cs = some (n, left) ↔
      ∃ hex, cs = form hex ++ left ∧ hex.length = 6 ∧ hexadecimal? hex = some n := by
  constructor
  · intro found
    unfold hexSuffix? at found
    split at found
    · rename_i a b c d e f rest
      refine ⟨[a, b, c, d, e, f], ?_, rfl, ?_⟩
      · have same : rest = left := by
          simp only [Option.bind_eq_bind, Option.bind_eq_some_iff] at found
          obtain ⟨_, _, _, _, found⟩ := found
          exact congrArg Prod.snd (Option.some.inj found)
        rw [same]
        rfl
      · rw [hexadecimal?_six]
        simp only [Option.bind_eq_bind, Option.bind_eq_some_iff] at found ⊢
        obtain ⟨high, first, low, second, found⟩ := found
        exact ⟨high, first, low, second, congrArg some (congrArg Prod.fst (Option.some.inj found))⟩
    · cases found
  · rintro ⟨hex, rfl, six, value⟩
    match hex, six with
    | [a, b, c, d, e, f], _ =>
      rw [hexadecimal?_six] at value
      simp only [Option.bind_eq_bind, Option.bind_eq_some_iff] at value
      obtain ⟨high, first, low, second, value⟩ := value
      change hexSuffix? (' ' :: '(' :: '0' :: 'x' :: a :: b :: c :: d :: e :: f :: ')' :: left) = _
      simp only [hexSuffix?, first, second]
      exact congrArg (fun v => some (v, left)) (Option.some.inj value)

/-- The scan and the mention judge the run alike: six hexadecimal digits stay far below 2^63. -/
theorem leading_color? (run : List Char) {hex : List Char} {n : Nat} (six : hex.length = 6)
    (value : hexadecimal? hex = some n) (left : List Char) :
    (Mention.leading run hex left).color? = agreed? run n := by
  have small := hexadecimal?_le value six
  simp only [Mention.leading, Mention.color?, agreed?, value, Option.some.injEq]
  by_cases same : naturalOf run = n
  · subst same
    simp only [le_signedMax small, and_true]
  · simp [same, Ne.symm same]

theorem colors_behind (front : List Char) (found : List Mention) :
    (found.map (·.behind front)).filterMap Mention.color? = found.filterMap Mention.color? := by
  simp [List.filterMap_map, Function.comp_def]

section

variable {c : Char} {cs : List Char}

theorem scrape_other (other : isDecimalDigit c = false) : scrape (c :: cs) = scrape cs := by
  simp [scrape, other]

theorem scrape_run_none (digit : isDecimalDigit c = true)
    (none : hexSuffix? (cs.dropWhile isDecimalDigit) = none) :
    scrape (c :: cs) = scrape (cs.dropWhile isDecimalDigit) := by
  rw [scrape, if_pos digit]
  split
  case h_1 suffix =>
    rw [none] at suffix
    cases suffix
  case h_2 => rfl

theorem scrape_run_some (digit : isDecimalDigit c = true) {n : Nat} {left : List Char}
    (suffix : hexSuffix? (cs.dropWhile isDecimalDigit) = some (n, left)) :
    scrape (c :: cs) = (agreed? (c :: cs.takeWhile isDecimalDigit) n).toList ++ scrape left := by
  rw [scrape, if_pos digit]
  split
  case h_1 suffix' =>
    rw [suffix] at suffix'
    cases suffix'
    rfl
  case h_2 none =>
    rw [suffix] at none
    cases none

end

/-- A text that begins with a digit begins with a whole run. -/
theorem leading_run {c : Char} (cs : List Char) (digit : isDecimalDigit c = true) :
    c :: cs = (c :: cs.takeWhile isDecimalDigit) ++ cs.dropWhile isDecimalDigit ∧
      (∀ d ∈ c :: cs.takeWhile isDecimalDigit, isDecimalDigit d = true) ∧
      NoDigitFirst (cs.dropWhile isDecimalDigit) := by
  refine ⟨by simp, ?_, ?_⟩
  · intro d here
    rcases List.mem_cons.mp here with rfl | behind
    · exact digit
    · exact List.mem_takeWhile_imp behind
  · intro d first
    have other := List.head?_dropWhile_not isDecimalDigit cs
    rw [first] at other
    simpa using other

/-- The scan answers the colours of all mentions of the text in their order. -/
theorem scrape_lists (text : List Char) :
    ∃ found, Lists found text ∧ scrape text = found.filterMap Mention.color? := by
  induction text using scrape.induct with
  | case1 => exact ⟨[], lists_nil List.not_mem_nil, by simp [scrape]⟩
  | case2 c cs digit n left suffix ih =>
    obtain ⟨found, listed, colors⟩ := ih
    obtain ⟨whole, digits, _⟩ := leading_run cs digit
    obtain ⟨hex, rest, six, value⟩ := hexSuffix?_eq_some_iff.mp suffix
    have valid := hexadecimal?_isSome_iff.mp (Option.isSome_of_eq_some value)
    refine ⟨.leading (c :: cs.takeWhile isDecimalDigit) hex left ::
      found.map (·.behind (c :: cs.takeWhile isDecimalDigit ++ form hex)), ?_, ?_⟩
    · rw [whole, rest]
      exact listed.mention (List.cons_ne_nil _ _) digits six valid
    · rw [scrape_run_some digit suffix, ← leading_color? _ six value left, colors,
        List.filterMap_cons, colors_behind]
      cases (Mention.leading (c :: cs.takeWhile isDecimalDigit) hex left).color? <;> rfl
  | case3 c cs digit none ih =>
    obtain ⟨found, listed, colors⟩ := ih
    obtain ⟨whole, digits, next⟩ := leading_run cs digit
    refine ⟨found.map (·.behind (c :: cs.takeWhile isDecimalDigit)), ?_, ?_⟩
    · rw [whole]
      refine listed.behind ?_
      intro x
      rw [in_run_iff (List.cons_ne_nil _ _) digits next, or_iff_right]
      rintro ⟨_, _, rest, six, valid⟩
      obtain ⟨n, value⟩ := Option.isSome_iff_exists.mp (hexadecimal?_isSome_iff.mpr valid)
      rw [hexSuffix?_eq_some_iff.mpr ⟨x.hex, rest, six, value⟩] at none
      cases none
    · rw [scrape_run_none digit none, colors, colors_behind]
  | case4 c cs other ih =>
    obtain ⟨found, listed, colors⟩ := ih
    have other := Bool.eq_false_iff.mpr other
    have ends : NoDigitLast [c] := fun d last => Option.some.inj last ▸ other
    refine ⟨found.map (·.behind [c]), ?_, ?_⟩
    · exact listed.behind fun x => in_append_iff_of_blank List.not_mem_nil ends
    · rw [scrape_other other, colors, colors_behind]

theorem scrape_eq {text : List Char} {found : List Mention} (listed : Lists found text) :
    scrape text = found.filterMap Mention.color? := by
  obtain ⟨others, again, colors⟩ := scrape_lists text
  rw [colors, again.unique listed]

theorem toInt_ofNat {n : Nat} (small : n ≤ 0xFFFFFF) : (Int64.ofNat n).toInt = n :=
  Int64.toInt_ofNat_of_lt (Nat.lt_of_le_of_lt small (by decide))

theorem Mention.color?_eq_some_iff {x : Mention} {color : Int64} :
    x.color? = some color ↔
      x.run.all Char.isDigit ∧ (naturalOf x.run : Int) ≤ signedMax 64 ∧
        hexadecimal? x.hex = some (naturalOf x.run) ∧ color = Int64.ofNat (naturalOf x.run) := by
  rw [color?, Option.ite_none_right_eq_some, Option.some.injEq, and_assoc, and_assoc,
    eq_comm (a := color)]

/-- Six hexadecimal digits bound every colour. -/
theorem Mention.In.color?_toInt {x : Mention} {text : List Char} {color : Int64} (here : x.In text)
    (value : x.color? = some color) : 0 ≤ color.toInt ∧ color.toInt ≤ 0xFFFFFF := by
  obtain ⟨_, _, agrees, rfl⟩ := Mention.color?_eq_some_iff.mp value
  have small := hexadecimal?_le agrees here.six
  rw [toInt_ofNat small]
  omega

theorem mem_scrape_iff_mention {text : List Char} {color : Int64} :
    color ∈ scrape text ↔ ∃ x : Mention, x.In text ∧ x.color? = some color := by
  obtain ⟨found, listed, colors⟩ := scrape_lists text
  simp only [colors, List.mem_filterMap, listed.mem]

/-- The colours that a text shows are those of its mentions. -/
theorem shown_iff {text : List Char} {n : Nat} :
    Shown text n ↔ ∃ x : Mention, x.In text ∧ naturalOf x.run = n ∧
      x.color? = some (Int64.ofNat n) := by
  constructor
  · rintro ⟨before, run, hex, after, rfl, form⟩
    have valid := hexadecimal?_isSome_iff.mp (Option.isSome_of_eq_some form.hexadecimal)
    have small := hexadecimal?_le form.hexadecimal form.length
    refine ⟨⟨before, run, hex, after⟩, ⟨by simp [Mention.text, Color.form], form.whole, form.present,
      fun c here => isDecimalDigit_of_isDigit (form.digits c here), form.length, valid⟩,
      form.decimal, ?_⟩
    rw [Mention.color?_eq_some_iff, form.decimal]
    exact ⟨List.all_eq_true.mpr form.digits, le_signedMax small, form.hexadecimal, rfl⟩
  · rintro ⟨x, here, rfl, value⟩
    obtain ⟨digits, _, hexadecimal, _⟩ := Mention.color?_eq_some_iff.mp value
    refine ⟨x.before, x.run, x.hex, x.after, ?_, here.whole, here.present,
      List.all_eq_true.mp digits, rfl, here.six, hexadecimal⟩
    rw [here.same]
    simp [Mention.text, form]

/-- The scan finds the colours that are shown, and no others. -/
theorem mem_scrape_iff {text : List Char} {color : Int64} :
    color ∈ scrape text ↔ ∃ n, Shown text n ∧ color = Int64.ofNat n := by
  rw [mem_scrape_iff_mention]
  constructor
  · rintro ⟨x, here, value⟩
    have same := (Mention.color?_eq_some_iff.mp value).2.2.2
    exact ⟨naturalOf x.run, shown_iff.mpr ⟨x, here, rfl, same ▸ value⟩, same⟩
  · rintro ⟨n, shown, rfl⟩
    obtain ⟨x, here, _, value⟩ := shown_iff.mp shown
    exact ⟨x, here, value⟩

theorem scrape_eq_nil_iff {text : List Char} : scrape text = [] ↔ ∀ n, ¬ Shown text n := by
  simp only [List.eq_nil_iff_forall_not_mem, mem_scrape_iff, not_exists, not_and]
  exact ⟨fun none n shown => none _ n shown rfl, fun none _ n shown => absurd shown (none n)⟩

end BotTypings.Color
