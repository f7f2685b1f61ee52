import BotTypings.Proofs.Text.Lines
import BotTypings.Text.Naming

/-! Casing a name breaks no line. Of the case mappings only their images matter: none of them is a
control character, so that a line break can only come from one that was there. -/
namespace BotTypings.Text

theorem ofNat_ne_newline {n : Nat} (other : n ≠ 10) : Char.ofNat n ≠ '\n' := by
  intro same
  by_cases valid : n.isValidChar
  · rw [Char.ofNat, dif_pos valid] at same
    exact other (congrArg Char.toNat same)
  · rw [Char.ofNat, dif_neg valid] at same
    cases same

theorem newline_of_shifted {shifts : Array Shift} (above : shifts.all (10 < ·.image) = true)
    {c : Char} (newline : shifted shifts c = '\n') : c = '\n' := by
  unfold shifted at newline
  split at newline
  · rename_i s found
    have image := Array.all_eq_true_iff_forall_mem.mp above s (Array.mem_of_find?_eq_some found)
    have far : 10 < s.image := of_decide_eq_true image
    exact absurd newline (ofNat_ne_newline (by omega))
  · exact newline

theorem upperShifts_above : upperShifts.all (10 < ·.image) = true := by decide +kernel

theorem lowerShifts_above : lowerShifts.all (10 < ·.image) = true := by decide +kernel

theorem upperExpansions_above : upperExpansions.all (·.2.all (10 < ·)) = true := by decide +kernel

/-- What holds of every ASCII character can be looked up. -/
theorem ascii_forall {P : Char → Prop} (table : ∀ n < 128, P (Char.ofNat n)) {c : Char}
    (ascii : c.toNat < 128) : P c := by
  have entry := table c.toNat ascii
  rwa [Char.ofNat_toNat] at entry

theorem newline_of_toUpper {c : Char} (ascii : c.toNat < 128) : c.toUpper = '\n' → c = '\n' := by
  refine ascii_forall (P := fun c => c.toUpper = '\n' → c = '\n') ?_ ascii
  decide

theorem newline_of_toLower {c : Char} (ascii : c.toNat < 128) : c.toLower = '\n' → c = '\n' := by
  refine ascii_forall (P := fun c => c.toLower = '\n' → c = '\n') ?_ ascii
  decide

theorem newline_of_mem_upper {c : Char} (newline : '\n' ∈ upper c) : c = '\n' := by
  unfold upper at newline
  split at newline
  · rename_i ascii
    rw [List.mem_singleton] at newline
    exact newline_of_toUpper ascii newline.symm
  · split at newline
    · rename_i code points found
      obtain ⟨n, inside, same⟩ := List.mem_map.mp newline
      have above := Array.all_eq_true_iff_forall_mem.mp upperExpansions_above _
        (Array.mem_of_find?_eq_some found)
      have far : 10 < n := of_decide_eq_true (List.all_eq_true.mp above n inside)
      exact absurd same (ofNat_ne_newline (by omega))
    · rw [List.mem_singleton] at newline
      exact newline_of_shifted upperShifts_above newline.symm

theorem newline_of_mem_lower {c : Char} (newline : '\n' ∈ lower c) : c = '\n' := by
  unfold lower at newline
  split at newline
  · rename_i ascii
    rw [List.mem_singleton] at newline
    exact newline_of_toLower ascii newline.symm
  · split at newline
    · exact absurd newline (by decide)
    · rw [List.mem_singleton] at newline
      exact newline_of_shifted lowerShifts_above newline.symm

theorem mem_capitalize {d : Char} {name : String} (mem : d ∈ (capitalize name).toList) :
    ∃ c ∈ name.toList, d ∈ upper c ∨ d = c := by
  unfold capitalize at mem
  split at mem
  · cases mem
  · rename_i c cs cut
    rw [String.toList_ofList, List.mem_append] at mem
    rw [cut]
    rcases mem with first | other
    · exact ⟨c, List.mem_cons_self, .inl first⟩
    · exact ⟨d, List.mem_cons_of_mem _ other, .inr rfl⟩

theorem unbroken_capitalize {name : String} (unbroken : Unbroken name) :
    Unbroken (capitalize name) := by
  intro newline
  obtain ⟨c, mem, raised | rfl⟩ := mem_capitalize newline
  · exact unbroken (newline_of_mem_upper raised ▸ mem)
  · exact unbroken mem

theorem mem_putFirst {c d : Char} {texts : List (List Char)}
    (mem : d ∈ (putFirst c texts).flatten) : d = c ∨ d ∈ texts.flatten := by
  cases texts <;> simp_all [putFirst]

theorem mem_wordsOfPiece {d : Char} {seen : Letters} {cs : List Char}
    (mem : d ∈ (wordsOfPiece seen cs).flatten) : d ∈ cs := by
  induction seen, cs using wordsOfPiece.induct with
  | case1 => exact mem
  | case2 seen c => simpa [wordsOfPiece] using mem
  | case3 seen c next rest ends ih =>
    rw [wordsOfPiece, if_pos ends, List.flatten_cons, List.mem_append, List.mem_singleton] at mem
    exact List.mem_cons.mpr (mem.imp_right ih)
  | case4 seen c next rest goes ends ih =>
    rw [wordsOfPiece, if_neg goes, if_pos ends, List.flatten_cons, List.nil_append] at mem
    exact List.mem_cons.mpr ((mem_putFirst mem).imp_right ih)
  | case5 seen c next rest goes on ih =>
    rw [wordsOfPiece, if_neg goes, if_neg on] at mem
    exact List.mem_cons.mpr ((mem_putFirst mem).imp_right ih)

theorem mem_alphanumericRuns {d : Char} {cs : List Char}
    (mem : d ∈ (alphanumericRuns cs).flatten) : d ∈ cs := by
  induction cs with
  | nil => simp [alphanumericRuns] at mem
  | cons c cs ih =>
    rw [alphanumericRuns] at mem
    split at mem
    · exact List.mem_cons.mpr ((mem_putFirst mem).imp_right ih)
    · exact List.mem_cons_of_mem _ (ih mem)

theorem mem_words {d : Char} {name : List Char} (mem : d ∈ (words name).flatten) : d ∈ name := by
  obtain ⟨word, found, inside⟩ := List.mem_flatten.mp mem
  obtain ⟨run, cut, part⟩ := List.mem_flatMap.mp found
  have own : d ∈ run := mem_wordsOfPiece (List.mem_flatten.mpr ⟨word, part, inside⟩)
  exact mem_alphanumericRuns (List.mem_flatten.mpr ⟨run, cut, own⟩)

/-- A character of a word in other letters comes from one of its characters; a sigma at the end has a
small form of its own. -/
inductive Recased (word : List Char) (d : Char) : Prop
  | raised {c : Char} (mem : c ∈ word) (image : d ∈ upper c)
  | lowered {c : Char} (mem : c ∈ word) (image : d ∈ lower c)
  | sigma (mem : 'Σ' ∈ word) (last : d = 'ς')

theorem Recased.subset {word name : List Char} {d : Char} (recased : Recased word d)
    (inside : word ⊆ name) : Recased name d := by
  cases recased with
  | raised mem image => exact .raised (inside mem) image
  | lowered mem image => exact .lowered (inside mem) image
  | sigma mem last => exact .sigma (inside mem) last

theorem recased_of_mem_lowerWord {d : Char} {word : List Char} (mem : d ∈ lowerWord word) :
    Recased word d := by
  induction word using lowerWord.induct with
  | case1 => cases mem
  | case2 => exact .sigma List.mem_cons_self (List.mem_singleton.mp mem)
  | case3 c cs other ih =>
    rw [lowerWord.eq_3 c cs other, List.mem_append] at mem
    rcases mem with first | behind
    · exact .lowered List.mem_cons_self first
    · exact (ih behind).subset (List.subset_cons_self c cs)

theorem recased_of_mem_capitalWord {d : Char} {word : List Char} (mem : d ∈ capitalWord word) :
    Recased word d := by
  cases word with
  | nil => cases mem
  | cons c cs =>
    rw [capitalWord, List.mem_append] at mem
    rcases mem with first | behind
    · exact .raised List.mem_cons_self first
    · exact (recased_of_mem_lowerWord behind).subset (List.subset_cons_self c cs)

theorem recased_of_mem_pascalCase {d : Char} {name : String} (mem : d ∈ (pascalCase name).toList) :
    Recased name.toList d := by
  rw [pascalCase, String.toList_ofList] at mem
  obtain ⟨word, found, inside⟩ := List.mem_flatMap.mp mem
  refine (recased_of_mem_capitalWord inside).subset fun c part => ?_
  exact mem_words (List.mem_flatten.mpr ⟨word, found, part⟩)

theorem unbroken_pascalCase {name : String} (unbroken : Unbroken name) :
    Unbroken (pascalCase name) := by
  intro newline
  cases recased_of_mem_pascalCase newline with
  | raised mem image => exact unbroken (newline_of_mem_upper image ▸ mem)
  | lowered mem image => exact unbroken (newline_of_mem_lower image ▸ mem)
  | sigma _ last => exact absurd last (by decide)

end BotTypings.Text
