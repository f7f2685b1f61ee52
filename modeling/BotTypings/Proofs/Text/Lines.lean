import BotTypings.Text.Blank

/-! The lines of a text. A text made of whole lines is cut back into those lines, whatever follows
it, as long as no line holds a line break itself. -/
namespace BotTypings.Text

def Unbroken (text : String) : Prop := '\n' ∉ text.toList

instance : DecidablePred Unbroken := fun text => inferInstanceAs (Decidable ('\n' ∉ text.toList))

@[simp] theorem unbroken_append {a b : String} : Unbroken (a ++ b) ↔ Unbroken a ∧ Unbroken b := by
  rw [Unbroken, String.toList_append, List.mem_append, not_or]
  rfl

theorem unbroken_joined {sep : String} (separator : Unbroken sep) : {texts : List String} →
    (∀ text ∈ texts, Unbroken text) → Unbroken (joined sep texts)
  | [], _ => (by decide : Unbroken "")
  | [text], unbroken => unbroken text List.mem_cons_self
  | text :: next :: rest, unbroken => by
    rw [joined, unbroken_append, unbroken_append]
    exact ⟨⟨unbroken text List.mem_cons_self, separator⟩,
      unbroken_joined separator fun other mem => unbroken other (List.mem_cons_of_mem _ mem)⟩

theorem pieces_append_of_not_mem {sep : Char} {cs : List Char} (absent : sep ∉ cs)
    (rest : List Char) : pieces sep (cs ++ sep :: rest) = cs :: pieces sep rest := by
  induction cs with
  | nil => rw [List.nil_append, pieces, if_pos rfl]
  | cons c cs ih =>
    rw [List.mem_cons, not_or] at absent
    rw [List.cons_append, pieces, if_neg (Ne.symm absent.1), ih absent.2]

theorem pieces_append (sep : Char) (cs rest : List Char) :
    pieces sep (cs ++ sep :: rest) = pieces sep cs ++ pieces sep rest := by
  induction cs with
  | nil => rw [List.nil_append, pieces.eq_2, if_pos rfl, pieces, List.singleton_append]
  | cons c cs ih =>
    rw [List.cons_append, pieces, pieces, ih]
    split
    · rw [List.cons_append]
    · cases cut : pieces sep cs with
      | nil => exact absurd cut (pieces_ne_nil sep cs)
      | cons first others => rfl

theorem pieces_of_not_mem {sep : Char} {cs : List Char} (absent : sep ∉ cs) :
    pieces sep cs = [cs] := by
  induction cs with
  | nil => rfl
  | cons c cs ih =>
    rw [List.mem_cons, not_or] at absent
    rw [pieces, if_neg (Ne.symm absent.1), ih absent.2]

theorem not_mem_of_mem_pieces {sep : Char} : {cs piece : List Char} → piece ∈ pieces sep cs →
    sep ∉ piece
  | [], piece, mem => by
    rw [pieces, List.mem_singleton] at mem
    rw [mem]
    exact List.not_mem_nil
  | c :: cs, piece, mem => by
    rw [pieces] at mem
    split at mem
    · rcases List.mem_cons.mp mem with rfl | later
      · exact List.not_mem_nil
      · exact not_mem_of_mem_pieces later
    · rename_i other
      split at mem
      · rename_i none
        exact absurd none (pieces_ne_nil sep cs)
      · rename_i first rest cut
        rcases List.mem_cons.mp mem with rfl | later
        · rw [List.mem_cons, not_or]
          exact ⟨Ne.symm other, not_mem_of_mem_pieces (cut ▸ List.mem_cons_self)⟩
        · exact not_mem_of_mem_pieces (cut ▸ List.mem_cons_of_mem _ later)

def textLines (text : String) : List String := (pieces '\n' text.toList).map String.ofList

/-- Whole lines as a text. -/
def laidOut (lines : List String) : String := String.join (lines.map (· ++ "\n"))

@[simp] theorem laidOut_nil : laidOut [] = "" := rfl

@[simp] theorem laidOut_cons (line : String) (lines : List String) :
    laidOut (line :: lines) = line ++ "\n" ++ laidOut lines := by
  rw [laidOut, List.map_cons, String.join_cons]
  rfl

@[simp] theorem laidOut_append (lines more : List String) :
    laidOut (lines ++ more) = laidOut lines ++ laidOut more := by
  rw [laidOut, List.map_append, String.join_append]
  rfl

theorem textLines_line {line : String} (unbroken : Unbroken line) (rest : String) :
    textLines (line ++ "\n" ++ rest) = line :: textLines rest := by
  have cut : (line ++ "\n" ++ rest).toList = line.toList ++ '\n' :: rest.toList := by
    rw [String.toList_append, String.toList_append, List.append_assoc]
    rfl
  rw [textLines, cut, pieces_append_of_not_mem unbroken, List.map_cons, String.ofList_toList]
  rfl

theorem textLines_laidOut {lines : List String} (unbroken : ∀ line ∈ lines, Unbroken line)
    (rest : String) : textLines (laidOut lines ++ rest) = lines ++ textLines rest := by
  induction lines with
  | nil => rw [laidOut_nil, String.empty_append, List.nil_append]
  | cons line lines ih =>
    rw [laidOut_cons, String.append_assoc, textLines_line (unbroken line List.mem_cons_self),
      ih fun other mem => unbroken other (List.mem_cons_of_mem _ mem), List.cons_append]

theorem joined_cons {sep text : String} {rest : List String} (more : rest ≠ []) :
    joined sep (text :: rest) = text ++ sep ++ joined sep rest := by
  cases rest with
  | nil => exact absurd rfl more
  | cons next rest => rfl

theorem joined_append {sep : String} {xs ys : List String} (some : xs ≠ []) (someToo : ys ≠ []) :
    joined sep (xs ++ ys) = joined sep xs ++ sep ++ joined sep ys := by
  induction xs with
  | nil => exact absurd rfl some
  | cons x xs ih =>
    cases xs with
    | nil => exact joined_cons someToo
    | cons next xs =>
      have rest := ih (List.cons_ne_nil next xs)
      simp only [List.cons_append, joined] at rest ⊢
      simp only [rest, String.append_assoc]

/-- One text among others, each of the others with the separator that goes with it. -/
theorem joined_around (sep text : String) (before after : List String) :
    joined sep (before ++ text :: after) =
      String.join (before.map (· ++ sep)) ++ text ++ String.join (after.map (sep ++ ·)) := by
  have behind : ∀ text, joined sep (text :: after) = text ++ String.join (after.map (sep ++ ·)) := by
    induction after with
    | nil => simp [joined]
    | cons next after ih => simp [joined, ih next, String.append_assoc]
  induction before with
  | nil => simp [behind]
  | cons first before ih =>
    have more : before ++ text :: after ≠ [] := by simp
    simp [joined_cons more, ih, String.append_assoc]

theorem joined_ofList_pieces : (cs : List Char) →
    joined "\n" ((pieces '\n' cs).map String.ofList) = String.ofList cs
  | [] => rfl
  | c :: cs => by
    have ih := joined_ofList_pieces cs
    rw [pieces]
    split
    · rename_i same
      rw [List.map_cons, joined_cons (by simp [pieces_ne_nil]), ih, ← String.toList_inj]
      simp [same]
    · split
      · rename_i none
        exact absurd none (pieces_ne_nil _ _)
      · rename_i first rest cut
        rw [cut, ← String.toList_inj] at ih
        rw [← String.toList_inj]
        cases rest <;> simp_all [joined]

/-- The lines of a text, joined, are the text. -/
theorem joined_textLines (text : String) : joined "\n" (textLines text) = text := by
  rw [textLines, joined_ofList_pieces, String.ofList_toList]

/-- The lines of a text in which every line is ended. -/
def wholeLines (text : String) : List String := (textLines text).dropLast

theorem textLines_append (text rest : String) :
    textLines (text ++ "\n" ++ rest) = textLines text ++ textLines rest := by
  have cut : (text ++ "\n" ++ rest).toList = text.toList ++ '\n' :: rest.toList := by simp
  simp [textLines, cut, pieces_append]

/-- Texts that are joined keep their lines. -/
theorem textLines_flatMap {texts : List String} (some : texts ≠ []) :
    textLines (joined "\n" texts) = texts.flatMap textLines := by
  induction texts with
  | nil => exact absurd rfl some
  | cons text rest ih =>
    by_cases more : rest = []
    · subst more
      rw [joined, List.flatMap_singleton]
    · rw [joined_cons more, textLines_append, ih more, List.flatMap_cons]

/-- Lines that are joined are the lines of the text, if there are any. -/
theorem textLines_joined {lines : List String} (unbroken : ∀ line ∈ lines, Unbroken line)
    (some : lines ≠ []) : textLines (joined "\n" lines) = lines := by
  have each : ∀ line ∈ lines, textLines line = [line] := fun line mem => by
    rw [textLines, pieces_of_not_mem (unbroken line mem), List.map_singleton, String.ofList_toList]
  rw [textLines_flatMap some, List.flatMap_def, List.map_congr_left each, ← List.flatMap_def,
    List.flatMap_singleton']

theorem textLines_ne_nil (text : String) : textLines text ≠ [] := by
  simp [textLines, pieces_ne_nil]

/-- A line break between two texts, the first of which has ended its last line, is an empty line. -/
theorem wholeLines_append {text : String} (ends : ∃ body, text = body ++ "\n") (rest : String) :
    wholeLines (text ++ "\n" ++ rest) = wholeLines text ++ "" :: wholeLines rest := by
  obtain ⟨body, rfl⟩ := ends
  have last : textLines (body ++ "\n") = textLines body ++ [""] := by
    have cut := textLines_append body ""
    rwa [String.append_empty] at cut
  have more : textLines rest ≠ [] := textLines_ne_nil rest
  simp only [wholeLines, textLines_append, last, List.append_assoc, List.singleton_append]
  rw [List.dropLast_append_of_ne_nil (by simp), List.dropLast_cons_of_ne_nil more]
  simp

end BotTypings.Text
