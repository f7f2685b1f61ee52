import BotTypings.Proofs.Text.Lines
import Mathlib.Data.List.DropRight

/-! Trimmed texts and trimmed lines. Trimming takes blanks only, so that nothing visible is lost, and
it leaves a text alone that neither starts nor ends with one. Line breaks are blank as well, which is
why trimmed lines do not show whether a carriage return stood before the line feed. -/
namespace BotTypings.Text

/-- The characters that are not blank, in their order. -/
def visible (cs : List Char) : List Char := cs.filter (!isBlank ·)

@[simp] theorem visible_append (cs ds : List Char) : visible (cs ++ ds) = visible cs ++ visible ds :=
  List.filter_append ..

theorem visible_flatten (css : List (List Char)) :
    visible css.flatten = (css.map visible).flatten :=
  List.filter_flatten

theorem visible_eq_nil_iff {cs : List Char} : visible cs = [] ↔ ∀ c ∈ cs, isBlank c = true := by
  simp [visible]

theorem visible_trimStart (cs : List Char) : visible (trimStart cs) = visible cs := by
  have taken : visible (cs.takeWhile isBlank) = [] :=
    visible_eq_nil_iff.mpr fun _ mem => List.mem_takeWhile_imp mem
  calc visible (trimStart cs)
      = visible (cs.takeWhile isBlank ++ cs.dropWhile isBlank) := by rw [visible_append, taken]; rfl
    _ = visible cs := by rw [List.takeWhile_append_dropWhile]

theorem visible_trimEnd (cs : List Char) : visible (trimEnd cs) = visible cs := by
  have taken : visible (cs.rtakeWhile isBlank) = [] :=
    visible_eq_nil_iff.mpr fun _ mem => List.mem_rtakeWhile_imp mem
  calc visible (trimEnd cs)
      = visible (cs.rdropWhile isBlank ++ cs.rtakeWhile isBlank) := by
        rw [visible_append, taken, List.append_nil]; rfl
    _ = visible cs := by rw [List.rdropWhile_append_rtakeWhile]

theorem visible_trim (cs : List Char) : visible (trim cs) = visible cs := by
  rw [trim, visible_trimEnd, visible_trimStart]

theorem trimEnd_append_singleton {c : Char} (solid : isBlank c = false) (cs : List Char) :
    trimEnd (cs ++ [c]) = cs ++ [c] :=
  List.rdropWhile_concat_neg isBlank cs c (by simp [solid])

theorem trimEnd_cons (c : Char) (cs : List Char) :
    trimEnd (c :: cs) = if trimEnd cs = [] ∧ isBlank c = true then [] else c :: trimEnd cs := by
  simp only [trimEnd, List.reverse_cons, List.dropWhile_append, List.isEmpty_iff,
    List.reverse_eq_nil_iff]
  by_cases empty : cs.reverse.dropWhile isBlank = []
  · cases blank : isBlank c <;> simp [empty, List.dropWhile, blank]
  · simp [empty]

theorem trimEnd_cons_of_solid {c : Char} (solid : isBlank c = false) (cs : List Char) :
    trimEnd (c :: cs) = c :: trimEnd cs := by
  rw [trimEnd_cons, if_neg (by simp [solid])]

theorem trimEnd_cons_congr (c : Char) {cs ds : List Char} (same : trimEnd cs = trimEnd ds) :
    trimEnd (c :: cs) = trimEnd (c :: ds) := by
  rw [trimEnd_cons, trimEnd_cons, same]

theorem solid_of_trimEnd {c : Char} {cs : List Char} (last : (trimEnd cs).getLast? = some c) :
    isBlank c = false := by
  have some : trimEnd cs ≠ [] := by
    intro none
    simp [none] at last
  have solid := List.rdropWhile_last_not isBlank cs some
  rw [List.getLast?_eq_some_getLast some, Option.some.injEq] at last
  exact last ▸ Bool.eq_false_iff.mpr solid

theorem solid_of_trim {c : Char} {cs : List Char} (first : (trim cs).head? = some c) :
    isBlank c = false := by
  obtain ⟨rest, whole⟩ : trim cs <+: trimStart cs := List.rdropWhile_prefix isBlank (trimStart cs)
  have start : (cs.dropWhile isBlank).head? = some c := by
    rw [← trimStart, ← whole, List.head?_append, first, Option.some_or]
  have solid := List.head?_dropWhile_not isBlank cs
  rwa [start] at solid

theorem trimEnd_eq_self {cs : List Char} (solid : ∀ c ∈ cs.getLast?, isBlank c = false) :
    trimEnd cs = cs := by
  refine List.rdropWhile_eq_self_iff.mpr fun some => ?_
  exact Bool.eq_false_iff.mp (solid _ (List.getLast?_eq_some_getLast some))

theorem trim_eq_self {cs : List Char} (first : ∀ c ∈ cs.head?, isBlank c = false)
    (last : ∀ c ∈ cs.getLast?, isBlank c = false) : trim cs = cs := by
  have start : trimStart cs = cs := by
    cases cs with
    | nil => rfl
    | cons c cs => simp [trimStart, first c rfl]
  rw [trim, start, trimEnd_eq_self last]

theorem trim_eq_nil_iff {cs : List Char} : trim cs = [] ↔ ∀ c ∈ cs, isBlank c = true := by
  rw [← visible_eq_nil_iff, ← visible_trim]
  refine ⟨fun empty => by rw [empty]; rfl, fun none => ?_⟩
  cases kept : trim cs with
  | nil => rfl
  | cons c rest =>
    have blank := visible_eq_nil_iff.mp none c (kept ▸ List.mem_cons_self)
    have solid := solid_of_trim (congrArg List.head? kept)
    rw [blank] at solid
    cases solid

def Blank (text : String) : Prop := ∀ c ∈ text.toList, isBlank c = true

instance : DecidablePred Blank := fun text =>
  inferInstanceAs (Decidable (∀ c ∈ text.toList, isBlank c = true))

def StartsBlank (text : String) : Prop := ∃ c ∈ text.toList.head?, isBlank c = true

def EndsBlank (text : String) : Prop := ∃ c ∈ text.toList.getLast?, isBlank c = true

theorem not_startsBlank_iff {text : String} :
    ¬ StartsBlank text ↔ ∀ c ∈ text.toList.head?, isBlank c = false := by
  simp [StartsBlank]

theorem not_endsBlank_iff {text : String} :
    ¬ EndsBlank text ↔ ∀ c ∈ text.toList.getLast?, isBlank c = false := by
  simp [EndsBlank]

theorem startsBlank_append {text : String} (some : text ≠ "") (rest : String) :
    StartsBlank (text ++ rest) ↔ StartsBlank text := by
  obtain ⟨c, cs, chars⟩ := List.exists_cons_of_ne_nil (mt String.toList_eq_nil_iff.mp some)
  simp [StartsBlank, chars]

theorem endsBlank_append {text : String} (some : text ≠ "") (lead : String) :
    EndsBlank (lead ++ text) ↔ EndsBlank text := by
  have chars : text.toList ≠ [] := mt String.toList_eq_nil_iff.mp some
  rw [EndsBlank, EndsBlank, String.toList_append, List.getLast?_append_of_ne_nil _ chars]

theorem startsBlank_joined {first : String} (some : first ≠ "") (sep : String)
    (rest : List String) : StartsBlank (joined sep (first :: rest)) ↔ StartsBlank first := by
  have whole := joined_around sep first [] rest
  rw [List.map_nil, String.join_nil, String.empty_append] at whole
  rw [← List.nil_append (first :: rest), whole, startsBlank_append some]

theorem endsBlank_joined {last : String} (some : last ≠ "") (sep : String)
    (before : List String) : EndsBlank (joined sep (before ++ [last])) ↔ EndsBlank last := by
  have whole := joined_around sep last before []
  rw [List.map_nil, String.join_nil, String.append_empty] at whole
  rw [whole, endsBlank_append some]

theorem not_endsBlank_trimEnd (cs : List Char) : ¬ EndsBlank (String.ofList (trimEnd cs)) := by
  rw [not_endsBlank_iff, String.toList_ofList]
  exact fun c last => solid_of_trimEnd last

/-- A line without the blanks at its end. -/
def withoutEnd (line : String) : String := String.ofList (trimEnd line.toList)

theorem withoutEnd_eq_self {line : String} (solid : ¬ EndsBlank line) : withoutEnd line = line := by
  rw [withoutEnd, trimEnd_eq_self (not_endsBlank_iff.mp solid), String.ofList_toList]

theorem flatten_pieces (sep : Char) (cs : List Char) :
    (pieces sep cs).flatten = cs.filter (· ≠ sep) := by
  induction cs with
  | nil => rfl
  | cons c cs ih =>
    rw [pieces]
    split
    · rename_i same
      simp [same, ih]
    · rename_i other
      split
      · rename_i none
        exact absurd none (pieces_ne_nil sep cs)
      · rename_i piece rest cut
        rw [cut] at ih
        rw [List.filter_cons_of_pos (by simp [other]), ← ih]
        rfl

theorem visible_pieces (cs : List Char) : visible (pieces '\n' cs).flatten = visible cs := by
  rw [flatten_pieces, visible, visible, List.filter_filter]
  refine List.filter_congr fun c _ => ?_
  by_cases same : c = '\n'
  · subst same
    decide
  · simp [same]

theorem pieces_cons {sep c : Char} (other : c ≠ sep) (cs : List Char) :
    ∃ piece rest, pieces sep cs = piece :: rest ∧ pieces sep (c :: cs) = (c :: piece) :: rest := by
  obtain ⟨piece, rest, cut⟩ := List.exists_cons_of_ne_nil (pieces_ne_nil sep cs)
  exact ⟨piece, rest, cut, by rw [pieces, if_neg other, cut]⟩

theorem pieces_append_singleton {sep c : Char} (other : c ≠ sep) (cs : List Char) :
    ∃ before piece, pieces sep (cs ++ [c]) = before ++ [piece ++ [c]] := by
  induction cs with
  | nil => exact ⟨[], [], by simp [pieces, other]⟩
  | cons d cs ih =>
    obtain ⟨before, piece, cut⟩ := ih
    rw [List.cons_append, pieces, cut]
    split
    · exact ⟨[] :: before, piece, rfl⟩
    · cases before with
      | nil => exact ⟨[], d :: piece, rfl⟩
      | cons first before => exact ⟨(d :: first) :: before, piece, rfl⟩

/-- The lines of a text as line breaks end them. A line break is a line feed, with a carriage return
before it or without one; behind the last of them stands a line only if there is any text left. -/
def endedLines : List Char → List (List Char)
  | [] => []
  | '\n' :: cs => [] :: endedLines cs
  | '\r' :: '\n' :: cs => [] :: endedLines cs
  | c :: cs =>
    match endedLines cs with
    | [] => [[c]]
    | line :: rest => (c :: line) :: rest

theorem solid_behind {c : Char} {cs : List Char} (some : cs ≠ [])
    (solid : ∀ d ∈ (c :: cs).getLast?, isBlank d = false) : ∀ d ∈ cs.getLast?, isBlank d = false := by
  rwa [List.getLast?_cons_of_ne_nil some] at solid

theorem solid_behind_blank {c : Char} {cs : List Char} (blank : isBlank c = true)
    (solid : ∀ d ∈ (c :: cs).getLast?, isBlank d = false) :
    cs ≠ [] ∧ ∀ d ∈ cs.getLast?, isBlank d = false := by
  have some : cs ≠ [] := by
    rintro rfl
    have here := solid c rfl
    rw [blank] at here
    cases here
  exact ⟨some, solid_behind some solid⟩

/-- Trimmed, the lines between line breaks are the pieces between line feeds, in a text that does not
end with a line break. -/
theorem trimEnd_endedLines {cs : List Char} (some : cs ≠ [])
    (solid : ∀ c ∈ cs.getLast?, isBlank c = false) :
    (endedLines cs).map trimEnd = (pieces '\n' cs).map trimEnd := by
  fun_induction endedLines cs with
  | case1 => exact absurd rfl some
  | case2 cs ih =>
    have rest := solid_behind_blank (by decide) solid
    rw [pieces, if_pos rfl, List.map_cons, List.map_cons, ih rest.1 rest.2]
  | case3 cs ih =>
    -- The piece holds the carriage return, which is all that trimming takes from it.
    have rest := solid_behind_blank (by decide) (solid_behind_blank (by decide) solid).2
    have cut : pieces '\n' ('\r' :: '\n' :: cs) = ['\r'] :: pieces '\n' cs := by simp [pieces]
    rw [cut, List.map_cons, List.map_cons, ih rest.1 rest.2]
    rfl
  | case4 c cs feed pair none ih =>
    obtain ⟨piece, others, cutPieces, longer⟩ := pieces_cons feed cs
    by_cases more : cs = []
    · subst more
      cases cutPieces
      rw [longer]
    · have same := ih more (solid_behind more solid)
      rw [none, cutPieces] at same
      cases same
  | case5 c cs feed pair line rest cut ih =>
    obtain ⟨piece, others, cutPieces, longer⟩ := pieces_cons feed cs
    have more : cs ≠ [] := by
      rintro rfl
      cases cut
    have same := ih more (solid_behind more solid)
    rw [cut, cutPieces, List.map_cons, List.map_cons, List.cons.injEq] at same
    rw [longer, List.map_cons, List.map_cons, trimEnd_cons_congr c same.1, same.2]

end BotTypings.Text
