import BotTypings.Documentation
import BotTypings.Proofs.Text.Comments

/-! Documentation texts in their comment blocks. No line of a text can end the block it stands in:
escaping leaves no terminator behind, and what is put before a line does not make one either. -/
namespace BotTypings.Documentation

open BotTypings.Text

theorem startsWith_escapeChars (cs : List Char) :
    startsWith (escapeChars cs) ['/'] = startsWith cs ['/'] := by
  fun_cases escapeChars cs <;> simp [startsWith]

theorem contains_escapeChars (cs : List Char) : contains ['*', '/'] (escapeChars cs) = false := by
  induction cs using escapeChars.induct with
  | case1 => rfl
  | case2 rest ih => simp [escapeChars, contains, startsWith, ih]
  | case3 c rest other ih =>
    have apart : (c == '*' && startsWith rest ['/']) = false := by
      cases rest with
      | nil => simp [startsWith]
      | cons next rest =>
        simp only [startsWith, Bool.and_true, Bool.and_eq_false_iff, beq_eq_false_iff_ne]
        by_cases star : c = '*'
        · exact .inr fun slash => other rest star (by rw [slash])
        · exact .inl star
    rw [escapeChars.eq_3 c rest other, contains, startsWith, startsWith_escapeChars, apart, ih]
    rfl

theorem mem_escapeChars {c : Char} (other : c ≠ '\\') {cs : List Char} :
    c ∈ escapeChars cs → c ∈ cs := by
  induction cs using escapeChars.induct with
  | case1 => exact id
  | case2 rest ih =>
    intro mem
    simp only [escapeChars, List.mem_cons] at mem ⊢
    grind
  | case3 d rest plain ih =>
    intro mem
    rw [escapeChars.eq_3 d rest plain, List.mem_cons] at mem
    rcases mem with rfl | later
    · exact List.mem_cons_self
    · exact List.mem_cons_of_mem _ (ih later)

theorem unbroken_escape {line : String} (unbroken : Unbroken line) : Unbroken (escape line) := by
  rw [Unbroken, escape, String.toList_ofList]
  exact fun mem => unbroken (mem_escapeChars (by decide) mem)

theorem mem_trimEnd {c : Char} {cs : List Char} (mem : c ∈ trimEnd cs) : c ∈ cs := by
  rw [trimEnd, List.mem_reverse] at mem
  exact List.mem_reverse.mp ((List.dropWhile_sublist _).subset mem)

theorem unbroken_lines (text : String) : ∀ line ∈ lines text, Unbroken line := by
  intro line mem
  obtain ⟨cs, written, rfl⟩ := List.mem_map.mp mem
  rw [Unbroken, String.toList_ofList]
  unfold linesOf at written
  split at written
  · cases written
  · obtain ⟨piece, cut, rfl⟩ := List.mem_map.mp written
    exact fun inside => not_mem_of_mem_pieces cut (mem_trimEnd inside)

def commentLine (indent line : String) : String :=
  indent ++ " *" ++ if line = "" then "" else " " ++ escape line

def comment (indent : String) (lines : List String) : List String :=
  (indent ++ "/**") :: (lines.map (commentLine indent) ++ [indent ++ " */"])

/-- The comment block of a text, none without lines. -/
def comments (indent : String) (lines : List String) : List (List String) :=
  if lines.isEmpty then [] else [comment indent lines]

theorem block_eq (indent : String) (lines : List String) :
    block indent lines = laidOut (comments indent lines).flatten := by
  have each : (lines.map (commentLine indent)).map (· ++ "\n") = lines.map (blockLine indent) := by
    rw [List.map_map]
    rfl
  rw [block, comments]
  split
  · rfl
  · rw [List.flatten_singleton, laidOut, comment, List.map_cons, List.map_append, each,
      String.join_cons, String.join_append]
    simp only [String.append_assoc, List.map_cons, List.map_nil, String.join_cons, String.join_nil,
      String.append_empty]
    rfl

section

variable {indent : String} (margin : indent ∈ ["", "\t"])
include margin

theorem holdsTerminator_opening : holdsTerminator (indent ++ "/**") = false := by
  revert indent
  decide

theorem holdsTerminator_commentLine (line : String) :
    holdsTerminator (commentLine indent line) = false := by
  have escaped := contains_escapeChars line.toList
  rw [holdsTerminator, commentLine]
  simp only [List.mem_cons, List.not_mem_nil, or_false] at margin
  rcases margin with rfl | rfl <;> split <;>
    simp_all [contains, startsWith, escape]

theorem isBlock_comment (lines : List String) : IsBlock (comment indent lines) := by
  refine .intro _ _ _ ?_ ?_ ?_
  · revert indent
    decide
  · intro line mem
    obtain ⟨text, _, rfl⟩ := List.mem_map.mp mem
    exact holdsTerminator_commentLine margin text
  · revert indent
    decide

/-- A comment with one terminator, which ends the closing line. -/
def ClosesOnce (block : List String) : Prop :=
  ∃ indent ∈ ["", "\t"], ∃ inner, block = (indent ++ "/**") :: (inner ++ [indent ++ " */"]) ∧
    ∀ line ∈ (indent ++ "/**") :: inner, holdsTerminator line = false

theorem closesOnce_comments (lines : List String) :
    ∀ block ∈ comments indent lines, ClosesOnce block := by
  intro block mem
  unfold comments at mem
  split at mem
  · cases mem
  · rw [List.mem_singleton] at mem
    refine ⟨indent, margin, lines.map (commentLine indent), mem, fun line inside => ?_⟩
    rcases List.mem_cons.mp inside with rfl | inside
    · exact holdsTerminator_opening margin
    · obtain ⟨text, _, rfl⟩ := List.mem_map.mp inside
      exact holdsTerminator_commentLine margin text

theorem unbroken_comment {lines : List String} (unbroken : ∀ line ∈ lines, Unbroken line) :
    ∀ line ∈ comment indent lines, Unbroken line := by
  have plain : Unbroken indent := by
    revert indent
    decide
  intro line mem
  rw [comment, List.mem_cons, List.mem_append, List.mem_singleton] at mem
  rcases mem with rfl | inner | rfl
  · exact unbroken_append.mpr ⟨plain, by decide⟩
  · obtain ⟨text, given, rfl⟩ := List.mem_map.mp inner
    rw [commentLine, unbroken_append, unbroken_append]
    refine ⟨⟨plain, by decide⟩, ?_⟩
    split
    · decide
    · exact unbroken_append.mpr ⟨by decide, unbroken_escape (unbroken text given)⟩
  · exact unbroken_append.mpr ⟨plain, by decide⟩

theorem block_commented {lines : List String} (unbroken : ∀ line ∈ lines, Unbroken line) :
    Commented (block indent lines) "" (comments indent lines) := by
  rw [block_eq, comments]
  split
  · exact .nothing
  · rw [List.flatten_singleton]
    exact .ofBlock (isBlock_comment margin lines) (unbroken_comment margin unbroken)

end

end BotTypings.Documentation
