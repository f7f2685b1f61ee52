import BotTypings.Proofs.Text.Lines

/-! Comment blocks as a reader of the text finds them, line by line and without knowing how it was
made: a block runs from an opening line to the first line behind it that holds a terminator. -/
namespace BotTypings.Text

def isOpening (line : String) : Bool := line == "/**" || line == "\t/**"

def holdsTerminator (line : String) : Bool := contains "*/".toList line.toList

/-- The lines outside of blocks. -/
def codeLines (inside : Bool) : List String → List String
  | [] => []
  | line :: rest =>
    if inside then codeLines (!holdsTerminator line) rest
    else if isOpening line then codeLines true rest
    else line :: codeLines false rest

/-- The blocks, the lines read so far of the one under way being given. One that the text leaves open
ends with it. -/
def commentBlocks : Option (List String) → List String → List (List String)
  | underWay, [] => underWay.toList
  | none, line :: rest => commentBlocks (if isOpening line then some [line] else none) rest
  | some block, line :: rest =>
    if holdsTerminator line then (block ++ [line]) :: commentBlocks none rest
    else commentBlocks (some (block ++ [line])) rest

/-- A text with its comment blocks removed. -/
def withoutComments (text : String) : String := joined "\n" (codeLines false (textLines text))

def commentsIn (text : String) : List (List String) := commentBlocks none (textLines text)

/-- An opening line, lines that hold no terminator, and a line that does. -/
inductive IsBlock : List String → Prop where
  | intro (opening : String) (inner : List String) (closing : String)
      (opens : isOpening opening = true) (quiet : ∀ line ∈ inner, holdsTerminator line = false)
      (closes : holdsTerminator closing = true) : IsBlock (opening :: (inner ++ [closing]))

theorem codeLines_inner {inner : List String}
    (quiet : ∀ line ∈ inner, holdsTerminator line = false) (rest : List String) :
    codeLines true (inner ++ rest) = codeLines true rest := by
  induction inner with
  | nil => rfl
  | cons line inner ih =>
    have here := quiet line List.mem_cons_self
    rw [List.cons_append, codeLines, if_pos rfl, here]
    exact ih fun other mem => quiet other (List.mem_cons_of_mem _ mem)

theorem commentBlocks_inner {inner : List String}
    (quiet : ∀ line ∈ inner, holdsTerminator line = false) (block rest : List String) :
    commentBlocks (some block) (inner ++ rest) = commentBlocks (some (block ++ inner)) rest := by
  induction inner generalizing block with
  | nil => rw [List.nil_append, List.append_nil]
  | cons line inner ih =>
    have here : ¬ holdsTerminator line = true := by simp [quiet line List.mem_cons_self]
    rw [List.cons_append, commentBlocks, if_neg here,
      ih fun other mem => quiet other (List.mem_cons_of_mem _ mem), List.append_assoc]
    rfl

namespace IsBlock

variable {block : List String}

theorem codeLines_append (isBlock : IsBlock block) (rest : List String) :
    codeLines false (block ++ rest) = codeLines false rest := by
  obtain ⟨opening, inner, closing, opens, quiet, closes⟩ := isBlock
  rw [List.cons_append, codeLines, if_neg Bool.false_ne_true, if_pos opens, List.append_assoc,
    codeLines_inner quiet, List.singleton_append, codeLines, if_pos rfl, closes]
  rfl

theorem commentBlocks_append (isBlock : IsBlock block) (rest : List String) :
    commentBlocks none (block ++ rest) = block :: commentBlocks none rest := by
  obtain ⟨opening, inner, closing, opens, quiet, closes⟩ := isBlock
  rw [List.cons_append, commentBlocks, if_pos opens, List.append_assoc, List.singleton_append,
    commentBlocks_inner quiet, commentBlocks, if_pos closes]
  rfl

end IsBlock

/-- A text of whole lines, put together from code and blocks: the code alone, and the blocks in their
order. -/
inductive Commented : String → String → List (List String) → Prop where
  | nothing : Commented "" "" []
  | line {line text code : String} {blocks : List (List String)} (unbroken : Unbroken line)
      (plain : isOpening line = false) (rest : Commented text code blocks) :
      Commented (line ++ "\n" ++ text) (line ++ "\n" ++ code) blocks
  | block {block : List String} {text code : String} {blocks : List (List String)}
      (isBlock : IsBlock block) (unbroken : ∀ line ∈ block, Unbroken line)
      (rest : Commented text code blocks) : Commented (laidOut block ++ text) code (block :: blocks)

namespace Commented

variable {text code : String} {blocks : List (List String)}

theorem codeLines_eq (commented : Commented text code blocks) :
    codeLines false (textLines text) = textLines code := by
  induction commented with
  | nothing => rfl
  | line unbroken plain rest ih =>
    rw [textLines_line unbroken, textLines_line unbroken, codeLines, if_neg Bool.false_ne_true,
      if_neg (by simp [plain]), ih]
  | block isBlock unbroken rest ih =>
    rw [textLines_laidOut unbroken, isBlock.codeLines_append, ih]

theorem commentBlocks_eq (commented : Commented text code blocks) :
    commentBlocks none (textLines text) = blocks := by
  induction commented with
  | nothing => rfl
  | line unbroken plain rest ih =>
    rw [textLines_line unbroken, commentBlocks, if_neg (by simp [plain]), ih]
  | block isBlock unbroken rest ih =>
    rw [textLines_laidOut unbroken, isBlock.commentBlocks_append, ih]

/-- Removing the comments leaves the code, whatever the comments say. -/
theorem withoutComments_eq (commented : Commented text code blocks) :
    withoutComments text = code := by
  rw [withoutComments, commented.codeLines_eq, joined_textLines]

example : withoutComments "/**\n * A note\n */\nexport type Note = 1\n" =
    "export type Note = 1\n" := by
  decide +kernel

/-- The comments that a reader finds are those that were put in. -/
theorem commentsIn_eq (commented : Commented text code blocks) : commentsIn text = blocks :=
  commented.commentBlocks_eq

theorem ofLine {line : String} (unbroken : Unbroken line) (plain : isOpening line = false) :
    Commented (line ++ "\n") (line ++ "\n") [] := by
  have alone := Commented.line unbroken plain .nothing
  rwa [String.append_empty] at alone

theorem ofBlock {block : List String} (isBlock : IsBlock block)
    (unbroken : ∀ line ∈ block, Unbroken line) : Commented (laidOut block) "" [block] := by
  have alone := Commented.block isBlock unbroken .nothing
  rwa [String.append_empty] at alone

theorem append {text' code' : String} {blocks' : List (List String)}
    (first : Commented text code blocks) (second : Commented text' code' blocks') :
    Commented (text ++ text') (code ++ code') (blocks ++ blocks') := by
  induction first with
  | nothing => simpa using second
  | line unbroken plain rest ih =>
    simpa only [String.append_assoc] using Commented.line unbroken plain ih
  | block isBlock unbroken rest ih =>
    rw [String.append_assoc]
    exact .block isBlock unbroken ih

section

variable {α : Type} {text code : α → String} {blocks : α → List (List String)}

theorem join {xs : List α} (each : ∀ x ∈ xs, Commented (text x) (code x) (blocks x)) :
    Commented (String.join (xs.map text)) (String.join (xs.map code)) (xs.flatMap blocks) := by
  induction xs with
  | nil => exact .nothing
  | cons x xs ih =>
    rw [List.map_cons, List.map_cons, String.join_cons, String.join_cons, List.flatMap_cons]
    exact (each x List.mem_cons_self).append
      (ih fun other mem => each other (List.mem_cons_of_mem _ mem))

theorem joined : {xs : List α} → (∀ x ∈ xs, Commented (text x) (code x) (blocks x)) →
    Commented (joined "\n" (xs.map text)) (Text.joined "\n" (xs.map code)) (xs.flatMap blocks)
  | [], _ => .nothing
  | [x], each => by
    rw [List.flatMap_singleton]
    exact each x List.mem_cons_self
  | x :: next :: rest, each => by
    have more := joined fun other mem => each other (List.mem_cons_of_mem x mem)
    have blank : Commented ("" ++ "\n") ("" ++ "\n") [] := ofLine (by decide) (by decide)
    have whole := ((each x List.mem_cons_self).append blank).append more
    rw [List.append_nil] at whole
    exact whole

end

end Commented

end BotTypings.Text
