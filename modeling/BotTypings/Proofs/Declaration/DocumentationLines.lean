import BotTypings.Proofs.Declaration.Documentation
import BotTypings.Proofs.Text.Trimming

/-! The lines of a documentation text. They keep everything visible, and they are exactly the lists of
lines that come back when they are joined and cut once more. A description and a link are cut each on
their own, with an empty line between them. -/
namespace BotTypings.Documentation

open BotTypings.Text

theorem trimmed_eq_empty_iff {text : String} : trimmed text = "" ↔ Blank text := by
  rw [trimmed, String.ofList_eq_empty_iff, trim_eq_nil_iff, Blank]

theorem not_startsBlank_trimmed (text : String) : ¬ StartsBlank (trimmed text) := by
  rw [not_startsBlank_iff, trimmed, String.toList_ofList]
  exact fun c first => solid_of_trim first

theorem not_endsBlank_trimmed (text : String) : ¬ EndsBlank (trimmed text) :=
  not_endsBlank_trimEnd (trimStart text.toList)

theorem trimmed_eq_self {text : String} (first : ¬ StartsBlank text) (last : ¬ EndsBlank text) :
    trimmed text = text := by
  rw [trimmed, trim_eq_self (not_startsBlank_iff.mp first) (not_endsBlank_iff.mp last),
    String.ofList_toList]

theorem trimmed_trimmed (text : String) : trimmed (trimmed text) = trimmed text :=
  trimmed_eq_self (not_startsBlank_trimmed text) (not_endsBlank_trimmed text)

theorem lines_of_blank {text : String} (blank : Blank text) : lines text = [] := by
  rw [lines, linesOf, trim_eq_nil_iff.mpr blank]
  rfl

theorem lines_of_not_blank {text : String} (some : ¬ Blank text) :
    lines text = (textLines (trimmed text)).map withoutEnd := by
  have kept : trim text.toList ≠ [] := mt trim_eq_nil_iff.mp some
  obtain ⟨c, cs, chars⟩ := List.exists_cons_of_ne_nil kept
  simp [lines, linesOf, textLines, trimmed, withoutEnd, chars, Function.comp_def]

theorem lines_eq_nil_iff {text : String} : lines text = [] ↔ Blank text := by
  refine ⟨fun none => ?_, lines_of_blank⟩
  by_contra some
  rw [lines_of_not_blank some, List.map_eq_nil_iff] at none
  exact textLines_ne_nil _ none

theorem not_blank_of_mem {text line : String} (mem : line ∈ lines text) : ¬ Blank text := by
  rw [← lines_eq_nil_iff]
  exact List.ne_nil_of_mem mem

theorem lines_trimmed (text : String) : lines (trimmed text) = lines text := by
  have same : Blank (trimmed text) ↔ Blank text := by
    rw [← trimmed_eq_empty_iff, trimmed_trimmed, trimmed_eq_empty_iff]
  by_cases blank : Blank text
  · rw [lines_of_blank blank, lines_of_blank (same.mpr blank)]
  · rw [lines_of_not_blank blank, lines_of_not_blank (mt same.mp blank), trimmed_trimmed]

/-- A text with nothing to trim is cut as it is. -/
theorem lines_of_trimmed {text : String} (first : ¬ StartsBlank text) (last : ¬ EndsBlank text)
    (some : text ≠ "") : lines text = (textLines text).map withoutEnd := by
  have whole := trimmed_eq_self first last
  have shown : ¬ Blank text := fun blank => some (whole ▸ trimmed_eq_empty_iff.mpr blank)
  rw [lines_of_not_blank shown, whole]

/-- It makes no difference to the lines of a text which line breaks it has. -/
theorem lines_eq_endedLines (text : String) :
    lines text = ((endedLines (trim text.toList)).map trimEnd).map String.ofList := by
  rw [lines, linesOf]
  split
  · rename_i none
    rw [none]
    rfl
  · rename_i c cs chars
    have solid : ∀ d ∈ (c :: cs).getLast?, isBlank d = false := fun d last =>
      solid_of_trimEnd (by rwa [← chars, trim] at last)
    rw [chars, trimEnd_endedLines (List.cons_ne_nil c cs) solid]

/-- Nothing visible is lost. -/
theorem visible_lines (text : String) :
    visible (String.join (lines text)).toList = visible text.toList := by
  by_cases blank : Blank text
  · rw [lines_of_blank blank, visible_eq_nil_iff.mpr blank]
    rfl
  · have chars : (String.join (lines text)).toList =
        ((pieces '\n' (trim text.toList)).map trimEnd).flatten := by
      rw [lines_of_not_blank blank, String.toList_join, textLines, trimmed, String.toList_ofList]
      simp [List.flatMap_def, withoutEnd, Function.comp_def]
    calc visible (String.join (lines text)).toList
        = visible (pieces '\n' (trim text.toList)).flatten := by
          simp [chars, visible_flatten, visible_trimEnd, Function.comp_def]
      _ = visible text.toList := by rw [visible_pieces, visible_trim]

/-- The form that the lines of a text have. -/
structure Tidy (given : List String) : Prop where
  unbroken : ∀ line ∈ given, Unbroken line
  ended : ∀ line ∈ given, ¬ EndsBlank line
  first : ∀ line ∈ given.head?, line ≠ "" ∧ ¬ StartsBlank line
  last : ∀ line ∈ given.getLast?, line ≠ ""

theorem ne_newline_of_solid {c : Char} (solid : isBlank c = false) : c ≠ '\n' := by
  rintro rfl
  cases solid

/-- The first line opens with the first visible character of the text. -/
theorem first_of_lines {text line : String} (first : line ∈ (lines text).head?) :
    line ≠ "" ∧ ¬ StartsBlank line := by
  have some : ¬ Blank text := not_blank_of_mem (List.mem_of_mem_head? first)
  obtain ⟨c, cs, chars⟩ := List.exists_cons_of_ne_nil (mt trim_eq_nil_iff.mp some)
  have solid : isBlank c = false := solid_of_trim (congrArg List.head? chars)
  obtain ⟨piece, rest, _, cut⟩ := pieces_cons (ne_newline_of_solid solid) cs
  have opening : line = String.ofList (c :: trimEnd piece) := by
    rw [lines_of_not_blank some, textLines, trimmed, String.toList_ofList, chars, cut] at first
    simpa [withoutEnd, trimEnd_cons_of_solid solid] using first.symm
  subst opening
  simp [StartsBlank, solid]

/-- The last line ends with the last visible character of the text. -/
theorem last_of_lines {text line : String} (last : line ∈ (lines text).getLast?) : line ≠ "" := by
  have some : ¬ Blank text := not_blank_of_mem (List.mem_of_mem_getLast? last)
  obtain ⟨cs, c, chars⟩ :=
    (trim text.toList).eq_nil_or_concat'.resolve_left (mt trim_eq_nil_iff.mp some)
  have solid : isBlank c = false := solid_of_trimEnd (by rw [← trim, chars]; simp)
  obtain ⟨before, piece, cut⟩ := pieces_append_singleton (ne_newline_of_solid solid) cs
  have ending : line = String.ofList (piece ++ [c]) := by
    rw [lines_of_not_blank some, textLines, trimmed, String.toList_ofList, chars, cut] at last
    simpa [withoutEnd, trimEnd_append_singleton solid] using last.symm
  subst ending
  simp

theorem tidy_lines (text : String) : Tidy (lines text) where
  unbroken := unbroken_lines text
  ended line mem := by
    rw [lines_of_not_blank (not_blank_of_mem mem)] at mem
    obtain ⟨whole, _, rfl⟩ := List.mem_map.mp mem
    exact not_endsBlank_trimEnd whole.toList
  first _ := first_of_lines
  last _ := last_of_lines

theorem Tidy.lines_joined {given : List String} (tidy : Tidy given) :
    lines (joined "\n" given) = given := by
  by_cases none : given = []
  · subst none
    rfl
  have starts : ¬ StartsBlank (joined "\n" given) := by
    obtain ⟨first, rest, rfl⟩ := List.exists_cons_of_ne_nil none
    have opening := tidy.first first rfl
    rw [startsBlank_joined opening.1]
    exact opening.2
  have ends : ¬ EndsBlank (joined "\n" given) := by
    obtain ⟨before, last, rfl⟩ := given.eq_nil_or_concat'.resolve_left none
    rw [endsBlank_joined (tidy.last last (by simp))]
    exact tidy.ended last (by simp)
  have cut := textLines_joined tidy.unbroken none
  have some : joined "\n" given ≠ "" := by
    intro empty
    rw [empty] at cut
    exact (tidy.first "" (by rw [← cut]; rfl)).1 rfl
  have kept : given.map withoutEnd = given.map id :=
    List.map_congr_left fun line mem => withoutEnd_eq_self (tidy.ended line mem)
  rw [lines_of_trimmed starts ends some, cut, kept, List.map_id]

/-- Joined and cut once more, exactly the tidy lines come back. -/
theorem lines_joined_eq_iff {given : List String} :
    lines (joined "\n" given) = given ↔ Tidy given :=
  ⟨fun same => same ▸ tidy_lines _, Tidy.lines_joined⟩

/-- Two texts with an empty line between them are cut each on their own. -/
theorem lines_apart {above below : String} (some : ¬ Blank above) (someToo : ¬ Blank below) :
    lines (trimmed above ++ "\n\n" ++ trimmed below) = lines above ++ "" :: lines below := by
  have top : trimmed above ≠ "" := mt trimmed_eq_empty_iff.mp some
  have bottom : trimmed below ≠ "" := mt trimmed_eq_empty_iff.mp someToo
  have starts : ¬ StartsBlank (trimmed above ++ "\n\n" ++ trimmed below) := by
    rw [String.append_assoc, startsBlank_append top]
    exact not_startsBlank_trimmed above
  have ends : ¬ EndsBlank (trimmed above ++ "\n\n" ++ trimmed below) := by
    rw [endsBlank_append bottom]
    exact not_endsBlank_trimmed below
  have twice : "\n\n" = "\n" ++ "\n" := by decide
  have breaks : trimmed above ++ "\n\n" ++ trimmed below =
      trimmed above ++ "\n" ++ ("" ++ "\n" ++ trimmed below) := by
    simp only [twice, String.append_assoc, String.empty_append]
  have empty : textLines "" = [""] :=
    textLines_joined (by decide : ∀ line ∈ [""], Unbroken line) (by decide)
  have cut : textLines (trimmed above ++ "\n\n" ++ trimmed below) =
      textLines (trimmed above) ++ "" :: textLines (trimmed below) := by
    rw [breaks, textLines_append, textLines_append, empty, List.singleton_append]
  have emptyKept : withoutEnd "" = "" := withoutEnd_eq_self (by simp [EndsBlank])
  rw [lines_of_trimmed starts ends (by simp [top]), cut, List.map_append, List.map_cons, emptyKept,
    lines_of_not_blank some, lines_of_not_blank someToo]

theorem link_eq (target : String) : link target = "[Documentation](" ++ target ++ ")" := rfl

theorem trimmed_link (target : String) : trimmed (link target) = link target := by
  have opening : ¬ StartsBlank "[Documentation](" := by
    have solid : isBlank '[' = false := by decide
    simp [StartsBlank, solid]
  have closing : ¬ EndsBlank ")" := by
    have solid : isBlank ')' = false := by decide
    simp [EndsBlank, solid]
  apply trimmed_eq_self
  · rwa [link_eq, String.append_assoc, startsBlank_append (by decide)]
  · rwa [link_eq, endsBlank_append (by decide)]

theorem not_blank_link (target : String) : ¬ Blank (link target) := by
  rw [← trimmed_eq_empty_iff, trimmed_link, link_eq]
  simp

theorem lines_describe (description url : String) :
    lines (describe description url) =
      if Blank url then lines description
      else if Blank description then lines (link (trimmed url))
      else lines description ++ "" :: lines (link (trimmed url)) := by
  simp only [describe, trimmed_eq_empty_iff]
  split
  · exact lines_trimmed description
  · split
    · rfl
    · rename_i some
      have both := lines_apart some (not_blank_link (trimmed url))
      rwa [trimmed_link] at both

/-- The lines of a text: tidy, and nothing visible is lost or moved. -/
structure Normalised (text : String) (given : List String) : Prop extends Tidy given where
  empty : given = [] ↔ Blank text
  kept : visible (String.join given).toList = visible text.toList
  /-- A line ends at a line feed, with a carriage return before it or without one. -/
  broken : given = ((endedLines (trim text.toList)).map trimEnd).map String.ofList

/-- The lines of every text are normalised, and cutting them again changes nothing. Those of a
description with a link are the lines of the one and of the other, apart by one empty line. -/
theorem lines_normalised (text description url : String) :
    Normalised text (lines text) ∧ lines (joined "\n" (lines text)) = lines text ∧
      lines (describe description url) =
        if Blank url then lines description
        else if Blank description then lines (link (trimmed url))
        else lines description ++ "" :: lines (link (trimmed url)) := by
  have normalised : Normalised text (lines text) :=
    { tidy_lines text with
      empty := lines_eq_nil_iff
      kept := visible_lines text
      broken := lines_eq_endedLines text }
  exact ⟨normalised, lines_joined_eq_iff.mpr (tidy_lines text), lines_describe description url⟩

example : lines "\u2003First \r\n\n  Second\rhalf\t\n" = ["First", "", "  Second\rhalf"] := by
  decide +kernel

end BotTypings.Documentation
