import BotTypings.Proofs.Declaration.Declared
import BotTypings.Proofs.Declaration.Documented
import BotTypings.Proofs.Declaration.Names

/-! Declared names as a reader finds them in a text. A line that begins with a keyword, outside of
comments, declares the name behind it; read from the top, these are the names of the declarations that
the text was written from. -/
namespace BotTypings

open BotTypings.Text

def declaringKeywords : List String := ["export type ", "export interface "]

/-- The name that a line declares, which a blank or a list of type parameters ends. -/
def declaredName? (line : String) : Option String :=
  (declaringKeywords.findSome? (·.toList.isPrefixOf? line.toList)).map fun cs =>
    String.ofList (cs.takeWhile fun c => c != ' ' && c != '<')

def declaredIn (text : String) : List String :=
  (textLines (withoutComments text)).filterMap declaredName?

/-- Nothing in the name ends it. -/
def IsWord (name : String) : Prop := ∀ c ∈ name.toList, c ≠ ' ' ∧ c ≠ '<'

theorem isPrefixOf?_append (lead rest : List Char) :
    lead.isPrefixOf? (lead ++ rest) = some rest := by
  induction lead with
  | nil => rfl
  | cons c lead ih => simp [List.isPrefixOf?, ih]

theorem takeWhile_word {name : String} (word : IsWord name) {after : List Char}
    (ends : ∃ c rest, after = c :: rest ∧ (c = ' ' ∨ c = '<')) :
    (name.toList ++ after).takeWhile (fun c => c != ' ' && c != '<') = name.toList := by
  obtain ⟨c, rest, rfl, stop⟩ := ends
  rw [List.takeWhile_append_of_pos (fun c mem => by simp [word c mem]), List.takeWhile_cons_of_neg,
    List.append_nil]
  rcases stop with rfl | rfl <;> decide

theorem declaredName?_opening {keyword : String} (known : keyword ∈ declaringKeywords)
    {name : String} (word : IsWord name) {after : String}
    (ends : ∃ c rest, after.toList = c :: rest ∧ (c = ' ' ∨ c = '<')) :
    declaredName? (keyword ++ name ++ after) = some name := by
  have found : declaringKeywords.findSome? (·.toList.isPrefixOf? (keyword ++ name ++ after).toList) =
      some (name.toList ++ after.toList) := by
    rw [String.toList_append, String.toList_append, List.append_assoc]
    simp only [declaringKeywords, List.mem_cons, List.not_mem_nil, or_false] at known
    rcases known with rfl | rfl
    · rw [declaringKeywords, List.findSome?_cons, isPrefixOf?_append]
    · have other (rest : List Char) :
          "export type ".toList.isPrefixOf? ("export interface ".toList ++ rest) = none := rfl
      rw [declaringKeywords, List.findSome?_cons, other, List.findSome?_cons, isPrefixOf?_append]
  rw [declaredName?, found, Option.map_some, takeWhile_word word ends, String.ofList_toList]

theorem declaredName?_of_head {line : String} (foreign : line.toList.head? ≠ some 'e') :
    declaredName? line = none := by
  have absent (c : Char) (lead : List Char) (other : c = 'e') :
      (c :: lead).isPrefixOf? line.toList = none := by
    subst other
    cases chars : line.toList with
    | nil => rfl
    | cons d rest =>
      have other : ('e' == d) = false := by
        rw [beq_eq_false_iff_ne]
        rintro rfl
        exact foreign (by rw [chars]; rfl)
      rw [List.isPrefixOf?, other]
      rfl
  have type : "export type ".toList.isPrefixOf? line.toList = none := absent _ _ rfl
  have interface : "export interface ".toList.isPrefixOf? line.toList = none := absent _ _ rfl
  rw [declaredName?, declaringKeywords, List.findSome?_cons, type, List.findSome?_cons, interface]
  rfl

def Alias.codeLines (a : Alias) : List String :=
  ["export type " ++ a.name ++ " = " ++ joined " | " a.literals, ""]

/-- The lines of a declaration, its comments left out. -/
def Declaration.codeLines (d : Declaration) : List String :=
  d.aliases.flatMap Alias.codeLines ++
    match d.shape with
    | .union text => ["export type " ++ d.name ++ (d.generics ++ (" = " ++ text))]
    | .interface [] => ["export interface " ++ d.name ++ (d.generics ++ " \x7b\x7d")]
    | .interface members =>
      ("export interface " ++ d.name ++ (d.generics ++ " \x7b")) ::
        (members.map Member.line ++ ["\x7d"])

theorem aliases_codeLines (aliases : List Alias) :
    String.join (aliases.map Alias.render) = laidOut (aliases.flatMap Alias.codeLines) := by
  induction aliases with
  | nil => rfl
  | cons a rest ih =>
    rw [List.map_cons, String.join_cons, ih, List.flatMap_cons, laidOut_append, Alias.codeLines,
      a.render_laidOut]

theorem members_lines (members : List Member) :
    String.join ((members.map Member.undocumented).map Member.render) =
      laidOut (members.map Member.line) := by
  induction members with
  | nil => rfl
  | cons x rest ih =>
    have own : x.undocumented.render = x.line ++ "\n" := by
      rw [Member.render_eq]
      exact String.empty_append ..
    rw [List.map_cons, List.map_cons, String.join_cons, ih, own, List.map_cons, laidOut_cons]

theorem Declaration.undocumented_render (d : Declaration) :
    d.undocumented.render = laidOut d.codeLines := by
  have noDoc : Documentation.block "" [] = "" := rfl
  rw [codeLines, laidOut_append, ← aliases_codeLines, render]
  simp only [undocumented, noDoc, String.append_empty]
  congr 1
  cases d.shape with
  | union text =>
    simp only [Shape.undocumented, laidOut_cons, laidOut_nil, String.append_assoc,
      String.append_empty]
  | interface members =>
    cases members with
    | nil =>
      have empty : interfaceText (d.name ++ d.generics) [] =
          "export interface " ++ (d.name ++ d.generics) ++ (" \x7b\x7d" ++ "\n") := rfl
      simp only [Shape.undocumented, List.map_nil, empty, laidOut_cons, laidOut_nil,
        String.append_assoc, String.append_empty]
    | cons x rest =>
      have lines := interfaceText_eq (d.name ++ d.generics)
        (show (x :: rest).map Member.undocumented ≠ [] by simp)
      simp only [Shape.undocumented, lines, members_lines, laidOut_cons, laidOut_append, laidOut_nil,
        String.append_assoc, String.append_empty]

theorem Declaration.Unbroken.codeLines {d : Declaration} (unbroken : d.Unbroken) :
    ∀ line ∈ d.codeLines, Text.Unbroken line := by
  have aliases : ∀ line ∈ d.aliases.flatMap Alias.codeLines, Text.Unbroken line := by
    intro line mem
    obtain ⟨a, given, own⟩ := List.mem_flatMap.mp mem
    rw [Alias.codeLines, List.mem_cons, List.mem_singleton] at own
    rcases own with rfl | rfl
    · exact (unbroken.aliases a given).line
    · decide
  have opening {keyword tail : String} (plain : Text.Unbroken keyword) (ends : Text.Unbroken tail) :
      Text.Unbroken (keyword ++ d.name ++ (d.generics ++ tail)) := by
    simp only [unbroken_append]
    exact ⟨⟨plain, unbroken.name⟩, unbroken.generics, ends⟩
  have lines := unbroken.shape
  rw [Declaration.codeLines, List.forall_mem_append]
  refine ⟨aliases, ?_⟩
  cases shape : d.shape with
  | union text =>
    rw [shape] at lines
    rw [List.forall_mem_singleton]
    exact opening (by decide) (unbroken_append.mpr ⟨by decide, lines⟩)
  | interface members =>
    rw [shape] at lines
    cases members with
    | nil =>
      rw [List.forall_mem_singleton]
      exact opening (by decide) (by decide)
    | cons x rest =>
      rw [List.forall_mem_cons, List.forall_mem_append, List.forall_mem_map,
        List.forall_mem_singleton]
      exact ⟨opening (by decide) (by decide), fun y mem => (lines y mem).line, by decide⟩

theorem Alias.codeLines_name {a : Alias} (word : IsWord a.name) :
    a.codeLines.filterMap declaredName? = [a.name] := by
  have ends : ∃ c rest,
      (" = " ++ joined " | " a.literals).toList = c :: rest ∧ (c = ' ' ∨ c = '<') :=
    ⟨' ', '=' :: ' ' :: (joined " | " a.literals).toList, by simp, .inl rfl⟩
  have opening :=
    declaredName?_opening (by decide : "export type " ∈ declaringKeywords) word ends
  rw [← String.append_assoc] at opening
  have blank : declaredName? "" = none := declaredName?_of_head (by decide)
  rw [codeLines, List.filterMap_cons_some opening, List.filterMap_cons_none blank]
  rfl

theorem generics_end {generics : String}
    (generic : generics = "" ∨ ∃ rest, generics = "<" ++ rest) (tail : String) :
    ∃ c rest, (generics ++ (" " ++ tail)).toList = c :: rest ∧ (c = ' ' ∨ c = '<') := by
  rcases generic with rfl | ⟨rest, rfl⟩
  · exact ⟨' ', tail.toList, by simp, .inl rfl⟩
  · exact ⟨'<', rest.toList ++ (" " ++ tail).toList, by simp, .inr rfl⟩

/-- The lines of a declaration declare its names, and nothing else. -/
theorem Declaration.codeLines_names {d : Declaration}
    (generic : d.generics = "" ∨ ∃ rest, d.generics = "<" ++ rest)
    (words : ∀ name ∈ d.names, IsWord name) : d.codeLines.filterMap declaredName? = d.names := by
  rw [names, List.forall_mem_append, List.forall_mem_map, List.forall_mem_singleton] at words
  obtain ⟨aliasWords, word⟩ := words
  have aliases : (d.aliases.flatMap Alias.codeLines).filterMap declaredName? =
      d.aliases.map (·.name) := by
    rw [List.filterMap_flatMap, List.map_eq_flatMap]
    exact List.flatMap_congr fun a mem => Alias.codeLines_name (aliasWords a mem)
  have opening {keyword : String} (known : keyword ∈ declaringKeywords) (tail : String) :
      declaredName? (keyword ++ d.name ++ (d.generics ++ (" " ++ tail))) = some d.name :=
    declaredName?_opening known word (generics_end generic tail)
  rw [codeLines, List.filterMap_append, aliases, names]
  congr 1
  cases d.shape with
  | union text => exact List.filterMap_cons_some (opening (by decide) ("= " ++ text))
  | interface members =>
    cases members with
    | nil => exact List.filterMap_cons_some (opening (by decide) "\x7b\x7d")
    | cons x rest =>
      have others : ((x :: rest).map Member.line ++ ["\x7d"]).filterMap declaredName? = [] := by
        rw [List.filterMap_eq_nil_iff, List.forall_mem_append, List.forall_mem_map,
          List.forall_mem_singleton]
        refine ⟨fun y _ => declaredName?_of_head ?_, declaredName?_of_head (by decide)⟩
        simp [Member.line]
      have first := opening (by decide : "export interface " ∈ declaringKeywords) "\x7b"
      exact (List.filterMap_cons_some first).trans (congrArg _ others)

/-- The names that are declared in a text are those of the declarations that it was written from, in
their order and with their repetitions. -/
theorem declaredIn_renderAll {ds : List Declaration} (unbroken : ∀ d ∈ ds, d.Unbroken)
    (generic : ∀ d ∈ ds, d.generics = "" ∨ ∃ rest, d.generics = "<" ++ rest)
    (words : ∀ name ∈ declaredNames ds, IsWord name) :
    declaredIn (renderAll ds) = declaredNames ds := by
  have code : withoutComments (renderAll ds) =
      joined "\n" (ds.map fun d => laidOut d.codeLines) := by
    rw [(renderAll_commented unbroken).withoutComments_eq, renderAll, List.map_map]
    exact congrArg _ (List.map_congr_left fun d _ => d.undocumented_render)
  have own : ∀ d ∈ ds, (textLines (laidOut d.codeLines)).filterMap declaredName? = d.names := by
    intro d mem
    have lines := textLines_laidOut (unbroken d mem).codeLines ""
    have blank : (textLines "").filterMap declaredName? = [] :=
      List.filterMap_cons_none (declaredName?_of_head (by decide))
    rw [String.append_empty] at lines
    rw [lines, List.filterMap_append, blank, List.append_nil]
    exact Declaration.codeLines_names (generic d mem) fun name inside =>
      words name (List.mem_flatMap.mpr ⟨d, mem, inside⟩)
  rw [declaredIn, code]
  by_cases none : ds = []
  · subst none
    exact List.filterMap_cons_none (declaredName?_of_head (by decide))
  · rw [textLines_flatMap (by simpa using none), List.flatMap_map, List.filterMap_flatMap]
    exact List.flatMap_congr own

theorem Alias.declares (a : Alias) : Declares a.render a.name := by
  refine ⟨"", "export type ", " = " ++ joined " | " a.literals ++ "\n\n", ?_, by simp, .empty,
    "= " ++ (joined " | " a.literals ++ "\n\n"), .inl ?_⟩
  · unfold render
    simp only [String.append_assoc, String.empty_append]
  · have blank : " = " = " " ++ "= " := rfl
    rw [blank, String.append_assoc, String.append_assoc]

theorem Declaration.declares_alias {d : Declaration} {a : Alias} (mem : a ∈ d.aliases) :
    Declares d.render a.name := by
  obtain ⟨before, after, split⟩ := List.append_of_mem mem
  obtain ⟨rest, text⟩ : ∃ rest, d.render = String.join (d.aliases.map Alias.render) ++ rest :=
    ⟨_, String.append_assoc⟩
  have ends : EndsLine (String.join (before.map Alias.render)) := by
    refine .join fun text inside => ?_
    obtain ⟨other, _, rfl⟩ := List.mem_map.mp inside
    exact .ofAlias other
  rw [text, split, List.map_append, List.map_cons, String.join_append, String.join_cons,
    ← String.append_assoc, String.append_assoc]
  exact a.declares.within ends

/-- Whatever the names are, each has a line that opens its declaration. -/
theorem renderAll_declares {ds : List Declaration}
    (generic : ∀ d ∈ ds, d.generics = "" ∨ ∃ rest, d.generics = "<" ++ rest) {name : String}
    (declared : name ∈ declaredNames ds) : Declares (renderAll ds) name := by
  obtain ⟨d, given, inside⟩ := List.mem_flatMap.mp declared
  obtain ⟨before, after, split, ends⟩ := joined_split (List.mem_map_of_mem given)
  have own : Declares d.render name := by
    rcases List.mem_append.mp inside with union | self
    · obtain ⟨a, mem, rfl⟩ := List.mem_map.mp union
      exact Declaration.declares_alias mem
    · rw [List.mem_singleton.mp self]
      exact d.declares (generic d given)
  rw [renderAll, split]
  exact own.within ends

/-- The module of objects declares the names of its declarations. -/
theorem Module.objects_declaredIn {m : Mapper} (plain : m.Unbroken) {s : Schema}
    (unbroken : s.Unbroken) (words : ∀ name ∈ declaredNames (s.objectDeclarations m), IsWord name) :
    declaredIn (Module.body m s .objects) = declaredNames (s.objectDeclarations m) := by
  rw [body_objects]
  refine declaredIn_renderAll ?_ ?_ words
  · intro d mem
    obtain ⟨o, given, rfl⟩ := List.mem_map.mp mem
    exact (unbroken.objects o given).declaration plain
  · intro d mem
    obtain ⟨o, _, rfl⟩ := List.mem_map.mp mem
    exact o.generic

theorem Module.params_declaredIn {m : Mapper} (plain : m.Unbroken) {s : Schema}
    (unbroken : s.Unbroken) (words : ∀ name ∈ declaredNames (s.paramsDeclarations m), IsWord name) :
    declaredIn (Module.body m s .params) = declaredNames (s.paramsDeclarations m) := by
  rw [body_params]
  refine declaredIn_renderAll ?_ ?_ words
  · intro d mem
    obtain ⟨method, given, rfl⟩ := List.mem_map.mp mem
    exact (unbroken.methods method (List.mem_filter.mp given).1).paramsDeclaration plain
  · intro d mem
    obtain ⟨method, _, rfl⟩ := List.mem_map.mp mem
    exact .inl rfl

end BotTypings
