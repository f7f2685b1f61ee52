import BotTypings.Proofs.Declaration.Calls
import BotTypings.Proofs.Declaration.Declared

/-! Module bodies, put together item by item. Objects and params are blocks of whole lines with one
empty line between neighbours, and a method without params leaves no block and no empty line behind.
The methods stand line under line in one interface. In each case the text of an item is its own: what
stands around it changes the text before and after, and nothing in it. -/
namespace BotTypings

open BotTypings.Text

/-- The first line is not empty. -/
def Opens (text : String) : Prop := ∃ c rest, text.toList = c :: rest ∧ c ≠ '\n'

/-- Whole lines, the first of which is not empty. -/
structure IsLines (text : String) : Prop where
  opens : Opens text
  ends : ∃ body, text = body ++ "\n"

theorem Opens.append {text : String} (opens : Opens text) (rest : String) : Opens (text ++ rest) := by
  obtain ⟨c, cs, chars, solid⟩ := opens
  exact ⟨c, cs ++ rest.toList, by simp [chars], solid⟩

theorem Opens.behind {lead text : String} (lead_opens : lead = "" ∨ Opens lead)
    (opens : Opens text) : Opens (lead ++ text) := by
  rcases lead_opens with rfl | given
  · simpa using opens
  · exact given.append text

theorem block_opens {indent : String} (lead : indent = "" ∨ Opens indent) (lines : List String) :
    Documentation.block indent lines = "" ∨ Opens (Documentation.block indent lines) := by
  unfold Documentation.block
  split
  · exact .inl rfl
  · have opening : Opens "/**\n" := ⟨'/', _, rfl, by decide⟩
    exact .inr ((((Opens.behind lead opening).append _).append _).append _)

theorem aliases_open (aliases : List Alias) :
    String.join (aliases.map Alias.render) = "" ∨ Opens (String.join (aliases.map Alias.render)) := by
  cases aliases with
  | nil => exact .inl rfl
  | cons a rest =>
    have opens : Opens "export type " := ⟨'e', _, rfl, by decide⟩
    refine .inr ?_
    rw [List.map_cons, String.join_cons]
    exact ((((opens.append a.name).append " = ").append _).append "\n\n").append _

theorem interfaceText_isLines (name : String) (members : List Member) :
    IsLines (interfaceText name members) := by
  constructor
  · obtain ⟨rest, opened⟩ := interfaceText_opens name members
    simp only [opened, String.append_assoc]
    exact Opens.append ⟨'e', _, rfl, by decide⟩ _
  · have braces : " \x7b\x7d\n" = " \x7b\x7d" ++ "\n" := by decide
    have closing : "\x7d\n" = "\x7d" ++ "\n" := by decide
    cases members with
    | nil =>
      refine ⟨"export interface " ++ name ++ " \x7b\x7d", ?_⟩
      change "export interface " ++ name ++ " \x7b\x7d\n" = _
      rw [braces, String.append_assoc, String.append_assoc, String.append_assoc]
    | cons member members =>
      let lead := "export interface " ++ name ++ " \x7b\n" ++
        String.join ((member :: members).map Member.render)
      refine ⟨lead ++ "\x7d", ?_⟩
      change lead ++ "\x7d\n" = _
      rw [closing, ← String.append_assoc]

theorem Declaration.render_isLines (d : Declaration) : IsLines d.render := by
  obtain ⟨body, isLines, rendered⟩ : ∃ body, IsLines body ∧
      d.render = String.join (d.aliases.map Alias.render) ++ Documentation.block "" d.doc ++ body := by
    cases shape : d.shape with
    | union text =>
      have opens : Opens "export type " := ⟨'e', _, rfl, by decide⟩
      refine ⟨"export type " ++ d.name ++ d.generics ++ " = " ++ text ++ "\n", ⟨?_, _, rfl⟩, ?_⟩
      · exact ((((opens.append _).append _).append _).append _).append _
      · simp only [Declaration.render, shape]
    | interface members =>
      refine ⟨_, interfaceText_isLines (d.name ++ d.generics) members, ?_⟩
      simp only [Declaration.render, shape]
  obtain ⟨opens, last, rfl⟩ := isLines
  constructor
  · rw [rendered, String.append_assoc]
    exact .behind (aliases_open d.aliases) (.behind (block_opens (.inl rfl) d.doc) opens)
  · rw [rendered, ← String.append_assoc]
    exact ⟨_, rfl⟩

theorem Member.render_isLines (member : Member) : IsLines member.render := by
  have tab : Opens "\t" := ⟨'\t', [], rfl, by decide⟩
  constructor
  · unfold Member.render
    simp only [String.append_assoc]
    exact .behind (block_opens (.inr tab) member.doc) (tab.append _)
  · exact ⟨_, rfl⟩

/-- The text of a list, made of the blocks of those items that have one. -/
structure Separated {α : Type} (text : List α → String) (block? : α → Option String) : Prop where
  blocks : ∀ x block, block? x = some block → IsLines block
  joined : ∀ xs, text xs = joined "\n" (xs.filterMap block?)
  /-- In lines: one empty line between neighbours, and no other line but those of the blocks. -/
  lines : ∀ xs, wholeLines (text xs) =
    [""].intercalate ((xs.filterMap block?).map wholeLines)
  single : ∀ x, text [x] = (block? x).getD ""
  skipped : ∀ xs x ys, block? x = none → text (xs ++ x :: ys) = text (xs ++ ys)
  append : ∀ xs ys, text xs ≠ "" → text ys ≠ "" → text (xs ++ ys) = text xs ++ "\n" ++ text ys
  changed : ∀ xs ys, ∃ before after, ∀ x block, block? x = some block →
    text (xs ++ x :: ys) = before ++ block ++ after

theorem wholeLines_joined {blocks : List String} (isLines : ∀ block ∈ blocks, IsLines block) :
    wholeLines (joined "\n" blocks) = [""].intercalate (blocks.map wholeLines) := by
  induction blocks with
  | nil => rfl
  | cons block rest ih =>
    obtain ⟨here, behind⟩ := List.forall_mem_cons.mp isLines
    cases rest with
    | nil => simp [joined, List.intercalate]
    | cons next rest =>
      have cut := wholeLines_append here.ends (joined "\n" (next :: rest))
      simp only [joined, cut, ih behind]
      simp [List.intercalate]

theorem separated_of_joined {α : Type} {text : List α → String} {block? : α → Option String}
    (blocks : ∀ x block, block? x = some block → IsLines block)
    (all : ∀ xs, text xs = joined "\n" (xs.filterMap block?)) : Separated text block? where
  blocks := blocks
  joined := all
  lines xs := by
    rw [all]
    refine wholeLines_joined fun block mem => ?_
    obtain ⟨x, _, given⟩ := List.mem_filterMap.mp mem
    exact blocks x block given
  single x := by
    cases given : block? x <;> simp [all, given, joined]
  skipped xs x ys nothing := by simp [all, nothing]
  append xs ys some someToo := by
    have blocksOf (zs : List α) (some : text zs ≠ "") : zs.filterMap block? ≠ [] := by
      intro nothing
      simp [all, nothing, joined] at some
    simp only [all, List.filterMap_append]
    exact joined_append (blocksOf xs some) (blocksOf ys someToo)
  changed xs ys := by
    refine ⟨String.join ((xs.filterMap block?).map (· ++ "\n")),
      String.join ((ys.filterMap block?).map ("\n" ++ ·)), fun x block given => ?_⟩
    simp [all, given, joined_around]

/-- What stands for a method in the interface of all of them. -/
def Method.entry (m : Mapper) (method : Method) : String := (method.member m).render

def methodsOpening : String := "export interface APIMethods \x7b\n"
def methodsClosing : String := "\x7d\n"

/-- The text of the methods, made of one entry for each. -/
structure Listed (text : List Method → String) (entry : Method → String) : Prop where
  entries : ∀ method, IsLines (entry method)
  enclosed : ∀ first rest, text (first :: rest) =
    methodsOpening ++ String.join ((first :: rest).map entry) ++ methodsClosing
  changed : ∀ before after method, text (before ++ method :: after) =
    methodsOpening ++ String.join (before.map entry) ++ entry method ++
      String.join (after.map entry) ++ methodsClosing

theorem methods_listed (m : Mapper) : Listed (methodsText m) (Method.entry m) := by
  have enclosed (first : Method) (rest : List Method) : methodsText m (first :: rest) =
      methodsOpening ++ String.join ((first :: rest).map (Method.entry m)) ++ methodsClosing := by
    have opening : "export interface " ++ methodsInterface ++ " \x7b\n" = methodsOpening := by decide
    have entries : ((first :: rest).map (Method.member m)).map Member.render =
        (first :: rest).map (Method.entry m) := by simp [Method.entry]
    rw [methodsText, ← entries, ← opening]
    rfl
  refine ⟨fun method => (method.member m).render_isLines, enclosed, fun before after method => ?_⟩
  have some : before ++ method :: after ≠ [] := by simp
  obtain ⟨first, rest, cut⟩ := List.exists_cons_of_ne_nil some
  rw [cut, enclosed, ← cut]
  simp [String.join_append, String.append_assoc]

theorem objectsText_eq (m : Mapper) (objects : List Object) :
    objectsText m objects = joined "\n" (objects.map (objectText m)) := by
  rw [objectsText, renderAll, List.map_map]
  rfl

/-- An object in the text of all, each of the others with the line break that goes with it. -/
theorem objectsText_around (m : Mapper) (before : List Object) (o : Object) (after : List Object) :
    objectsText m (before ++ o :: after) =
      String.join (before.map (objectText m · ++ "\n")) ++ objectText m o ++
        String.join (after.map ("\n" ++ objectText m ·)) := by
  simp [objectsText_eq, joined_around, Function.comp_def]

/-- The bodies of a mapper's modules are put together from the texts of their items, and each item's
text is that of the item alone. -/
theorem bodies_assembled (m : Mapper) :
    Separated (objectsText m) (fun o => some (objectText m o)) ∧
      Separated (paramsText m) (paramsText? m) ∧
      (∀ method, paramsText? m method = none ↔ method.parameters = []) ∧
      Listed (methodsText m) (Method.entry m) := by
  refine ⟨?_, ?_, ?_, methods_listed m⟩
  · refine separated_of_joined (fun o block given => ?_) fun objects => ?_
    · cases given
      exact (o.declaration m).render_isLines
    · simp [objectsText_eq]
  · refine separated_of_joined (fun method block given => ?_) (paramsText_eq m)
    unfold paramsText? at given
    split at given
    · cases given
    · cases given
      exact (method.paramsDeclaration m).render_isLines
  · intro method
    simp [paramsText?]

end BotTypings
