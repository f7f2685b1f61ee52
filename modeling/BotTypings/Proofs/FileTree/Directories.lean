import BotTypings.Proofs.FileTree.Writing
import BotTypings.Proofs.Text.Lines

/-! Making directories. What is made appears where nothing was and leaves everything else alone, also
when it stops halfway, and a directory that has been made is not made a second time. Files of different
names in one directory stand apart, since a path to a file ends in its name. -/
namespace BotTypings.FileTree

open BotTypings.Text

/-- Nothing is different but that there are directories where nothing was. -/
structure MakesDirectories (t t' : FileTree) : Prop where
  working : t'.working = t.working
  entry : ∀ l, entry? t' l = t.entry? l ∨ t.entry? l = none ∧ entry? t' l = some .directory

theorem makesDirectories_refl (t : FileTree) : t.MakesDirectories t := ⟨rfl, fun _ => .inl rfl⟩

theorem MakesDirectories.trans {t t' t'' : FileTree} (first : t.MakesDirectories t')
    (second : t'.MakesDirectories t'') : t.MakesDirectories t'' := by
  refine ⟨second.working.trans first.working, fun l => ?_⟩
  rcases second.entry l with same | ⟨absent, made⟩
  · rw [same]
    exact first.entry l
  · rcases first.entry l with same | ⟨_, there⟩
    · exact .inr ⟨same ▸ absent, made⟩
    · rw [absent] at there
      cases there

theorem MakesDirectories.directory {t t' : FileTree} (makes : t.MakesDirectories t') {l : Location}
    (here : t.entry? l = some .directory) : entry? t' l = some .directory := by
  rcases makes.entry l with same | ⟨absent, _⟩
  · exact same.trans here
  · rw [absent] at here
    cases here

theorem MakesDirectories.origin {t t' : FileTree} (makes : t.MakesDirectories t') (p : Path) :
    t'.origin p = t.origin p := by
  rw [FileTree.origin, FileTree.origin, makes.working]

theorem leadsToDirectory_iff {t : FileTree} {start : Location} {names : List String} :
    t.leadsToDirectory start names = true ↔
      ∃ l, t.follow start names = .ok l ∧ t.entry? l = some .directory := by
  unfold leadsToDirectory isDirectory
  cases t.follow start names <;> simp

theorem leadsToDirectory_of_directories {t t' : FileTree}
    (still : ∀ l, t.entry? l = some .directory → entry? t' l = some .directory) {start : Location}
    {names : List String} (leads : t.leadsToDirectory start names = true) :
    t'.leadsToDirectory start names = true := by
  obtain ⟨l, followed, here⟩ := leadsToDirectory_iff.mp leads
  exact leadsToDirectory_iff.mpr ⟨l, follow_of_directories still followed, still l here⟩

theorem makeDirectory_eq_ok {t made : FileTree} {start : Location} {names : List String}
    (done : t.makeDirectory start names = .ok made) :
    t.MakesDirectories made ∧ made.leadsToDirectory start names = true := by
  obtain ⟨l, followed, rest⟩ := bind_eq_ok.mp done
  split at rest
  · cases rest
  · rename_i absent
    cases rest
    have inner : l ≠ [] := fun root => nomatch (root ▸ absent : t.entry? [] = none)
    have makes : t.MakesDirectories (t.set l .directory) := by
      refine ⟨working_set t l .directory, fun m => ?_⟩
      rw [entry_set inner]
      split
      case isTrue same => exact .inr ⟨same ▸ absent, rfl⟩
      case isFalse => exact .inl rfl
    have still := follow_of_directories (fun _ => makes.directory) followed
    exact ⟨makes, leadsToDirectory_iff.mpr ⟨l, still, by rw [entry_set inner, if_pos rfl]⟩⟩

/-- A directory that is there is no reason to fail, and nothing is made then. -/
theorem makeAfter_there {t : FileTree} {start : Location} {names : List String}
    (leads : t.leadsToDirectory start names = true)
    (outer : FileTree → FileTree × Except FileError Unit) :
    t.makeAfter outer start names = (t, .ok ()) := by
  obtain ⟨l, followed, here⟩ := leadsToDirectory_iff.mp leads
  have refused : t.makeDirectory start names = .error .alreadyExists := by
    simp only [makeDirectory, followed, here, bind, Except.bind]
    rfl
  simp only [makeAfter, refused, leads, if_true]

/-- What a step that makes directories keeps, and what there is when it succeeds. -/
structure Makes (t : FileTree) (start : Location) (names : List String)
    (outcome : FileTree × Except FileError Unit) : Prop where
  makes : t.MakesDirectories outcome.1
  there : outcome.2 = .ok () → outcome.1.leadsToDirectory start names = true

theorem makes_settled {t t' : FileTree} (makes : t.MakesDirectories t') (start : Location)
    (names : List String) (e : FileError) :
    t.Makes start names (t', if t'.leadsToDirectory start names then .ok () else .error e) := by
  refine ⟨makes, fun done => ?_⟩
  split at done
  · assumption
  · cases done

theorem makeAfter_makes {outer : FileTree → FileTree × Except FileError Unit}
    (outerMakes : ∀ t : FileTree, t.MakesDirectories (outer t).1) (start : Location)
    (names : List String) (t : FileTree) : t.Makes start names (t.makeAfter outer start names) := by
  simp only [makeAfter]
  split
  · rename_i made done
    exact ⟨(makeDirectory_eq_ok done).1, fun _ => (makeDirectory_eq_ok done).2⟩
  · have above := outerMakes t
    split
    · rename_i t' e failed
      rw [failed] at above
      exact ⟨above, nofun⟩
    · rename_i t' done
      rw [done] at above
      split
      · rename_i made again
        have last := makeDirectory_eq_ok again
        exact ⟨above.trans last.1, fun _ => last.2⟩
      · exact makes_settled above start names _
  · exact makes_settled t.makesDirectories_refl start names _

theorem makeDirectories_makes (start : Location) (names : List String) (t : FileTree) :
    t.MakesDirectories (makeDirectories start names t).1 := by
  induction names generalizing t with
  | nil => exact t.makesDirectories_refl
  | cons name outer ih => exact (makeAfter_makes ih start (name :: outer).reverse t).makes

/-- The directory of the path is there. The empty path stands for the directory one is in. -/
def HasDirectory (t : FileTree) (p : Path) : Prop :=
  p.text = "" ∨ p.check = .ok () ∧ t.leadsToDirectory (t.origin p) p.names = true

theorem createDirectories_makes (t : FileTree) (p : Path) :
    t.MakesDirectories (t.createDirectories p).1 := by
  unfold createDirectories
  split
  · exact t.makesDirectories_refl
  · split
    · exact t.makesDirectories_refl
    · exact (makeAfter_makes (makeDirectories_makes _ _) _ _ t).makes

theorem hasDirectory_of_created {t made : FileTree} {p : Path}
    (created : t.createDirectories p = (made, .ok ())) : made.HasDirectory p := by
  have makes := t.createDirectories_makes p
  rw [created] at makes
  unfold createDirectories at created
  split at created
  · rename_i empty
    exact .inl empty
  · split at created
    · cases created
    · rename_i checked
      have last := makeAfter_makes (makeDirectories_makes (t.origin p) (namesAbove p).reverse)
        (t.origin p) p.names t
      rw [created] at last
      exact .inr ⟨checked, makes.origin p ▸ last.there rfl⟩

theorem HasDirectory.createDirectories {t : FileTree} {p : Path} (there : t.HasDirectory p) :
    t.createDirectories p = (t, .ok ()) := by
  unfold FileTree.createDirectories
  rcases there with empty | ⟨checked, leads⟩
  · rw [if_pos empty]
  · split
    · rfl
    · rw [checked]
      exact makeAfter_there leads _

theorem SameDirectories.hasDirectory {t t' : FileTree} (same : t.SameDirectories t') {p : Path}
    (there : t.HasDirectory p) : t'.HasDirectory p := by
  rcases there with empty | ⟨checked, leads⟩
  · exact .inl empty
  · have origin : t'.origin p = t.origin p := by
      rw [FileTree.origin, FileTree.origin, same.working]
    have still := leadsToDirectory_of_directories (fun l => (same.directory l).mpr) leads
    exact .inr ⟨checked, origin ▸ still⟩

/-- What can stand in a directory as the name of a file. -/
structure PlainName (name : String) : Prop where
  given : name ≠ ""
  uncut : '/' ∉ name.toList
  notHere : name ≠ "."
  notAbove : name ≠ ".."

theorem names_append {cs : List Char} {name : String} (plain : PlainName name) :
    ((pieces '/' (cs ++ '/' :: name.toList)).filter (!·.isEmpty)).map String.ofList =
      ((pieces '/' cs).filter (!·.isEmpty)).map String.ofList ++ [name] := by
  have given : name.toList ≠ [] := fun none => plain.given (String.toList_eq_nil_iff.mp none)
  rw [pieces_append, pieces_of_not_mem plain.uncut, List.filter_append, List.map_append]
  simp [given]

theorem names_child {name : String} (plain : PlainName name) (p : Path) :
    (p.child name).names = p.names ++ [name] := by
  have given : name.toList ≠ [] := fun none => plain.given (String.toList_eq_nil_iff.mp none)
  unfold Path.child
  split
  · rename_i joined
    rcases joined with empty | slash
    · simp [Path.names, Path.chars, empty, pieces_of_not_mem plain.uncut, given, pieces]
    · -- The slash at the end of the path is the one before the name.
      obtain ⟨cs, ends⟩ : ∃ cs, p.chars = cs ++ ['/'] := by
        rw [Path.asksDirectory, beq_iff_eq, List.getLast?_eq_some_iff] at slash
        exact slash
      have text : p.text.toList = cs ++ ['/'] := ends
      have short : pieces '/' (cs ++ ['/']) = pieces '/' cs ++ [[]] := pieces_append '/' cs []
      simp only [Path.names, Path.chars, String.toList_append, text, List.append_assoc,
        List.singleton_append, names_append plain, short]
      simp
  · simp only [Path.names, Path.chars, String.toList_append, List.append_assoc]
    exact names_append plain

/-- The last step of a way leads to an entry of its name. -/
theorem last_of_follow {t : FileTree} {name : String} (plain : PlainName name) {names : List String}
    {l last : Location} (followed : t.follow l (names ++ [name]) = .ok last) :
    ∃ outer, last = outer ++ [name] := by
  induction names generalizing l with
  | nil =>
    obtain ⟨next, stepped, same⟩ := bind_eq_ok.mp followed
    cases same
    unfold step at stepped
    split at stepped
    · cases stepped
    · cases stepped
    · cases stepped
    · rw [if_neg plain.notHere, if_neg plain.notAbove] at stepped
      split at stepped
      · cases stepped
      · cases stepped
        exact ⟨l, rfl⟩
  | cons first names ih =>
    obtain ⟨next, _, rest⟩ := bind_eq_ok.mp followed
    exact ih rest

/-- Paths to different names in a directory lead to different places. -/
theorem locate_child_apart {t : FileTree} {p : Path} {name other : String} (plain : PlainName name)
    (plainToo : PlainName other) {l : Location} (located : t.locate (p.child name) = .ok l)
    (locatedToo : t.locate (p.child other) = .ok l) : name = other := by
  obtain ⟨_, _, followed⟩ := bind_eq_ok.mp located
  obtain ⟨_, _, followedToo⟩ := bind_eq_ok.mp locatedToo
  rw [names_child plain] at followed
  rw [names_child plainToo] at followedToo
  obtain ⟨outer, ends⟩ := last_of_follow plain followed
  obtain ⟨outerToo, endsToo⟩ := last_of_follow plainToo followedToo
  have same := List.append_inj_right' (ends.symm.trans endsToo) rfl
  exact List.singleton_inj.mp same

end BotTypings.FileTree
