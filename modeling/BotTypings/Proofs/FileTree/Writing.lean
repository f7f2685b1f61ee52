import BotTypings.FileTree.Basic
import BotTypings.Proofs.Steps

/-! Writing files one after the other. A file that is written makes no directory and takes none away,
so every path leads where it led, and what could be written before can be written afterwards. -/
namespace BotTypings.FileTree

theorem entry_root (t : FileTree) : t.entry? [] = some .directory := rfl

theorem entry_of_ne {t : FileTree} {l : Location} (inner : l ≠ []) :
    t.entry? l = (t.entries.find? (·.1 == l)).map (·.2) :=
  if_neg inner

/-- Entries of the location are replaced where they stand. -/
theorem find?_replaced (l : Location) (e : Entry) (m : Location)
    (entries : List (Location × Entry)) :
    (entries.map fun old => if old.1 == l then (l, e) else old).find? (·.1 == m) =
      if m = l then (entries.find? (·.1 == l)).map fun _ => (l, e)
      else entries.find? (·.1 == m) := by
  induction entries with
  | nil => simp
  | cons old rest ih =>
    have skip {x : Location × Entry} {xs : List (Location × Entry)} (other : x.1 ≠ m) :
        (x :: xs).find? (·.1 == m) = xs.find? (·.1 == m) :=
      List.find?_cons_of_neg fun found => other (beq_iff_eq.mp found)
    by_cases here : old.1 = l
    · by_cases same : m = l
      · simp [here, same]
      · have other : l ≠ m := fun found => same found.symm
        have otherToo : old.1 ≠ m := fun found => same (found.symm.trans here)
        rw [List.map_cons, if_pos (beq_iff_eq.mpr here), skip other, skip otherToo, ih, if_neg same,
          if_neg same]
    · rw [List.map_cons, if_neg fun found => here (beq_iff_eq.mp found)]
      by_cases found : old.1 = m
      · have other : m ≠ l := fun same => here (found.trans same)
        simp [found, other]
      · rw [skip found, skip found, ih]
        split
        case isTrue same => rw [← same, skip found]
        case isFalse => rfl

/-- What a tree holds after one entry is set. -/
theorem entry_set {l : Location} (inner : l ≠ []) (t : FileTree) (e : Entry) (m : Location) :
    entry? (t.set l e) m = if m = l then some e else t.entry? m := by
  by_cases root : m = []
  · have other : m ≠ l := fun same => inner (same.symm.trans root)
    rw [if_neg other, root, entry_root, entry_root]
  · rw [entry_of_ne root, entry_of_ne root, set]
    by_cases there : t.entries.any (·.1 == l) = true
    · rw [if_pos there, find?_replaced]
      have found : (t.entries.find? (·.1 == l)).isSome = true := by
        rw [List.find?_isSome]
        simpa using there
      obtain ⟨old, found⟩ := Option.isSome_iff_exists.mp found
      split
      · rw [found]
        rfl
      · rfl
    · have absent : t.entries.find? (·.1 == l) = none := by
        rw [List.find?_eq_none]
        intro old mem found
        exact there (List.any_eq_true.mpr ⟨old, mem, found⟩)
      rw [if_neg there, List.find?_append]
      by_cases same : m = l
      · rw [if_pos same, same, absent]
        simp
      · have other : ¬ l = m := fun found => same found.symm
        rw [if_neg same]
        simp [other]

theorem working_set (t : FileTree) (l : Location) (e : Entry) : (t.set l e).working = t.working := by
  unfold set
  split <;> rfl

/-- The trees hold the same directories. -/
structure SameDirectories (t t' : FileTree) : Prop where
  working : t'.working = t.working
  directory : ∀ l, entry? t' l = some .directory ↔ t.entry? l = some .directory

theorem sameDirectories_refl (t : FileTree) : t.SameDirectories t := ⟨rfl, fun _ => Iff.rfl⟩

theorem step_eq_ok {t : FileTree} {l next : Location} {name : String}
    (stepped : t.step l name = .ok next) : t.entry? l = some .directory := by
  unfold step at stepped
  split at stepped
  · cases stepped
  · cases stepped
  · cases stepped
  · assumption

theorem step_of_directory {t t' : FileTree} {l : Location} (here : t.entry? l = some .directory)
    (there : entry? t' l = some .directory) (name : String) : t'.step l name = t.step l name := by
  rw [step, step, here, there]

/-- Where every directory that was there still is, every way leads where it led. -/
theorem follow_of_directories {t t' : FileTree}
    (still : ∀ l, t.entry? l = some .directory → entry? t' l = some .directory) {names : List String}
    {l last : Location} (followed : t.follow l names = .ok last) : t'.follow l names = .ok last := by
  induction names generalizing l with
  | nil => exact followed
  | cons name names ih =>
    obtain ⟨next, stepped, rest⟩ := bind_eq_ok.mp followed
    have here := step_eq_ok stepped
    have alike := step_of_directory here (still l here) name
    exact bind_eq_ok.mpr ⟨next, alike.trans stepped, ih rest⟩

theorem SameDirectories.follow {t t' : FileTree} (same : t.SameDirectories t') {names : List String}
    {l last : Location} (followed : t.follow l names = .ok last) : t'.follow l names = .ok last :=
  follow_of_directories (fun l => (same.directory l).mpr) followed

theorem SameDirectories.locate {t t' : FileTree} (same : t.SameDirectories t') {p : Path}
    {l : Location} (located : t.locate p = .ok l) : t'.locate p = .ok l := by
  obtain ⟨_, checked, followed⟩ := bind_eq_ok.mp located
  have origin : t'.origin p = t.origin p := by
    rw [FileTree.origin, FileTree.origin, same.working]
  exact bind_eq_ok.mpr ⟨_, checked, by rw [origin]; exact same.follow followed⟩

/-- Every text can be written there. -/
def Writable (t : FileTree) (p : Path) : Prop := ∀ text, ∃ t', t.write p text = .ok t'

theorem write_of_located {t : FileTree} {p : Path} {l : Location} (located : t.locate p = .ok l)
    (plain : p.asksDirectory = false) (text : String) :
    t.write p text =
      match t.entry? l with
      | some .directory => .error .isDirectory
      | some .sink => .ok t
      | some (.file _) | none => .ok (t.set l (.file text.toUTF8.data)) := by
  simp only [write, located, plain, bind, Except.bind, Bool.false_eq_true, if_false]
  cases t.entry? l with
  | none => rfl
  | some e => cases e <;> rfl

theorem plain_of_write {t t' : FileTree} {p : Path} {text : String}
    (written : t.write p text = .ok t') : p.asksDirectory = false := by
  obtain ⟨l, located, rest⟩ := bind_eq_ok.mp written
  cases asks : p.asksDirectory with
  | false => rfl
  | true =>
    simp only [asks, if_true] at rest
    cases rest

theorem writable_iff {t : FileTree} {p : Path} :
    t.Writable p ↔ ∃ l, t.locate p = .ok l ∧ p.asksDirectory = false ∧
      t.entry? l ≠ some .directory := by
  constructor
  · intro writable
    obtain ⟨t', written⟩ := writable ""
    obtain ⟨l, located, _⟩ := bind_eq_ok.mp written
    have plain := plain_of_write written
    refine ⟨l, located, plain, fun directory => ?_⟩
    rw [write_of_located located plain, directory] at written
    cases written
  · rintro ⟨l, located, plain, other⟩ text
    rw [write_of_located located plain]
    cases entry : t.entry? l with
    | none => exact ⟨_, rfl⟩
    | some e =>
      cases e with
      | file content => exact ⟨_, rfl⟩
      | directory => exact absurd entry other
      | sink => exact ⟨_, rfl⟩

/-- A written file stands where no directory was, so the directories stay the same. -/
theorem sameDirectories_write {t t' : FileTree} {p : Path} {text : String}
    (written : t.write p text = .ok t') : t.SameDirectories t' := by
  obtain ⟨l, located, _⟩ := bind_eq_ok.mp written
  have plain := plain_of_write written
  rw [write_of_located located plain] at written
  -- The root is a directory, so what is set is never the root.
  have replaced {e : Entry} (other : t.entry? l ≠ some .directory) (file : e ≠ .directory) :
      t.SameDirectories (t.set l e) := by
    have inner : l ≠ [] := fun root => other (root ▸ t.entry_root)
    refine ⟨working_set t l e, fun m => ?_⟩
    rw [entry_set inner]
    split
    case isTrue same => simp [same, other, file]
    case isFalse => exact Iff.rfl
  split at written
  · cases written
  · cases written
    exact t.sameDirectories_refl
  · rename_i entry
    cases written
    exact replaced (by simp [entry]) nofun
  · rename_i entry
    cases written
    exact replaced (by simp [entry]) nofun

theorem SameDirectories.writable {t t' : FileTree} (same : t.SameDirectories t') {p : Path}
    (writable : t.Writable p) : t'.Writable p := by
  obtain ⟨l, located, plain, other⟩ := writable_iff.mp writable
  have otherToo : entry? t' l ≠ some .directory := fun there => other ((same.directory l).mp there)
  exact writable_iff.mpr ⟨l, same.locate located, plain, otherToo⟩

theorem fromUTF8?_toUTF8 (text : String) : String.fromUTF8? text.toUTF8 = some text := by
  unfold String.fromUTF8?
  exact dif_pos text.isValidUTF8

/-- A file that holds the bytes of a text is read as that text. -/
theorem readText_file {t : FileTree} {p : Path} {l : Location} {text : String}
    (located : t.locate p = .ok l) (plain : p.asksDirectory = false)
    (file : t.entry? l = some (.file text.toUTF8.data)) : t.readText p = .ok text := by
  have bytes : String.fromUTF8? ⟨text.toUTF8.data⟩ = some text := fromUTF8?_toUTF8 text
  simp only [readText, located, file, plain, bytes, bind, Except.bind, Bool.false_eq_true, if_false]
  rfl

end BotTypings.FileTree
