import BotTypings.Proofs.Patch.Entries
import Mathlib.Data.List.Basic
import Mathlib.Data.List.Permutation

/-! Edits of a list of named entries. An edit is about one name: it changes the first entry that bears
it, or adds an entry of the name at the end, or does nothing when none is there. Edits of different
names reach the same entries in every order, and add the same ones, in the order in which they run. -/
namespace BotTypings

/-- What happens to the first entry of a name, and which entry is added when there is none. -/
structure Edit {α : Type} (key : α → String) where
  name : String
  present : α → α
  absent : Option α
  present_key : ∀ x, key x = name → key (present x) = name
  absent_key : ∀ x ∈ absent, key x = name

section

variable {α : Type} {key : α → String}

def Edit.run (e : Edit key) : List α → List α
  | [] => e.absent.toList
  | x :: xs => if key x = e.name then e.present x :: xs else x :: e.run xs

/-- The change of an entry that is there. -/
def Edit.change (name : String) (f : α → α) (kept : ∀ x, key (f x) = key x) : Edit key where
  name := name
  present := f
  absent := none
  present_key x named := (kept x).trans named
  absent_key := nofun

theorem Edit.change_run (name : String) (f : α → α) (kept : ∀ x, key (f x) = key x) (xs : List α) :
    (Edit.change name f kept).run xs = modifyFirst (fun x => key x == name) f xs := by
  induction xs with
  | nil => rfl
  | cons x xs ih =>
    rw [run, ih, modifyFirst]
    exact if_congr beq_iff_eq.symm rfl rfl

/-- The storing of an object in place of its namesake, or at the end. -/
def Edit.store (o : Object) : Edit Object.name where
  name := o.name
  present _ := o
  absent := some o
  present_key _ _ := rfl
  absent_key x given := by rw [Option.mem_some_iff.mp given]

theorem Edit.store_run (o : Object) (xs : List Object) :
    (Edit.store o).run xs = BotTypings.store o xs := by
  induction xs with
  | nil => rfl
  | cons x xs ih =>
    rw [run, ih, BotTypings.store]
    rfl

def runEdits (es : List (Edit key)) (xs : List α) : List α := es.foldl (fun xs e => e.run xs) xs

theorem runEdits_append (es es' : List (Edit key)) (xs : List α) :
    runEdits (es ++ es') xs = runEdits es' (runEdits es xs) :=
  List.foldl_append

/-- An entry that no edit is about stays where it is. -/
theorem runEdits_cons_miss {es : List (Edit key)} {x : α} (miss : ∀ e ∈ es, e.name ≠ key x)
    (xs : List α) : runEdits es (x :: xs) = x :: runEdits es xs := by
  induction es generalizing xs with
  | nil => rfl
  | cons e es ih =>
    obtain ⟨here, behind⟩ := List.forall_mem_cons.mp miss
    have first : e.run (x :: xs) = x :: e.run xs := if_neg (Ne.symm here)
    change runEdits es (e.run (x :: xs)) = x :: runEdits es (e.run xs)
    rw [first, ih behind]

/-- An entry that one edit is about is changed by it, and the others do their work behind it. -/
theorem runEdits_cons_hit {before after : List (Edit key)} {e : Edit key} {x : α}
    (hit : e.name = key x) (others : ∀ d ∈ before ++ after, d.name ≠ e.name) (xs : List α) :
    runEdits (before ++ e :: after) (x :: xs) = e.present x :: runEdits (before ++ after) xs := by
  have missBefore : ∀ d ∈ before, d.name ≠ key x := fun d mem =>
    hit ▸ others d (List.mem_append_left _ mem)
  have missAfter : ∀ d ∈ after, d.name ≠ key (e.present x) := fun d mem =>
    (e.present_key x hit.symm).symm ▸ others d (List.mem_append_right _ mem)
  have change (ys : List α) : e.run (x :: ys) = e.present x :: ys := if_pos hit.symm
  rw [runEdits_append, runEdits_append, runEdits_cons_miss missBefore]
  change runEdits after (e.run (x :: runEdits before xs)) = _
  rw [change, runEdits_cons_miss missAfter]

/-- Where there is nothing to change, every edit adds its entry. -/
theorem runEdits_nil {es : List (Edit key)} (apart : (es.map (·.name)).Nodup) :
    runEdits es [] = es.filterMap (·.absent) := by
  induction es with
  | nil => rfl
  | cons e es ih =>
    obtain ⟨new, apartRest⟩ := List.nodup_cons.mp apart
    change runEdits es e.absent.toList = _
    cases added : e.absent with
    | none =>
      rw [List.filterMap_cons_none added, ← ih apartRest]
      rfl
    | some x =>
      have miss : ∀ d ∈ es, d.name ≠ key x := by
        intro d mem same
        rw [e.absent_key x added] at same
        exact new (List.mem_map.mpr ⟨d, mem, same⟩)
      rw [List.filterMap_cons_some added, ← ih apartRest]
      exact runEdits_cons_miss miss []

theorem absent_keys_sublist (es : List (Edit key)) :
    ((es.filterMap (·.absent)).map key).Sublist (es.map (·.name)) := by
  induction es with
  | nil => exact .slnil
  | cons e es ih =>
    cases added : e.absent with
    | none =>
      rw [List.filterMap_cons_none added]
      exact ih.cons _
    | some x =>
      rw [List.filterMap_cons_some added, List.map_cons, List.map_cons, e.absent_key x added]
      exact ih.cons_cons _

/-- Two outcomes of edits on a list of the given length: what was there has come to the same, and
the entries added behind it are the same in some order, no two of one name. -/
structure SameButOrder (key : α → String) (n : Nat) (xs ys : List α) : Prop where
  kept : xs.take n = ys.take n
  added : (xs.drop n).Perm (ys.drop n)
  apart : ((xs.drop n).map key).Nodup

theorem SameButOrder.cons {n : Nat} {xs ys : List α} (x : α) (same : SameButOrder key n xs ys) :
    SameButOrder key (n + 1) (x :: xs) (x :: ys) where
  kept := congrArg (x :: ·) same.kept
  added := same.added
  apart := same.apart

/-- Edits of different names in another order. -/
theorem runEdits_perm {es es' : List (Edit key)} (apart : (es.map (·.name)).Nodup)
    (order : es.Perm es') (xs : List α) :
    SameButOrder key xs.length (runEdits es xs) (runEdits es' xs) := by
  induction xs generalizing es es' with
  | nil =>
    have apart' : (es'.map (·.name)).Nodup := (order.map _).nodup_iff.mp apart
    rw [runEdits_nil apart, runEdits_nil apart']
    exact ⟨rfl, order.filterMap _, apart.sublist (absent_keys_sublist es)⟩
  | cons x xs ih =>
    by_cases hit : ∃ e ∈ es, e.name = key x
    · obtain ⟨e, mem, hit⟩ := hit
      obtain ⟨before, after, rfl⟩ := List.append_of_mem mem
      obtain ⟨before', after', rfl⟩ := List.append_of_mem (order.subset mem)
      have rest : (before ++ after).Perm (before' ++ after') := List.perm_inv_core order
      have names : ((e :: (before ++ after)).map (·.name)).Nodup :=
        (List.perm_middle.map _).nodup_iff.mp apart
      obtain ⟨new, apartRest⟩ := List.nodup_cons.mp names
      have others : ∀ d ∈ before ++ after, d.name ≠ e.name := fun d there same =>
        new (List.mem_map.mpr ⟨d, there, same⟩)
      have others' : ∀ d ∈ before' ++ after', d.name ≠ e.name := fun d there =>
        others d (rest.symm.subset there)
      rw [runEdits_cons_hit hit others, runEdits_cons_hit hit others']
      exact (ih apartRest rest).cons _
    · have miss : ∀ e ∈ es, e.name ≠ key x := fun e mem same => hit ⟨e, mem, same⟩
      have miss' : ∀ e ∈ es', e.name ≠ key x := fun e mem => miss e (order.symm.subset mem)
      rw [runEdits_cons_miss miss, runEdits_cons_miss miss']
      exact (ih apart order).cons x

theorem find?_eq_some_iff_of_nodup {xs : List α} (apart : (xs.map key).Nodup) {name : String}
    {x : α} : xs.find? (fun x => key x == name) = some x ↔ x ∈ xs ∧ key x = name := by
  constructor
  · intro found
    have named := List.find?_some found
    exact ⟨List.mem_of_find?_eq_some found, beq_iff_eq.mp named⟩
  · rintro ⟨mem, rfl⟩
    induction xs with
    | nil => cases mem
    | cons y ys ih =>
      obtain ⟨new, apartRest⟩ := List.nodup_cons.mp apart
      rcases List.mem_cons.mp mem with rfl | behind
      · exact find?_cons_hit key _ rfl ys
      · have other : key y ≠ key x := fun same => new (same ▸ List.mem_map_of_mem behind)
        rw [find?_cons_miss key _ other]
        exact ih apartRest behind

theorem find?_perm {xs ys : List α} (order : xs.Perm ys) (apart : (xs.map key).Nodup)
    (name : String) :
    xs.find? (fun x => key x == name) = ys.find? (fun x => key x == name) := by
  have apart' : (ys.map key).Nodup := (order.map key).nodup_iff.mp apart
  refine Option.ext fun x => ?_
  rw [find?_eq_some_iff_of_nodup apart, find?_eq_some_iff_of_nodup apart', order.mem_iff]

theorem SameButOrder.find? {n : Nat} {xs ys : List α} (same : SameButOrder key n xs ys)
    (name : String) :
    xs.find? (fun x => key x == name) = ys.find? (fun x => key x == name) := by
  rw [← List.take_append_drop n xs, ← List.take_append_drop n ys, List.find?_append,
    List.find?_append, same.kept, find?_perm same.added same.apart]

theorem Edit.run_length {e : Edit key} (none : e.absent = none) (xs : List α) :
    (e.run xs).length = xs.length := by
  induction xs with
  | nil => rw [run, none]; rfl
  | cons x xs ih =>
    rw [run]
    split
    · rfl
    · rw [List.length_cons, ih, List.length_cons]

theorem runEdits_length {es : List (Edit key)} (none : ∀ e ∈ es, e.absent = none) (xs : List α) :
    (runEdits es xs).length = xs.length := by
  induction es generalizing xs with
  | nil => rfl
  | cons e es ih =>
    obtain ⟨here, behind⟩ := List.forall_mem_cons.mp none
    exact (ih behind (e.run xs)).trans (e.run_length here xs)

/-- Edits that add nothing come to the same in every order. -/
theorem runEdits_perm_eq {es es' : List (Edit key)} (apart : (es.map (·.name)).Nodup)
    (order : es.Perm es') (none : ∀ e ∈ es, e.absent = none) (xs : List α) :
    runEdits es xs = runEdits es' xs := by
  have kept := (runEdits_perm apart order xs).kept
  have none' : ∀ e ∈ es', e.absent = Option.none := fun e mem => none e (order.symm.subset mem)
  rw [List.take_of_length_le (Nat.le_of_eq (runEdits_length none xs)),
    List.take_of_length_le (Nat.le_of_eq (runEdits_length none' xs))] at kept
  exact kept

end

end BotTypings
