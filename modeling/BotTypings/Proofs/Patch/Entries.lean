import BotTypings.Schema.Lookup

/-! First entries of a name: changing and storing them. Changes that keep names are told apart by
name alone, so two of them commute unless they share one; a stored object replaces the first of its
name or goes to the end, so a later store of the same name leaves nothing of an earlier one. -/
namespace BotTypings

/-- The first entry of the name stands at the index. -/
def StandsFirst (name : String) (names : List String) (i : Nat) : Prop :=
  names[i]? = some name ∧ name ∉ names.take i

theorem standsFirst_zero {name n : String} {names : List String} :
    StandsFirst name (n :: names) 0 ↔ n = name := by
  constructor
  · rintro ⟨here, _⟩
    exact Option.some.inj here
  · rintro rfl
    exact ⟨rfl, nofun⟩

theorem standsFirst_succ {name n : String} {names : List String} {i : Nat} :
    StandsFirst name (n :: names) (i + 1) ↔ n ≠ name ∧ StandsFirst name names i := by
  rw [StandsFirst, StandsFirst, List.getElem?_cons_succ, List.take_succ_cons, List.mem_cons, not_or]
  constructor
  · rintro ⟨here, other, new⟩
    exact ⟨Ne.symm other, here, new⟩
  · rintro ⟨other, here, new⟩
    exact ⟨here, Ne.symm other, new⟩

theorem standsFirst_append {name : String} {names more : List String} {i : Nat}
    (inside : i < names.length) :
    StandsFirst name (names ++ more) i ↔ StandsFirst name names i := by
  rw [StandsFirst, StandsFirst, List.getElem?_append_left inside,
    List.take_append_of_le_length (Nat.le_of_lt inside)]

section First

variable {α : Type} (key : α → String) (name other : String) {f g : α → α}

theorem modifyFirst_map {β : Type} {k : α → β} (p : α → Bool) (kept : ∀ x, k (f x) = k x)
    (xs : List α) :
    (modifyFirst p f xs).map k = xs.map k := by
  induction xs with
  | nil => rfl
  | cons x xs ih =>
    rw [modifyFirst]
    split
    · rw [List.map_cons, kept, List.map_cons]
    · rw [List.map_cons, ih, List.map_cons]

theorem modifyFirst_cons_hit {x : α} (hit : key x = name) (xs : List α) :
    modifyFirst (fun x => key x == name) f (x :: xs) = f x :: xs :=
  if_pos (beq_iff_eq.mpr hit)

theorem modifyFirst_cons_miss {x : α} (miss : key x ≠ name) (xs : List α) :
    modifyFirst (fun x => key x == name) f (x :: xs) =
      x :: modifyFirst (fun x => key x == name) f xs :=
  if_neg fun hit => miss (beq_iff_eq.mp hit)

/-- A change comes to nothing where no entry passes the test. -/
theorem modifyFirst_absent {p : α → Bool} {xs : List α} (absent : xs.find? p = none) :
    modifyFirst p f xs = xs := by
  induction xs with
  | nil => rfl
  | cons x xs ih =>
    rw [List.find?_eq_none] at absent
    obtain ⟨miss, misses⟩ := List.forall_mem_cons.mp absent
    rw [modifyFirst, if_neg miss, ih (List.find?_eq_none.mpr misses)]

/-- The second change meets the entry that the first one left. -/
theorem modifyFirst_twice (kept : ∀ x, key (f x) = key x) (xs : List α) :
    modifyFirst (fun x => key x == name) g (modifyFirst (fun x => key x == name) f xs) =
      modifyFirst (fun x => key x == name) (g ∘ f) xs := by
  induction xs with
  | nil => rfl
  | cons x xs ih =>
    by_cases hit : key x = name
    · rw [modifyFirst_cons_hit key name hit, modifyFirst_cons_hit key name ((kept x).trans hit),
        modifyFirst_cons_hit key name hit]
      rfl
    · rw [modifyFirst_cons_miss key name hit, modifyFirst_cons_miss key name hit, ih,
        modifyFirst_cons_miss key name hit]

/-- Changes of entries of different names do not meet. -/
theorem modifyFirst_comm (apart : name ≠ other) (kept : ∀ x, key (f x) = key x)
    (keptToo : ∀ x, key (g x) = key x) (xs : List α) :
    modifyFirst (fun x => key x == name) f (modifyFirst (fun x => key x == other) g xs) =
      modifyFirst (fun x => key x == other) g (modifyFirst (fun x => key x == name) f xs) := by
  induction xs with
  | nil => rfl
  | cons x xs ih =>
    by_cases hit : key x = name
    · have miss : key x ≠ other := fun same => apart (hit.symm.trans same)
      rw [modifyFirst_cons_miss key other miss, modifyFirst_cons_hit key name hit,
        modifyFirst_cons_hit key name hit, modifyFirst_cons_miss key other ((kept x).symm ▸ miss)]
    · by_cases hitToo : key x = other
      · rw [modifyFirst_cons_hit key other hitToo, modifyFirst_cons_miss key name hit,
          modifyFirst_cons_hit key other hitToo,
            modifyFirst_cons_miss key name ((keptToo x).symm ▸ hit)]
      · rw [modifyFirst_cons_miss key other hitToo, modifyFirst_cons_miss key name hit,
          modifyFirst_cons_miss key name hit, modifyFirst_cons_miss key other hitToo, ih]

theorem find?_cons_hit {x : α} (hit : key x = name) (xs : List α) :
    (x :: xs).find? (fun x => key x == name) = some x :=
  List.find?_cons_of_pos (beq_iff_eq.mpr hit)

theorem find?_cons_miss {x : α} (miss : key x ≠ name) (xs : List α) :
    (x :: xs).find? (fun x => key x == name) = xs.find? (fun x => key x == name) :=
  List.find?_cons_of_neg fun hit => miss (beq_iff_eq.mp hit)

/-- What is found afterwards is what the change made of what was found before. -/
theorem find?_modifyFirst_same (kept : ∀ x, key (f x) = key x) (xs : List α) :
    (modifyFirst (fun x => key x == name) f xs).find? (fun x => key x == name) =
      (xs.find? fun x => key x == name).map f := by
  induction xs with
  | nil => rfl
  | cons x xs ih =>
    by_cases hit : key x = name
    · rw [modifyFirst_cons_hit key name hit, find?_cons_hit key name hit,
        find?_cons_hit key name ((kept x).trans hit)]
      rfl
    · rw [modifyFirst_cons_miss key name hit, find?_cons_miss key name hit,
        find?_cons_miss key name hit, ih]

theorem find?_modifyFirst_other (apart : name ≠ other) (kept : ∀ x, key (f x) = key x)
    (xs : List α) :
    (modifyFirst (fun x => key x == name) f xs).find? (fun x => key x == other) =
      xs.find? fun x => key x == other := by
  induction xs with
  | nil => rfl
  | cons x xs ih =>
    by_cases hit : key x = name
    · have miss : key x ≠ other := fun same => apart (hit.symm.trans same)
      rw [modifyFirst_cons_hit key name hit, find?_cons_miss key other miss,
        find?_cons_miss key other ((kept x).symm ▸ miss)]
    · rw [modifyFirst_cons_miss key name hit]
      by_cases hitToo : key x = other
      · rw [find?_cons_hit key other hitToo, find?_cons_hit key other hitToo]
      · rw [find?_cons_miss key other hitToo, find?_cons_miss key other hitToo, ih]

theorem getElem?_modifyFirst_first {xs : List α} {i : Nat}
    (first : StandsFirst name (xs.map key) i) :
    (modifyFirst (fun x => key x == name) f xs)[i]? = xs[i]?.map f := by
  induction xs generalizing i with
  | nil => nomatch first.1
  | cons x xs ih =>
    cases i with
    | zero =>
      rw [modifyFirst_cons_hit key name (standsFirst_zero.mp first)]
      rfl
    | succ i =>
      obtain ⟨miss, later⟩ := standsFirst_succ.mp first
      rw [modifyFirst_cons_miss key name miss, List.getElem?_cons_succ, List.getElem?_cons_succ,
        ih later]

theorem getElem?_modifyFirst_other {xs : List α} {i : Nat}
    (other : ¬ StandsFirst name (xs.map key) i) :
    (modifyFirst (fun x => key x == name) f xs)[i]? = xs[i]? := by
  induction xs generalizing i with
  | nil => rfl
  | cons x xs ih =>
    cases i with
    | zero =>
      have miss : key x ≠ name := fun hit => other (standsFirst_zero.mpr hit)
      rw [modifyFirst_cons_miss key name miss]
      rfl
    | succ i =>
      by_cases hit : key x = name
      · rw [modifyFirst_cons_hit key name hit]
        rfl
      · have later : ¬ StandsFirst name (xs.map key) i :=
          fun first => other (standsFirst_succ.mpr ⟨hit, first⟩)
        rw [modifyFirst_cons_miss key name hit, List.getElem?_cons_succ, List.getElem?_cons_succ,
          ih later]

/-- Every entry stays where it is, and only the first one of the name is changed. -/
theorem modifyFirst_at {xs : List α} {i : Nat} {x : α} (before : xs[i]? = some x) :
    ∃ y, (modifyFirst (fun x => key x == name) f xs)[i]? = some y ∧
      (y = x ∨ y = f x ∧ StandsFirst name (xs.map key) i) := by
  by_cases first : StandsFirst name (xs.map key) i
  · refine ⟨f x, ?_, .inr ⟨rfl, first⟩⟩
    rw [getElem?_modifyFirst_first key name first, before]
    rfl
  · refine ⟨x, ?_, .inl rfl⟩
    rw [getElem?_modifyFirst_other key name first, before]

theorem mem_modifyFirst {p : α → Bool} {x : α} {xs : List α} (mem : x ∈ modifyFirst p f xs) :
    x ∈ xs ∨ ∃ y ∈ xs, x = f y := by
  induction xs with
  | nil => exact .inl mem
  | cons first rest ih =>
    rw [modifyFirst] at mem
    split at mem
    · rcases List.mem_cons.mp mem with rfl | behind
      · exact .inr ⟨first, List.mem_cons_self, rfl⟩
      · exact .inl (List.mem_cons_of_mem _ behind)
    · rcases List.mem_cons.mp mem with rfl | behind
      · exact .inl List.mem_cons_self
      · rcases ih behind with old | ⟨y, inside, same⟩
        · exact .inl (List.mem_cons_of_mem _ old)
        · exact .inr ⟨y, List.mem_cons_of_mem _ inside, same⟩

end First

theorem find?_eq_none_iff_names {α : Type} {key : α → String} {name : String} {xs : List α} :
    xs.find? (fun x => key x == name) = none ↔ name ∉ xs.map key := by
  rw [List.find?_eq_none, List.mem_map]
  simp

theorem find?_isSome_iff_names {α : Type} {key : α → String} {name : String} {xs : List α} :
    (xs.find? fun x => key x == name).isSome = true ↔ name ∈ xs.map key := by
  simp [List.find?_isSome]

theorem key_of_find? {α : Type} {key : α → String} {name : String} {x : α} {xs : List α}
    (found : xs.find? (fun x => key x == name) = some x) : key x = name := by
  have passed := List.find?_some found
  exact beq_iff_eq.mp passed

/-- The list that holds the object in place of the first one of its name, or at its end. -/
def store (o : Object) : List Object → List Object
  | [] => [o]
  | x :: xs => if x.name = o.name then o :: xs else x :: store o xs

theorem store_cons_hit {o x : Object} (hit : x.name = o.name) (xs : List Object) :
    store o (x :: xs) = o :: xs :=
  if_pos hit

theorem store_cons_miss {o x : Object} (miss : x.name ≠ o.name) (xs : List Object) :
    store o (x :: xs) = x :: store o xs :=
  if_neg miss

theorem store_present {o : Object} {xs : List Object}
    (present : ∃ x, xs.find? (·.name == o.name) = some x) :
    store o xs = modifyFirst (·.name == o.name) (fun _ => o) xs := by
  induction xs with
  | nil =>
    obtain ⟨_, impossible⟩ := present
    cases impossible
  | cons x xs ih =>
    by_cases hit : x.name = o.name
    · rw [store_cons_hit hit, modifyFirst_cons_hit Object.name o.name hit]
    · rw [find?_cons_miss Object.name o.name hit] at present
      rw [store_cons_miss hit, modifyFirst_cons_miss Object.name o.name hit, ih present]

theorem store_absent {o : Object} {xs : List Object} (absent : xs.find? (·.name == o.name) = none) :
    store o xs = xs ++ [o] := by
  induction xs with
  | nil => rfl
  | cons x xs ih =>
    by_cases hit : x.name = o.name
    · rw [find?_cons_hit Object.name o.name hit] at absent
      cases absent
    · rw [find?_cons_miss Object.name o.name hit] at absent
      rw [store_cons_miss hit, ih absent]
      rfl

theorem Schema.upsertObject_eq (s : Schema) (o : Object) :
    s.upsertObject o = { s with objects := store o s.objects } := by
  rw [upsertObject, object?]
  cases found : s.objects.find? (·.name == o.name) with
  | none => rw [store_absent found]
  | some x =>
    rw [store_present ⟨x, found⟩]
    rfl

section Store

variable {o o' : Object}

/-- Of two objects of one name, only the later one is left. -/
theorem store_store (same : o.name = o'.name) (xs : List Object) :
    store o' (store o xs) = store o' xs := by
  induction xs with
  | nil => exact store_cons_hit same []
  | cons x xs ih =>
    by_cases hit : x.name = o.name
    · rw [store_cons_hit hit, store_cons_hit same, store_cons_hit (hit.trans same)]
    · have miss : x.name ≠ o'.name := fun hit' => hit (hit'.trans same.symm)
      rw [store_cons_miss hit, store_cons_miss miss, store_cons_miss miss, ih]

/-- The order of two stores matters to the end of the list alone: not when one of the names is
there. -/
theorem store_comm (apart : o.name ≠ o'.name) {xs : List Object}
    (present : o'.name ∈ xs.map (·.name)) :
    store o' (store o xs) = store o (store o' xs) := by
  induction xs with
  | nil => nomatch present
  | cons x xs ih =>
    by_cases hit : x.name = o.name
    · have miss : x.name ≠ o'.name := fun hit' => apart (hit.symm.trans hit')
      rw [store_cons_hit hit, store_cons_miss miss, store_cons_hit hit, store_cons_miss apart]
    · by_cases hit' : x.name = o'.name
      · rw [store_cons_miss hit, store_cons_hit hit', store_cons_hit hit',
          store_cons_miss (Ne.symm apart)]
      · rcases List.mem_cons.mp present with here | there
        · exact absurd here.symm hit'
        · rw [store_cons_miss hit, store_cons_miss hit', store_cons_miss hit', store_cons_miss hit,
            ih there]

theorem store_names (o : Object) (xs : List Object) :
    (store o xs).map (·.name) =
      if o.name ∈ xs.map (·.name) then xs.map (·.name) else xs.map (·.name) ++ [o.name] := by
  induction xs with
  | nil => rfl
  | cons x xs ih =>
    by_cases hit : x.name = o.name
    · rw [store_cons_hit hit, List.map_cons, List.map_cons,
        if_pos (List.mem_cons.mpr (.inl hit.symm)), hit]
    · rw [store_cons_miss hit, List.map_cons, ih, List.map_cons]
      by_cases there : o.name ∈ xs.map (·.name)
      · rw [if_pos there, if_pos (List.mem_cons_of_mem _ there)]
      · have absent : o.name ∉ x.name :: xs.map (·.name) := by
          rw [List.mem_cons, not_or]
          exact ⟨fun same => hit same.symm, there⟩
        rw [if_neg there, if_neg absent]
        rfl

theorem mem_store_names {n : String} (o : Object) (xs : List Object) :
    n ∈ (store o xs).map (·.name) ↔ n ∈ xs.map (·.name) ∨ n = o.name := by
  rw [store_names]
  split
  case isTrue there =>
    constructor
    · exact .inl
    · rintro (old | rfl)
      · exact old
      · exact there
  case isFalse => rw [List.mem_append, List.mem_singleton]

theorem find?_store (o : Object) (n : String) (xs : List Object) :
    (store o xs).find? (·.name == n) = if n = o.name then some o else xs.find? (·.name == n) := by
  induction xs with
  | nil =>
    by_cases same : n = o.name
    · rw [if_pos same]
      exact find?_cons_hit Object.name n same.symm []
    · rw [if_neg same]
      exact find?_cons_miss Object.name n (Ne.symm same) []
  | cons x xs ih =>
    by_cases hit : x.name = o.name
    · rw [store_cons_hit hit]
      by_cases same : n = o.name
      · rw [if_pos same]
        exact find?_cons_hit Object.name n same.symm xs
      · have miss : x.name ≠ n := fun found => same (found.symm.trans hit)
        rw [if_neg same, find?_cons_miss Object.name n (Ne.symm same),
          find?_cons_miss Object.name n miss]
    · rw [store_cons_miss hit]
      by_cases found : x.name = n
      · have other : n ≠ o.name := fun same => hit (found.trans same)
        rw [find?_cons_hit Object.name n found, if_neg other, find?_cons_hit Object.name n found]
      · rw [find?_cons_miss Object.name n found, find?_cons_miss Object.name n found, ih]

theorem store_length_le (o : Object) (xs : List Object) : xs.length ≤ (store o xs).length := by
  induction xs with
  | nil => exact Nat.zero_le _
  | cons x xs ih =>
    by_cases hit : x.name = o.name
    · rw [store_cons_hit hit]
      exact Nat.le_refl _
    · rw [store_cons_miss hit]
      exact Nat.succ_le_succ ih

theorem getElem?_store_other {xs : List Object} {i : Nat} (inside : i < xs.length)
    (other : ¬ StandsFirst o.name (xs.map (·.name)) i) : (store o xs)[i]? = xs[i]? := by
  induction xs generalizing i with
  | nil => nomatch inside
  | cons x xs ih =>
    cases i with
    | zero =>
      have miss : x.name ≠ o.name := fun hit => other (standsFirst_zero.mpr hit)
      rw [store_cons_miss miss]
      rfl
    | succ i =>
      by_cases hit : x.name = o.name
      · rw [store_cons_hit hit]
        rfl
      · have later : ¬ StandsFirst o.name (xs.map (·.name)) i :=
          fun first => other (standsFirst_succ.mpr ⟨hit, first⟩)
        rw [store_cons_miss hit, List.getElem?_cons_succ, List.getElem?_cons_succ,
          ih (Nat.lt_of_succ_lt_succ inside) later]

/-- A change of another name than the stored one, before or after. -/
theorem modifyFirst_store {n : String} {f : Object → Object} (apart : o.name ≠ n)
    (kept : ∀ x, (f x).name = x.name) (xs : List Object) :
    modifyFirst (·.name == n) f (store o xs) = store o (modifyFirst (·.name == n) f xs) := by
  induction xs with
  | nil => exact modifyFirst_cons_miss Object.name n apart []
  | cons x xs ih =>
    by_cases hit : x.name = o.name
    · have miss : x.name ≠ n := fun found => apart (hit.symm.trans found)
      rw [store_cons_hit hit, modifyFirst_cons_miss Object.name n apart,
        modifyFirst_cons_miss Object.name n miss, store_cons_hit hit]
    · rw [store_cons_miss hit]
      by_cases found : x.name = n
      · rw [modifyFirst_cons_hit Object.name n found, modifyFirst_cons_hit Object.name n found,
          store_cons_miss ((kept x).symm ▸ hit)]
      · rw [modifyFirst_cons_miss Object.name n found, modifyFirst_cons_miss Object.name n found,
          store_cons_miss hit, ih]

def storeAll (os : List Object) (xs : List Object) : List Object :=
  os.foldl (fun xs o => store o xs) xs

/-- A store passes over stores of other names once its own name is there. -/
theorem store_storeAll {os : List Object} (apart : o.name ∉ os.map (·.name)) {xs : List Object}
    (present : o.name ∈ xs.map (·.name)) : store o (storeAll os xs) = storeAll os (store o xs) := by
  induction os generalizing xs with
  | nil => rfl
  | cons first os ih =>
    rw [List.map_cons, List.mem_cons, not_or] at apart
    change store o (storeAll os (store first xs)) = storeAll os (store first (store o xs))
    rw [ih apart.2 ((mem_store_names first xs).mpr (.inl present)),
      store_comm (Ne.symm apart.1) present]

/-- Storing objects of the same names again leaves nothing of those stored first. -/
theorem storeAll_storeAll {os os' : List Object} (same : os.map (·.name) = os'.map (·.name))
    (apart : (os.map (·.name)).Nodup) (xs : List Object) :
    storeAll os' (storeAll os xs) = storeAll os' xs := by
  induction os generalizing os' xs with
  | nil =>
    have none : os' = [] := List.map_eq_nil_iff.mp same.symm
    rw [none]
    rfl
  | cons o os ih =>
    cases os' with
    | nil => cases same
    | cons o' os' =>
      have sameName : o.name = o'.name := (List.cons.inj same).1
      obtain ⟨new, apartRest⟩ := List.nodup_cons.mp apart
      have present : o'.name ∈ (store o xs).map (·.name) :=
        (mem_store_names o xs).mpr (.inr sameName.symm)
      change storeAll os' (store o' (storeAll os (store o xs))) = storeAll os' (store o' xs)
      rw [store_storeAll (sameName ▸ new) present, ih (List.cons.inj same).2 apartRest,
        store_store sameName]

/-- Objects of different names go to the end in their order, as far as their names are new. -/
theorem storeAll_names {os : List Object} (apart : (os.map (·.name)).Nodup) (xs : List Object) :
    (storeAll os xs).map (·.name) =
      xs.map (·.name) ++ (os.map (·.name)).filter (· ∉ xs.map (·.name)) := by
  induction os generalizing xs with
  | nil => exact (List.append_nil _).symm
  | cons o os ih =>
    obtain ⟨new, apartRest⟩ := List.nodup_cons.mp apart
    change (storeAll os (store o xs)).map (·.name) = _
    rw [ih apartRest, store_names, List.map_cons]
    by_cases old : o.name ∈ xs.map (·.name)
    · rw [if_pos old, List.filter_cons_of_neg (by simpa using old)]
    · rw [if_neg old, List.filter_cons_of_pos (by simpa using old), List.append_assoc]
      have later : (os.map (·.name)).filter (· ∉ xs.map (·.name) ++ [o.name]) =
          (os.map (·.name)).filter (· ∉ xs.map (·.name)) := by
        refine List.filter_congr fun n mem => ?_
        have other : n ≠ o.name := by
          rintro rfl
          exact new mem
        rw [decide_eq_decide, List.mem_append, List.mem_singleton, or_iff_left other]
      rw [later]
      rfl

/-- A stored object is found under its name, whatever was there. -/
theorem find?_storeAll {os : List Object} (apart : (os.map (·.name)).Nodup) (n : String)
    (xs : List Object) :
    (storeAll os xs).find? (·.name == n) =
      (os.find? (·.name == n)).or (xs.find? (·.name == n)) := by
  induction os generalizing xs with
  | nil => rfl
  | cons o os ih =>
    obtain ⟨new, apartRest⟩ := List.nodup_cons.mp apart
    change (storeAll os (store o xs)).find? (·.name == n) = _
    rw [ih apartRest, find?_store]
    by_cases same : o.name = n
    · have absent : os.find? (·.name == n) = none := find?_eq_none_iff_names.mpr (same ▸ new)
      rw [find?_cons_hit Object.name n same, absent, if_pos same.symm]
      rfl
    · rw [find?_cons_miss Object.name n same, if_neg (Ne.symm same)]

/-- Entries that stand there stay, but for the first ones of the stored names. -/
theorem getElem?_storeAll_other {os xs : List Object} {i : Nat} (inside : i < xs.length)
    (other : ∀ n ∈ os.map (·.name), ¬ StandsFirst n (xs.map (·.name)) i) :
      (storeAll os xs)[i]? = xs[i]? := by
  induction os generalizing xs with
  | nil => rfl
  | cons o os ih =>
    obtain ⟨here, behind⟩ := List.forall_mem_cons.mp other
    have longer : i < (store o xs).length := Nat.lt_of_lt_of_le inside (store_length_le o xs)
    have others : ∀ n ∈ os.map (·.name), ¬ StandsFirst n ((store o xs).map (·.name)) i := by
      intro n mem first
      refine behind n mem ?_
      rw [store_names] at first
      split at first
      · exact first
      · exact (standsFirst_append (by rw [List.length_map]; exact inside)).mp first
    change (storeAll os (store o xs))[i]? = _
    rw [ih longer others, getElem?_store_other inside here]

theorem modifyFirst_storeAll {n : String} {f : Object → Object} {os : List Object}
    (apart : n ∉ os.map (·.name)) (kept : ∀ x, (f x).name = x.name) (xs : List Object) :
    modifyFirst (·.name == n) f (storeAll os xs) =
      storeAll os (modifyFirst (·.name == n) f xs) := by
  induction os generalizing xs with
  | nil => rfl
  | cons o os ih =>
    rw [List.map_cons, List.mem_cons, not_or] at apart
    change modifyFirst (·.name == n) f (storeAll os (store o xs)) = _
    rw [ih apart.2, modifyFirst_store (Ne.symm apart.1) kept]
    rfl

theorem mem_store {o x : Object} {xs : List Object} (mem : x ∈ store o xs) : x ∈ xs ∨ x = o := by
  induction xs with
  | nil => exact .inr (List.mem_singleton.mp mem)
  | cons first rest ih =>
    by_cases hit : first.name = o.name
    · rw [store_cons_hit hit] at mem
      rcases List.mem_cons.mp mem with same | behind
      · exact .inr same
      · exact .inl (List.mem_cons_of_mem _ behind)
    · rw [store_cons_miss hit] at mem
      rcases List.mem_cons.mp mem with rfl | behind
      · exact .inl List.mem_cons_self
      · rcases ih behind with old | same
        · exact .inl (List.mem_cons_of_mem _ old)
        · exact .inr same

theorem mem_storeAll {x : Object} {os xs : List Object} (mem : x ∈ storeAll os xs) :
    x ∈ xs ∨ x ∈ os := by
  induction os generalizing xs with
  | nil => exact .inl mem
  | cons o os ih =>
    rcases ih mem with stored | later
    · rcases mem_store stored with old | same
      · exact .inl old
      · exact .inr (same ▸ List.mem_cons_self)
    · exact .inr (List.mem_cons_of_mem _ later)

end Store

end BotTypings
