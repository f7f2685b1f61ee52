/-! Chains of steps that can fail. A chain gives an answer exactly when each of its steps does, and
a list of steps exactly when every one of them does. -/
namespace BotTypings

variable {ε α β : Type}

theorem bind_eq_ok {x : Except ε α} {f : α → Except ε β} {y : β} :
    x >>= f = .ok y ↔ ∃ a, x = .ok a ∧ f a = .ok y := by
  cases x with
  | error e =>
    constructor
    · intro failed
      cases failed
    · rintro ⟨a, impossible, _⟩
      cases impossible
  | ok a =>
    constructor
    · intro answer
      exact ⟨a, rfl, answer⟩
    · rintro ⟨b, same, answer⟩
      cases same
      exact answer

theorem bind_eq_error {x : Except ε α} {f : α → Except ε β} {e : ε} :
    x >>= f = .error e ↔ x = .error e ∨ ∃ a, x = .ok a ∧ f a = .error e := by
  cases x with
  | error e' =>
    constructor
    · intro failed
      cases failed
      exact .inl rfl
    · rintro (failed | ⟨a, impossible, _⟩)
      · cases failed
        rfl
      · cases impossible
  | ok a =>
    constructor
    · intro failed
      exact .inr ⟨a, rfl, failed⟩
    · rintro (impossible | ⟨b, same, failed⟩)
      · cases impossible
      · cases same
        exact failed

/-- A last step that cannot fail. -/
theorem exists_bind_pure_eq_ok {x : Except ε α} (f : α → β) :
    (∃ y, (x >>= fun a => pure (f a)) = .ok y) ↔ ∃ a, x = .ok a := by
  constructor
  · rintro ⟨y, answer⟩
    obtain ⟨a, given, _⟩ := bind_eq_ok.mp answer
    exact ⟨a, given⟩
  · rintro ⟨a, rfl⟩
    exact ⟨f a, rfl⟩

theorem map_eq_ok {x : Except ε α} {f : α → β} {y : β} :
    x.map f = .ok y ↔ ∃ a, x = .ok a ∧ f a = y := by
  cases x <;> simp [Except.map]

theorem map_eq_error {x : Except ε α} {f : α → β} {e : ε} : x.map f = .error e ↔ x = .error e := by
  cases x <;> simp [Except.map]

/-- Only the words of a failure change. -/
theorem mapError_eq_ok {ζ : Type} {f : ε → ζ} {x : Except ε α} {y : α} :
    x.mapError f = .ok y ↔ x = .ok y := by
  cases x with
  | error e =>
    constructor
    · intro done
      cases (done : Except.error (f e) = .ok y)
    · intro done
      cases done
  | ok z =>
    constructor
    · intro done
      cases (done : (Except.ok z : Except ζ α) = .ok y)
      rfl
    · intro done
      cases done
      rfl

theorem mapM_cons_eq_ok {f : α → Except ε β} {x : α} {xs : List α} {out : List β} :
    (x :: xs).mapM f = .ok out ↔ ∃ y ys, f x = .ok y ∧ xs.mapM f = .ok ys ∧ out = y :: ys := by
  rw [List.mapM_cons, bind_eq_ok]
  constructor
  · rintro ⟨y, first, rest⟩
    obtain ⟨ys, others, same⟩ := bind_eq_ok.mp rest
    cases same
    exact ⟨y, ys, first, others, rfl⟩
  · rintro ⟨y, ys, first, others, rfl⟩
    exact ⟨y, first, bind_eq_ok.mpr ⟨ys, others, rfl⟩⟩

theorem exists_of_mapM_eq_error {f : α → Except ε β} {xs : List α} {e : ε}
    (failed : xs.mapM f = .error e) : ∃ x ∈ xs, f x = .error e := by
  induction xs with
  | nil => cases failed
  | cons x xs ih =>
    rw [List.mapM_cons] at failed
    rcases bind_eq_error.mp failed with first | ⟨_, _, later⟩
    · exact ⟨x, List.mem_cons_self, first⟩
    · rcases bind_eq_error.mp later with others | ⟨_, _, last⟩
      · obtain ⟨y, mem, refused⟩ := ih others
        exact ⟨y, List.mem_cons_of_mem _ mem, refused⟩
      · cases last

theorem exists_mapM_eq_ok {f : α → Except ε β} (xs : List α) :
    (∃ ys, xs.mapM f = .ok ys) ↔ ∀ x ∈ xs, ∃ y, f x = .ok y := by
  induction xs with
  | nil => exact ⟨fun _ _ none => (nomatch none), fun _ => ⟨[], rfl⟩⟩
  | cons x xs ih =>
    rw [List.forall_mem_cons, ← ih]
    constructor
    · rintro ⟨out, answer⟩
      obtain ⟨y, ys, first, others, _⟩ := mapM_cons_eq_ok.mp answer
      exact ⟨⟨y, first⟩, ⟨ys, others⟩⟩
    · rintro ⟨⟨y, first⟩, ⟨ys, others⟩⟩
      exact ⟨y :: ys, mapM_cons_eq_ok.mpr ⟨y, ys, first, others, rfl⟩⟩

theorem exists_of_mem_mapM {f : α → Except ε β} {xs : List α} {out : List β}
    (answer : xs.mapM f = .ok out) {y : β} (mem : y ∈ out) : ∃ x ∈ xs, f x = .ok y := by
  induction xs generalizing out with
  | nil =>
    cases answer
    cases mem
  | cons x xs ih =>
    obtain ⟨z, zs, first, others, rfl⟩ := mapM_cons_eq_ok.mp answer
    rcases List.mem_cons.mp mem with rfl | behind
    · exact ⟨x, List.mem_cons_self, first⟩
    · obtain ⟨x, inner, given⟩ := ih others behind
      exact ⟨x, List.mem_cons_of_mem _ inner, given⟩

end BotTypings
