import BotTypings.Proofs.Steps
import BotTypings.Schema.Loading

/-! The names of a loaded schema. The check looks for the first name that stood before, so it passes
exactly the schemas whose methods, and whose objects, have pairwise different names as they are
written. -/
namespace BotTypings

/-- A name is reported exactly when the names are not pairwise different from each other and from
those seen before. -/
theorem firstRepeated_eq_none {seen names : List String} :
    firstRepeated seen names = none ↔ names.Nodup ∧ ∀ name ∈ names, name ∉ seen := by
  induction names generalizing seen with
  | nil => exact ⟨fun _ => ⟨.nil, nofun⟩, fun _ => rfl⟩
  | cons name rest ih =>
    rw [firstRepeated, List.nodup_cons, List.forall_mem_cons]
    by_cases known : name ∈ seen
    · rw [if_pos known]
      constructor
      · intro impossible
        cases impossible
      · rintro ⟨_, new, _⟩
        exact absurd known new
    · rw [if_neg known, ih]
      constructor
      · rintro ⟨apart, new⟩
        refine ⟨⟨fun again => new name again List.mem_cons_self, apart⟩, known, fun other mem => ?_⟩
        exact fun old => new other mem (List.mem_cons_of_mem _ old)
      · rintro ⟨⟨once, apart⟩, _, new⟩
        refine ⟨apart, fun other mem => ?_⟩
        rw [List.mem_cons, not_or]
        exact ⟨fun same => once (same ▸ mem), new other mem⟩

/-- Only schemas whose names are pairwise different pass the check. -/
theorem Schema.checkNames_eq_ok (s : Schema) :
    s.checkNames = .ok () ↔ (s.methods.map (·.name)).Nodup ∧ (s.objects.map (·.name)).Nodup := by
  have unseen (names : List String) : firstRepeated [] names = none ↔ names.Nodup := by
    rw [firstRepeated_eq_none]
    exact ⟨fun apart => apart.1, fun apart => ⟨apart, nofun⟩⟩
  rw [checkNames, ← unseen, ← unseen]
  cases firstRepeated [] (s.methods.map (·.name)) with
  | some name =>
    constructor
    · intro impossible
      cases impossible
    · rintro ⟨impossible, _⟩
      cases impossible
  | none =>
    cases firstRepeated [] (s.objects.map (·.name)) with
    | some name =>
      constructor
      · intro impossible
        cases impossible
      · rintro ⟨_, impossible⟩
        cases impossible
    | none => exact ⟨fun _ => ⟨rfl, rfl⟩, fun _ => rfl⟩

theorem Schema.names_of_load {text : String} {s : Schema} (loaded : Schema.load text = .ok s) :
    (s.methods.map (·.name)).Nodup ∧ (s.objects.map (·.name)).Nodup := by
  obtain ⟨read, _, more⟩ := bind_eq_ok.mp loaded
  obtain ⟨checked, passed, same⟩ := bind_eq_ok.mp more
  cases same
  exact s.checkNames_eq_ok.mp passed

end BotTypings
