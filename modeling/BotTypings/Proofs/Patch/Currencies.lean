import BotTypings.Proofs.Patch.Frame
import BotTypings.Proofs.Patch.Refusals

/-! What the currency codes decide. Two lists that hold some code each are refused alike, and the
schemas that they give differ in one object alone: storing the union of the second list into what the
first one gave is the same as starting with the second one. -/
namespace BotTypings

/-- The schemas are equal but for the first object that bears the name of the currencies. -/
structure Schema.SameButCurrencies (t u : Schema) : Prop where
  version : t.version = u.version
  released : t.released = u.released
  methods : t.methods = u.methods
  objectNames : t.objects.map (·.name) = u.objects.map (·.name)
  object : ∀ i, ¬ StandsFirst currenciesObject (t.objects.map (·.name)) i →
    t.objects[i]? = u.objects[i]?

/-- Both runs fail with one error, or both succeed and only the currencies differ. -/
inductive AgreeButCurrencies : Except PatchError Schema → Except PatchError Schema → Prop
  | refused (e : PatchError) : AgreeButCurrencies (.error e) (.error e)
  | patched {t u : Schema} (same : t.SameButCurrencies u) : AgreeButCurrencies (.ok t) (.ok u)

theorem AgreeButCurrencies.error {e : PatchError} {result : Except PatchError Schema}
    (agree : AgreeButCurrencies (.error e) result) : result = .error e := by
  cases agree
  rfl

theorem AgreeButCurrencies.ok {t : Schema} {result : Except PatchError Schema}
    (agree : AgreeButCurrencies (.ok t) result) : ∃ u, result = .ok u := by
  cases agree
  exact ⟨_, rfl⟩

/-- A stored object that replaces another one changes nothing but the place of that one. -/
theorem Schema.sameButCurrencies_upsertObject {o : Object} (named : o.name = currenciesObject)
    {t : Schema} (present : currenciesObject ∈ t.objects.map (·.name)) :
    t.SameButCurrencies (t.upsertObject o) := by
  rw [upsertObject_eq]
  have names : (store o t.objects).map (·.name) = t.objects.map (·.name) := by
    rw [store_names, named, if_pos present]
  refine ⟨rfl, rfl, rfl, names.symm, fun i other => ?_⟩
  by_cases inside : i < t.objects.length
  · exact (getElem?_store_other inside (named ▸ other)).symm
  · have same := congrArg List.length names
    simp only [List.length_map] at same
    have outside : t.objects.length ≤ i := by omega
    have outsideToo : (store o t.objects).length ≤ i := by omega
    rw [List.getElem?_eq_none outside, List.getElem?_eq_none outsideToo]

/-- Of two lists of codes only the later one leaves something. -/
theorem Schema.amended_again (first second : List String) (s : Schema) :
    s.amended ⟨second⟩ = (s.amended ⟨first⟩).upsertObject (currencyUnion second) := by
  let envelopes := [okEnvelope, errorEnvelope, eitherEnvelope]
  have apart : (currencyUnion second).name ∉ envelopes.map (·.name) :=
    (by decide : currenciesObject ∉ envelopes.map (·.name))
  have other : (currencyUnion second).name ≠ inputFileObject :=
    (by decide : currenciesObject ≠ inputFileObject)
  have present : (currencyUnion second).name ∈
      (store (currencyUnion first) s.objects).map (·.name) :=
    (mem_store_names _ _).mpr (.inr rfl)
  have stored : store (currencyUnion second) (storeAll (additions first) s.objects) =
      storeAll (additions second) s.objects := by
    -- The second union passes the envelopes, because the first one has made its place.
    change store _ (storeAll envelopes (store (currencyUnion first) s.objects)) =
      storeAll envelopes (store (currencyUnion second) s.objects)
    have sameName : (currencyUnion first).name = (currencyUnion second).name := rfl
    rw [store_storeAll apart present, store_store sameName]
  rw [upsertObject_eq, amended_eq, amended_eq, ← modifyFirst_store other Object.asBlob_name, stored]

/-- What patches ask of a list of codes is that it is not empty. -/
theorem refusalOf?_given {first second : List String} (given : first ≠ []) (givenToo : second ≠ [])
    (found : Findings) :
    refusalOf? ⟨first⟩ Amendment.all found = refusalOf? ⟨second⟩ Amendment.all found := by
  rw [refusalOf?_all, refusalOf?_all, if_neg given, if_neg givenToo]

theorem Schema.patched_agree {first second : List String} (given : first ≠ [])
    (givenToo : second ≠ []) (s : Schema) :
    AgreeButCurrencies (s.patched ⟨first⟩) (s.patched ⟨second⟩) := by
  rw [patched_eq, patched_eq, refusalOf?_given given givenToo]
  cases refusalOf? ⟨second⟩ Amendment.all s.findings with
  | some e => exact .refused e
  | none =>
    refine .patched ?_
    rw [amended_again first second]
    exact sameButCurrencies_upsertObject rfl (mem_amended_names.mpr (.inr (by decide)))

end BotTypings
