import BotTypings.Proofs.Patch.Outcome
import BotTypings.Proofs.Schema.Accepted
import BotTypings.Proofs.Schema.Rewriting

/-! Schemas that cannot be written. One thing alone keeps a schema from being written, a verbatim type
text somewhere in it, and it is always reported in the same words. The patches put such a text into
every schema, so what they leave is neither written nor ever loaded. -/
namespace BotTypings

open BotTypings.Json

/-- What is said about a verbatim type text. -/
def verbatimRefused : Mismatch := .unwritable "FieldType::Expression"

namespace FieldType

variable {e : Mismatch}

mutual

theorem members_eq_error : (t : FieldType) → t.members = .error e → e = verbatimRefused
  | expression _, failed => (Except.error.inj failed).symm
  | array element, failed => by
    rcases bind_eq_error.mp failed with inner | ⟨_, _, last⟩
    · exact members_eq_error element inner
    · cases last
  | anyOf variants, failed => by
    rcases bind_eq_error.mp failed with inner | ⟨_, _, last⟩
    · exact values_eq_error variants inner
    · cases last

theorem values_eq_error : (ts : List FieldType) → valuesOfAll ts = .error e → e = verbatimRefused
  | t :: ts, failed => by
    rcases bind_eq_error.mp failed with first | ⟨_, _, later⟩
    · exact members_eq_error t first
    · rcases bind_eq_error.mp later with others | ⟨_, _, last⟩
      · exact values_eq_error ts others
      · cases last

end

end FieldType

theorem Property.toValue_eq_error {p : Property} {e : Mismatch} (failed : p.toValue = .error e) :
    e = verbatimRefused := by
  rcases bind_eq_error.mp failed with kind | ⟨_, _, last⟩
  · exact p.kind.members_eq_error kind
  · cases last

theorem properties_eq_error {fields : List Property} {e : Mismatch}
    (failed : fields.mapM Property.toValue = .error e) : e = verbatimRefused := by
  obtain ⟨p, _, refused⟩ := exists_of_mapM_eq_error failed
  exact p.toValue_eq_error refused

theorem ObjectKind.members_eq_error {k : ObjectKind} {e : Mismatch} (failed : k.members = .error e) :
    e = verbatimRefused := by
  cases k with
  | properties fields =>
    rcases bind_eq_error.mp failed with inner | ⟨_, _, last⟩
    · exact properties_eq_error inner
    · cases last
  | anyOf variants =>
    rcases bind_eq_error.mp failed with inner | ⟨_, _, last⟩
    · exact FieldType.values_eq_error variants inner
    · cases last
  | unknown => cases failed

theorem Object.toValue_eq_error {o : Object} {e : Mismatch} (failed : o.toValue = .error e) :
    e = verbatimRefused := by
  rcases bind_eq_error.mp failed with kind | ⟨_, _, last⟩
  · exact o.kind.members_eq_error kind
  · cases last

theorem Method.toValue_eq_error {m : Method} {e : Mismatch} (failed : m.toValue = .error e) :
    e = verbatimRefused := by
  rcases bind_eq_error.mp failed with parameters | ⟨_, _, later⟩
  · exact properties_eq_error parameters
  · rcases bind_eq_error.mp later with returns | ⟨_, _, last⟩
    · exact m.returns.members_eq_error (map_eq_error.mp returns)
    · cases last

theorem Schema.toValue_eq_error {s : Schema} {e : Mismatch} (failed : s.toValue = .error e) :
    e = verbatimRefused := by
  rcases bind_eq_error.mp failed with methods | ⟨_, _, later⟩
  · obtain ⟨m, _, refused⟩ := exists_of_mapM_eq_error methods
    exact m.toValue_eq_error refused
  · rcases bind_eq_error.mp later with objects | ⟨_, _, last⟩
    · obtain ⟨o, _, refused⟩ := exists_of_mapM_eq_error objects
      exact o.toValue_eq_error refused
    · cases last

theorem Schema.write_eq_error_iff {s : Schema} {e : Mismatch} :
    s.write = .error e ↔ e = verbatimRefused ∧ ∃ text, .expression text ∈ s.fieldTypes := by
  rw [write, map_eq_error]
  constructor
  · intro failed
    refine ⟨s.toValue_eq_error failed, ?_⟩
    by_contra none
    obtain ⟨v, written⟩ := s.writable_iff.mpr (not_exists.mp none)
    cases failed.symm.trans written
  · rintro ⟨rfl, text, part⟩
    cases written : s.toValue with
    | error e => rw [s.toValue_eq_error written]
    | ok v => exact absurd part (s.writable_iff.mp ⟨v, written⟩ text)

/-- The envelope of a successful answer says its result verbatim. -/
theorem Schema.amended_verbatim (options : PatchOptions) (s : Schema) :
    .expression "APIMethodReturn<Method>" ∈ (s.amended options).fieldTypes := by
  have found : (s.amended options).objects.find? (·.name == responseOkObject) =
      some okEnvelope := by
    rw [amended_objects, find?_modifyFirst_other Object.name inputFileObject responseOkObject
      (by decide) Object.asBlob_name]
    change (store eitherEnvelope (store errorEnvelope (store okEnvelope _))).find? _ = _
    have same : responseOkObject = okEnvelope.name := rfl
    rw [find?_store, if_neg (by decide), find?_store, if_neg (by decide), find?_store, if_pos same]
  refine List.mem_append_right _ (List.mem_flatMap.mpr ⟨okEnvelope, ?_, ?_⟩)
  · exact List.mem_of_find?_eq_some found
  · simp [okEnvelope, ObjectKind.parts, FieldType.parts]

theorem Schema.described_of_load {text : String} {s : Schema} (loaded : Schema.load text = .ok s) :
    FieldType.Described s.fieldTypes := by
  obtain ⟨read, given, more⟩ := bind_eq_ok.mp loaded
  obtain ⟨_, _, same⟩ := bind_eq_ok.mp more
  cases same
  obtain ⟨root, _⟩ := readText_eq_ok_iff.mp (mapError_eq_ok.mp given)
  exact (Schema.described root).1

/-- Writing fails exactly where a verbatim type text is reached, whatever else the schema holds. No
patched schema is ever written, then, and none comes out of a text. -/
theorem Schema.write_refused :
    (∀ (s : Schema) (e : Mismatch), s.write = .error e ↔
      e = .unwritable "FieldType::Expression" ∧ ∃ text, .expression text ∈ s.fieldTypes) ∧
    ∀ (s t : Schema) (options : PatchOptions), s.patched options = .ok t →
      t.write = .error (.unwritable "FieldType::Expression") ∧
        ∀ text, Schema.load text ≠ .ok t := by
  refine ⟨fun s e => write_eq_error_iff, fun s t options done => ?_⟩
  have verbatim := s.amended_verbatim options
  rw [← eq_amended done] at verbatim
  refine ⟨write_eq_error_iff.mpr ⟨rfl, _, verbatim⟩, fun text loaded => ?_⟩
  exact described_of_load loaded _ verbatim

theorem Schema.forum_portable : (forum []).Portable := by
  constructor
  · decide
  · decide
  · simp [forum, fieldTypes, Method.parts, ObjectKind.parts, FieldType.parts,
      FieldType.plainString, FieldType.plainInteger]
  · simp [forum]
  · simp [FieldType.FloatsBare, forum, fieldTypes, Method.parts, ObjectKind.parts,
      FieldType.parts, FieldType.plainString, FieldType.plainInteger]
  · intro v written
    cases written
    decide

theorem Schema.forum_loaded :
    ∃ text, (forum []).write = .ok text ∧ Schema.load text = .ok (forum []) := by
  obtain ⟨v, written⟩ := (forum []).writable_iff.mpr forum_portable.noExpression
  exact ⟨v.compact, by rw [write, written]; rfl, forum_portable.load_compact written⟩

/-- The schema itself is written and comes back; what the patches make of it does neither. -/
theorem Schema.forum_write_refused :
    ∃ t, (∃ text, (forum []).write = .ok text ∧ Schema.load text = .ok (forum [])) ∧
      (forum []).patched ⟨["EUR"]⟩ = .ok t ∧
      t.write = .error (.unwritable "FieldType::Expression") ∧ ∀ text, Schema.load text ≠ .ok t := by
  have done := forum_patched [] "EUR" []
  exact ⟨_, forum_loaded, done, write_refused.2 _ _ _ done⟩

end BotTypings
