import BotTypings.Proofs.Patch.Outcome

/-! Patches at work on a schema that they are handed by reference. What such work has written before
it fails stays written, so nothing here takes a failure back. Still a call that fails leaves the schema
as it found it, because every patch looks for all that it needs before it writes anything; and no call
of a patch changes what the others find. -/
namespace BotTypings

/-- Work on a schema in place. A failure keeps the schema that it happened in. -/
abbrev InPlace := EStateM PatchError Schema

namespace InPlace

/-- What the schema holds as it stands, or a failure because it is missing. -/
def need {α : Type} (find? : Schema → Option α) (missing : PatchError) : InPlace α := do
  match find? (← get) with
  | some x => return x
  | none => throw missing

def method (name : String) : InPlace Method := need (·.method? name) (.missingMethod name)

def object (name : String) : InPlace Object := need (·.object? name) (.missingObject name)

def storeAll : List Object → InPlace Unit
  | [] => return
  | o :: os => do
    modify (·.upsertObject o)
    storeAll os

/-- Methods in turn, each given the named type as its result. -/
def fixReturns : List (String × String) → InPlace Unit
  | [] => return
  | (name, target) :: fixes => do
    let _ ← method name
    modify (·.modifyMethod name ({ · with returns := .reference target }))
    fixReturns fixes

end InPlace

structure Procedure where
  name : String
  work : PatchOptions → InPlace Unit

namespace Procedure

def currencies : Procedure where
  name := "currencies"
  work options := do
    if options.currencies.isEmpty then throw .noCurrencies
    modify (·.upsertObject (currencyUnion options.currencies))

def envelopes : Procedure where
  name := "response_envelopes"
  work _ := InPlace.storeAll [okEnvelope, errorEnvelope, eitherEnvelope]

def inputFile : Procedure where
  name := "input_file"
  work _ := do
    let _ ← InPlace.object inputFileObject
    modify (·.modifyObject inputFileObject Object.asBlob)

def iconColor : Procedure where
  name := "icon_color"
  work _ := do
    let m ← InPlace.method iconColorMethod
    let some p := m.parameter? iconColorParameter
      | throw (.missingParameter iconColorMethod iconColorParameter)
    let colors := Color.scrape p.description.toList
    if colors.isEmpty then
      throw (.patternNotFound (iconColorMethod ++ "." ++ iconColorParameter) Color.pattern)
    modify (·.modifyMethod iconColorMethod (Method.modifyParameter iconColorParameter
      ({ · with kind := .integer colors none none none })))

def returnTypes : Procedure where
  name := "return_types"
  work _ := InPlace.fixReturns [(menuButtonMethod, "MenuButton")]

def all : List Procedure := [currencies, envelopes, inputFile, iconColor, returnTypes]

/-- The patch that says what the work comes to, and of a failure only why it failed. -/
def patch (p : Procedure) : Patch where
  name := p.name
  run options s :=
    match p.work options s with
    | .ok _ t => .ok t
    | .error e _ => .error e

end Procedure

/-- The work that writes the outcome of a patch, and nothing when the patch fails. -/
def Patch.written (q : Patch) : Procedure where
  name := q.name
  work options s :=
    match q.run options s with
    | .ok t => .ok () t
    | .error e => .error e s

theorem Procedure.eq_of_work {p q : Procedure} (name : p.name = q.name)
    (work : ∀ options s, p.work options s = q.work options s) : p = q := by
  obtain ⟨_, p⟩ := p
  obtain ⟨_, q⟩ := q
  cases name
  have same : p = q := funext fun options => funext fun s => work options s
  rw [same]

theorem Patch.patch_written (q : Patch) : q.written.patch = q := by
  refine eq_of_run rfl fun options s => ?_
  simp only [Procedure.patch, written]
  cases q.run options s <;> rfl

namespace InPlace

theorem bind_eq {α β : Type} (w : InPlace α) (next : α → InPlace β) (s : Schema) :
    (w >>= next) s =
      match w s with
      | .ok a t => next a t
      | .error e t => .error e t := by
  simp only [bind, EStateM.bind]
  cases w s <;> rfl

theorem get_eq (s : Schema) : (get : InPlace Schema) s = .ok s s := rfl

theorem need_eq {α : Type} (find? : Schema → Option α) (missing : PatchError) (s : Schema) :
    need find? missing s =
      match find? s with
      | some x => .ok x s
      | none => .error missing s := by
  simp only [need, bind_eq, get_eq]
  cases find? s <;> rfl

end InPlace

namespace Procedure

theorem currencies_eq : currencies = addCurrencies.written := by
  refine eq_of_work rfl fun options s => ?_
  simp only [currencies, Patch.written, addCurrencies]
  cases options.currencies <;> rfl

theorem inputFile_eq : inputFile = correctInputFile.written := by
  refine eq_of_work rfl fun options s => ?_
  simp only [inputFile, Patch.written, correctInputFile, InPlace.bind_eq, InPlace.object,
    InPlace.need_eq]
  cases s.object? inputFileObject <;> rfl

theorem iconColor_eq : iconColor = correctIconColor.written := by
  refine eq_of_work rfl fun options s => ?_
  simp only [iconColor, Patch.written, correctIconColor, InPlace.bind_eq, InPlace.method,
    InPlace.need_eq]
  cases s.method? iconColorMethod with
  | none => rfl
  | some m =>
    cases parameter : m.parameter? iconColorParameter with
    | none => simp only [parameter]; rfl
    | some p =>
      simp only [parameter]
      cases Color.scrape p.description.toList <;> rfl

theorem returnTypes_eq : returnTypes = correctReturnTypes.written := by
  refine eq_of_work rfl fun options s => ?_
  simp only [returnTypes, Patch.written, correctReturnTypes, InPlace.fixReturns, InPlace.bind_eq,
    InPlace.method, InPlace.need_eq]
  cases s.method? menuButtonMethod <;> rfl

/-- In the work of each patch all that can fail stands before all that writes. -/
theorem all_eq : all = patches.map Patch.written := by
  have envelopes : envelopes = addEnvelopes.written := eq_of_work rfl fun _ _ => rfl
  rw [all, currencies_eq, envelopes, inputFile_eq, iconColor_eq, returnTypes_eq]
  rfl

theorem all_patches : all.map patch = patches := by
  simp [all_eq, Function.comp_def, Patch.patch_written]

end Procedure

structure Call where
  procedure : Procedure
  known : procedure ∈ Procedure.all
  options : PatchOptions

namespace Call

def failure? (c : Call) (s : Schema) : Option PatchError :=
  match c.procedure.work c.options s with
  | .ok _ _ => none
  | .error e _ => some e

/-- The schema that the call leaves, whether or not it succeeds. -/
def left (c : Call) (s : Schema) : Schema :=
  match c.procedure.work c.options s with
  | .ok _ t => t
  | .error _ t => t

end Call

def Schema.afterCalls (s : Schema) (calls : List Call) : Schema := calls.foldl (fun t c => c.left t) s

/-- The calls of a run that succeed where they stand in it. -/
def succeeding (s : Schema) : List Call → List Call
  | [] => []
  | c :: calls =>
    if (c.failure? s).isNone then c :: succeeding (c.left s) calls
    else succeeding (c.left s) calls

namespace Call

variable (c : Call) (s : Schema)

theorem exists_amendment : ∃ a ∈ Amendment.all, c.procedure = a.patch.written := by
  have known := c.known
  simp only [Procedure.all_eq, patches_eq, List.map_map, List.mem_map, Function.comp_apply] at known
  obtain ⟨a, mem, same⟩ := known
  exact ⟨a, mem, same.symm⟩

/-- Whether a call fails is decided by what the schema is asked for, and a failure changes nothing. -/
theorem outcome_eq : ∃ a ∈ Amendment.all,
    c.failure? s = a.refusal? c.options s.findings ∧
      c.left s = if (c.failure? s).isNone then a.change c.options s else s := by
  obtain ⟨a, mem, same⟩ := c.exists_amendment
  refine ⟨a, mem, ?_⟩
  simp only [failure?, left, same, Patch.written, Amendment.patch]
  cases a.refusal? c.options s.findings <;> simp

theorem left_of_failure {e : PatchError} (failed : c.failure? s = some e) : c.left s = s := by
  obtain ⟨a, _, _, left⟩ := c.outcome_eq s
  simp [left, failed]

theorem findings_left : (c.left s).findings = s.findings := by
  obtain ⟨a, mem, _, left⟩ := c.outcome_eq s
  rw [left]
  split
  · exact a.findings_change mem c.options s
  · rfl

theorem failure?_congr {t : Schema} (alike : t.findings = s.findings) :
    c.failure? t = c.failure? s := by
  obtain ⟨a, mem, same⟩ := c.exists_amendment
  simp only [failure?, same, Patch.written, Amendment.patch, alike]
  cases a.refusal? c.options s.findings <;> rfl

/-- What is said of a call at large, that it leaves the schema of a success and keeps it otherwise, is
what the work in place does. -/
theorem call_eq : c.procedure.patch.call c.options s = (c.left s, c.failure? s) := by
  have kept := fun e => c.left_of_failure s (e := e)
  simp only [left, failure?, Patch.call, Procedure.patch] at kept ⊢
  cases outcome : c.procedure.work c.options s with
  | ok _ t => rfl
  | error e t =>
    have same : t = s := by simpa [outcome] using kept e
    rw [same]

end Call

theorem Schema.findings_afterCalls (s : Schema) (calls : List Call) :
    (s.afterCalls calls).findings = s.findings := by
  induction calls generalizing s with
  | nil => rfl
  | cons c calls ih => exact (ih (c.left s)).trans (c.findings_left s)

theorem Schema.afterCalls_succeeding (s : Schema) (calls : List Call) :
    s.afterCalls (succeeding s calls) = s.afterCalls calls := by
  induction calls generalizing s with
  | nil => rfl
  | cons c calls ih =>
    cases failed : c.failure? s with
    | none =>
      simp only [succeeding, failed, Option.isNone_none, if_true]
      exact ih (c.left s)
    | some e =>
      have kept := c.left_of_failure s failed
      simp only [succeeding, failed, kept, Option.isNone_some, Bool.false_eq_true, if_false]
      exact (ih s).trans (congrArg (fun t => Schema.afterCalls t calls) kept.symm)

/-- A patch that fails leaves the schema that it was handed as it was, so a run of calls comes to the
same without those that failed in it; and at every point of a run each patch succeeds or fails as it
would have done at the start. -/
theorem Schema.calls_leave_no_trace (s : Schema) :
    Procedure.all.map Procedure.patch = patches ∧
      (∀ c : Call, c.procedure.patch.call c.options s = (c.left s, c.failure? s)) ∧
      (∀ (c : Call) e, c.failure? s = some e → c.left s = s) ∧
      (∀ calls, s.afterCalls (succeeding s calls) = s.afterCalls calls) ∧
      ∀ calls (c : Call), c.failure? (s.afterCalls calls) = c.failure? s :=
  ⟨Procedure.all_patches, fun c => c.call_eq s, fun c _ => c.left_of_failure s,
    s.afterCalls_succeeding, fun calls c => c.failure?_congr s (s.findings_afterCalls calls)⟩

/-- A schema without the object of uploaded files: of four calls the second and the last one succeed,
and the failure of the third is the same behind all of them. -/
theorem Schema.calls_leave_no_trace_fileless :
    ∃ (s : Schema) (uploads : Call) (calls : List Call),
      uploads.failure? s = some (.missingObject "InputFile") ∧ uploads.left s = s ∧
      calls.length = 4 ∧ (succeeding s calls).map (·.procedure.name) =
        ["response_envelopes", "currencies"] ∧
      s.afterCalls (succeeding s calls) = s.afterCalls calls ∧
      uploads.failure? (s.afterCalls calls) = some (.missingObject "InputFile") := by
  let s : Schema := { forum [] with objects := [] }
  let currencies (codes : List String) : Call := ⟨.currencies, by simp [Procedure.all], ⟨codes⟩⟩
  let envelopes : Call := ⟨.envelopes, by simp [Procedure.all], ⟨[]⟩⟩
  let uploads : Call := ⟨.inputFile, by simp [Procedure.all], ⟨[]⟩⟩
  let calls := [currencies [], envelopes, uploads, currencies ["EUR"]]
  obtain ⟨_, _, kept, deleted, alike⟩ := s.calls_leave_no_trace
  have failed : uploads.failure? s = some (.missingObject "InputFile") := rfl
  exact ⟨s, uploads, calls, failed, kept uploads _ failed, rfl, rfl, deleted calls,
    (alike calls uploads).trans failed⟩

end BotTypings
