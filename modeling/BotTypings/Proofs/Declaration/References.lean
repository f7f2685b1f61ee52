import BotTypings.Proofs.Declaration.Declared
import BotTypings.Proofs.Declaration.Names
import BotTypings.Proofs.Patch.References
import BotTypings.Proofs.TypeText.Pieces

/-! The names of objects that the modules write, and where they are declared. A module is taken apart
into pieces like the type texts in it; every name among the pieces is the target of a reference of the
schema or the uploaded file, so it is declared with the objects as soon as the schema is closed. -/
namespace BotTypings

open BotTypings.Text

def Member.pieces (member : Member) (type : List Piece) : List Piece :=
  .plain (Documentation.block "\t" member.doc ++
    "\t" ++ member.name ++ (if member.isOptional then "?" else "") ++ ": ") :: type ++ [.plain "\n"]

def interfacePieces (name : String) (members : List (List Piece)) : List Piece :=
  match members with
  | [] => [.plain ("export interface " ++ name ++ " \x7b\x7d\n")]
  | members => .plain ("export interface " ++ name ++ " \x7b\n") :: members.flatten ++ [.plain "\x7d\n"]

/-- The type texts of a declaration. -/
def Shape.types : Shape → List String
  | .union text => [text]
  | .interface members => members.map (·.type)

/-- A declaration with the pieces of its type texts. -/
def Declaration.pieces (d : Declaration) (types : List (List Piece)) : List Piece :=
  .plain (String.join (d.aliases.map Alias.render) ++ Documentation.block "" d.doc) ::
    match d.shape with
    | .union _ =>
      .plain ("export type " ++ d.name ++ d.generics ++ " = ") :: types.flatten ++ [.plain "\n"]
    | .interface members =>
      interfacePieces (d.name ++ d.generics) (List.zipWith Member.pieces members types)

def Object.typePieces (m : Mapper) (o : Object) : List (List Piece) :=
  match o.kind with
  | .anyOf variants => [m.pieces o.owner .anonymous (.anyOf variants)]
  | .properties properties => properties.map fun p => m.pieces o.owner p.slot p.kind
  | .unknown => []

def Method.typePieces (m : Mapper) (method : Method) : List (List Piece) :=
  method.parameters.map fun p => m.pieces method.owner p.slot p.kind

def Method.signaturePieces (m : Mapper) (method : Method) : List Piece :=
  let returns := m.pieces method.owner .anonymous method.returns
  let params := paramsNamespace ++ "." ++ paramsName method.name
  match method.paramsShape with
  | .none => .plain "CallAPIWithoutParams<" :: returns ++ [.plain ">"]
  | .optional =>
    .plain ("CallAPIWithOptionalParams<" ++ params ++ ", ") :: returns ++ [.plain ">"]
  | .required => .plain ("CallAPI<" ++ params ++ ", ") :: returns ++ [.plain ">"]

def Module.pieces (m : Mapper) (s : Schema) : Module → List Piece
  | objects =>
    joinedPieces "\n" (s.objects.map fun o => (o.declaration m).pieces (o.typePieces m))
  | params =>
    joinedPieces "\n" ((s.methods.filter (!·.parameters.isEmpty)).map fun method =>
      (method.paramsDeclaration m).pieces (method.typePieces m))
  | methods =>
    interfacePieces methodsInterface (s.methods.map fun method =>
      (method.member m).pieces (method.signaturePieces m))
  | utils => [.plain utilsText]
  | index => [.plain indexText]

/-- What the names in a module are written for. -/
def Module.scope : Module → Scope
  | objects => .objects
  | params | methods | utils | index => .methods

section

variable {m : Mapper} {scope : Scope}

theorem Member.render_pieces {member : Member} {type : List Piece}
    (same : renderPieces m scope type = member.type) :
    renderPieces m scope (member.pieces type) = member.render := by
  simp [pieces, render, same, String.append_assoc]

theorem renderPieces_flatten (parts : List (List Piece)) :
    renderPieces m scope parts.flatten = String.join (parts.map (renderPieces m scope)) := by
  induction parts with
  | nil => rfl
  | cons part parts ih => simp [String.join_cons, ih]

theorem render_interfacePieces (name : String) {parts : List (List Piece)} {members : List Member}
    (same : parts.map (renderPieces m scope) = members.map Member.render) :
    renderPieces m scope (interfacePieces name parts) = interfaceText name members := by
  cases parts with
  | nil =>
    have none : members = [] := List.map_eq_nil_iff.mp same.symm
    rw [none]
    exact renderPieces_plain m scope _
  | cons part parts =>
    cases members with
    | nil => cases same
    | cons member members =>
      have opened : interfacePieces name (part :: parts) =
          .plain ("export interface " ++ name ++ " \x7b\n") ::
            ((part :: parts).flatten ++ [.plain "\x7d\n"]) := rfl
      have written : interfaceText name (member :: members) =
          "export interface " ++ name ++ " \x7b\n" ++
            String.join ((member :: members).map Member.render) ++ "\x7d\n" := rfl
      rw [opened, written, renderPieces_cons, renderPieces_append, renderPieces_flatten, same]
      simp [String.append_assoc]

theorem render_zipWith_pieces {members : List Member} {types : List (List Piece)}
    (same : types.map (renderPieces m scope) = members.map (·.type)) :
    (List.zipWith Member.pieces members types).map (renderPieces m scope) =
      members.map Member.render := by
  induction members generalizing types with
  | nil => simp
  | cons member members ih =>
    cases types with
    | nil => cases same
    | cons type types =>
      obtain ⟨here, behind⟩ := List.cons.inj same
      simp [Member.render_pieces here, ih behind]

theorem Declaration.render_pieces {d : Declaration} {types : List (List Piece)}
    (same : types.map (renderPieces m scope) = d.shape.types) :
    renderPieces m scope (d.pieces types) = d.render := by
  unfold pieces render
  cases shape : d.shape with
  | union text =>
    rw [shape] at same
    have only : renderPieces m scope types.flatten = text := by
      simp [renderPieces_flatten, same, Shape.types, String.join_cons]
    simp [only, String.append_assoc]
  | interface members =>
    rw [shape] at same
    simp [render_interfacePieces _ (render_zipWith_pieces same)]

end

section

variable (m : Mapper)

theorem render_propertyPieces (owner : Owner) (properties : List Property) :
    (properties.map fun p => m.pieces owner p.slot p.kind).map (renderPieces m owner.scope) =
      (properties.map (Property.member m owner)).map (·.type) := by
  simp [Property.member, Mapper.render_pieces]

theorem Object.render_typePieces (o : Object) :
    (o.typePieces m).map (renderPieces m .objects) = (o.declaration m).shape.types := by
  change _ = (o.shape m).types
  unfold typePieces shape
  cases o.kind with
  | properties properties => exact render_propertyPieces m o.owner properties
  | anyOf variants =>
    have whole := m.render_pieces o.owner .anonymous (.anyOf variants)
    exact congrArg (fun text => [text]) whole
  | unknown => rfl

theorem Method.render_signaturePieces (method : Method) :
    renderPieces m .methods (method.signaturePieces m) = method.signature m := by
  have returns : renderPieces m .methods (m.pieces method.owner .anonymous method.returns) =
      m.text method.owner .anonymous method.returns :=
    m.render_pieces method.owner .anonymous method.returns
  unfold signaturePieces signature
  cases method.paramsShape <;> simp [returns, String.append_assoc]

/-- The pieces of a module are its body, whole and in order. -/
theorem Module.render_pieces (s : Schema) (module : Module) :
    renderPieces m module.scope (module.pieces m s) = module.body m s := by
  cases module with
  | objects =>
    have each (o : Object) : renderPieces m .objects ((o.declaration m).pieces (o.typePieces m)) =
        (o.declaration m).render :=
      Declaration.render_pieces (o.render_typePieces m)
    simp [pieces, scope, body, objectsText, renderAll, render_joinedPieces, Function.comp_def, each]
  | params =>
    have each (method : Method) :
        renderPieces m .methods ((method.paramsDeclaration m).pieces (method.typePieces m)) =
          (method.paramsDeclaration m).render :=
      Declaration.render_pieces (render_propertyPieces m method.owner method.parameters)
    simp [pieces, scope, body, paramsText, renderAll, render_joinedPieces, Function.comp_def, each]
  | methods =>
    have each (method : Method) :
        renderPieces m .methods ((method.member m).pieces (method.signaturePieces m)) =
          (method.member m).render :=
      Member.render_pieces (method.render_signaturePieces m)
    have all : (s.methods.map fun method =>
        (method.member m).pieces (method.signaturePieces m)).map (renderPieces m .methods) =
          (s.methods.map (Method.member m)).map Member.render := by
      simp [each]
    exact render_interfacePieces methodsInterface all
  | utils => exact renderPieces_plain m _ utilsText
  | index => exact renderPieces_plain m _ indexText

end

section

variable {m : Mapper} {named : String}

theorem mem_memberPieces {member : Member} {type : List Piece}
    (inside : .object named ∈ member.pieces type) : .object named ∈ type := by
  simpa [Member.pieces] using inside

theorem mem_interfacePieces {name : String} {parts : List (List Piece)}
    (inside : .object named ∈ interfacePieces name parts) : ∃ part ∈ parts, .object named ∈ part := by
  unfold interfacePieces at inside
  split at inside
  · simp at inside
  · simpa using inside

theorem mem_zipWith_pieces {members : List Member} {types : List (List Piece)} {part : List Piece}
    (given : part ∈ List.zipWith Member.pieces members types) (inside : .object named ∈ part) :
    ∃ type ∈ types, .object named ∈ type := by
  induction members generalizing types with
  | nil => simp at given
  | cons member members ih =>
    cases types with
    | nil => simp at given
    | cons type types =>
      rw [List.zipWith_cons_cons, List.mem_cons] at given
      rcases given with rfl | behind
      · exact ⟨type, List.mem_cons_self, mem_memberPieces inside⟩
      · obtain ⟨other, mem, found⟩ := ih behind
        exact ⟨other, List.mem_cons_of_mem _ mem, found⟩

theorem mem_declarationPieces {d : Declaration} {types : List (List Piece)}
    (inside : .object named ∈ d.pieces types) : ∃ type ∈ types, .object named ∈ type := by
  unfold Declaration.pieces at inside
  cases shape : d.shape with
  | union text => simpa [shape] using inside
  | interface members =>
    simp only [shape, List.mem_cons, reduceCtorEq, false_or] at inside
    obtain ⟨part, given, found⟩ := mem_interfacePieces inside
    exact mem_zipWith_pieces given found

theorem mem_propertyPieces {owner : Owner} {properties : List Property} {type : List Piece}
    (given : type ∈ properties.map fun p => m.pieces owner p.slot p.kind)
    (inside : .object named ∈ type) :
    .reference named ∈ properties.flatMap (·.kind.parts) ∨ named = uploadedObject := by
  obtain ⟨p, mem, rfl⟩ := List.mem_map.mp given
  rcases Mapper.mem_pieces p.kind inside with below | uploaded
  · exact .inl (List.mem_flatMap.mpr ⟨p, mem, below⟩)
  · exact .inr uploaded

theorem Object.mem_typePieces {o : Object} {type : List Piece} (given : type ∈ o.typePieces m)
    (inside : .object named ∈ type) : named ∈ o.references ∨ named = uploadedObject := by
  rw [references, mem_targets]
  unfold typePieces at given
  cases kind : o.kind with
  | properties properties =>
    rw [kind] at given
    exact mem_propertyPieces given inside
  | anyOf variants =>
    rw [kind, List.mem_singleton] at given
    subst given
    rcases Mapper.mem_pieces (.anyOf variants) inside with below | uploaded
    · rw [FieldType.parts, List.mem_cons] at below
      exact .inl (below.resolve_left nofun)
    · exact .inr uploaded
  | unknown =>
    rw [kind] at given
    cases given

theorem Method.mem_typePieces {method : Method} {type : List Piece}
    (given : type ∈ method.typePieces m) (inside : .object named ∈ type) :
    named ∈ method.references ∨ named = uploadedObject := by
  rw [references, mem_targets, parts, List.mem_append]
  exact (mem_propertyPieces given inside).imp_left .inl

theorem Method.mem_signaturePieces {method : Method}
    (inside : .object named ∈ method.signaturePieces m) :
    named ∈ method.references ∨ named = uploadedObject := by
  have returned : .object named ∈ m.pieces method.owner .anonymous method.returns := by
    unfold signaturePieces at inside
    cases shape : method.paramsShape <;> simpa [shape] using inside
  rw [references, mem_targets, parts, List.mem_append]
  exact (Mapper.mem_pieces method.returns returned).imp_left .inr

/-- A module writes no name but those that the schema refers to, and that of the uploaded file. -/
theorem Module.mem_pieces {s : Schema} {module : Module} (inside : .object named ∈ module.pieces m s) :
    named ∈ s.references ∨ named = uploadedObject := by
  rw [Schema.references_eq, List.mem_append, List.mem_flatMap, List.mem_flatMap]
  cases module with
  | objects =>
    obtain ⟨part, given, found⟩ := mem_joinedPieces inside
    obtain ⟨o, mem, rfl⟩ := List.mem_map.mp given
    obtain ⟨type, own, deeper⟩ := mem_declarationPieces found
    exact (o.mem_typePieces own deeper).imp_left fun refers => .inr ⟨o, mem, refers⟩
  | params =>
    obtain ⟨part, given, found⟩ := mem_joinedPieces inside
    obtain ⟨method, kept, rfl⟩ := List.mem_map.mp given
    obtain ⟨type, own, deeper⟩ := mem_declarationPieces found
    have mem := (List.mem_filter.mp kept).1
    exact (method.mem_typePieces own deeper).imp_left fun refers => .inl ⟨method, mem, refers⟩
  | methods =>
    obtain ⟨part, given, found⟩ := mem_interfacePieces inside
    obtain ⟨method, mem, rfl⟩ := List.mem_map.mp given
    exact (method.mem_signaturePieces (mem_memberPieces found)).imp_left fun refers =>
      .inl ⟨method, mem, refers⟩
  | utils => simp [pieces] at inside
  | index => simp [pieces] at inside

end

/-- The name that is written for the target, without its type arguments, is declared with the objects. -/
def Mapper.Declared (m : Mapper) (s : Schema) (target : String) : Prop :=
  ∃ name arguments, m.objectName target = name ++ arguments ∧
    (arguments = "" ∨ ∃ rest, arguments = "<" ++ rest ++ ">") ∧
    Declares (Module.body m s .objects) name

theorem referredName_split (target : String) :
    ∃ arguments, target = referredName target ++ arguments ∧
      (arguments = "" ∨ ∃ rest, arguments = "<" ++ rest ++ ">") := by
  unfold referredName
  split
  case isTrue last =>
    let isName : Char → Bool := (· != '<')
    have whole := List.takeWhile_append_dropWhile (p := isName) (l := target.toList)
    refine ⟨String.ofList (target.toList.dropWhile isName), ?_, ?_⟩
    · rw [← String.toList_inj, String.toList_append, String.toList_ofList, String.toList_ofList]
      exact whole.symm
    · cases behind : target.toList.dropWhile isName with
      | nil => exact .inl rfl
      | cons c cs =>
        have first := List.head?_dropWhile_not isName target.toList
        rw [behind] at first
        have opens : c = '<' := by simpa [isName] using first
        rw [← whole, behind, List.getLast?_append, opens] at last
        have closes : cs.getLast? = some '>' := by
          cases cs with
          | nil => exact absurd last (by simp)
          | cons d ds => simpa using last
        obtain ⟨rest, split⟩ := List.getLast?_eq_some_iff.mp closes
        refine .inr ⟨String.ofList rest, ?_⟩
        rw [← String.toList_inj]
        simp [opens, split]
  case isFalse => exact ⟨"", by simp, .inl rfl⟩

theorem capitalize_of_cons {name : String} {c : Char} {cs : List Char}
    (letters : name.toList = c :: cs) : capitalize name = String.ofList (upper c ++ cs) := by
  simp only [capitalize, letters]

theorem capitalize_append {name arguments : String}
    (plain : arguments = "" ∨ ∃ rest, arguments = "<" ++ rest) :
    capitalize (name ++ arguments) = capitalize name ++ arguments := by
  rcases plain with rfl | ⟨rest, rfl⟩
  · simp
  · cases letters : name.toList with
    -- Without a name the bracket is the first character, and it is its own capital.
    | nil =>
      have empty : name = "" := String.toList_inj.mp letters
      have bracket : ("<" ++ rest).toList = '<' :: rest.toList := by simp
      have same : upper '<' = ['<'] := by decide
      have none : capitalize "" = "" := rfl
      rw [empty, none, String.empty_append, capitalize_of_cons bracket, same,
        ← String.toList_inj]
      simp
    | cons c cs =>
      have longer : (name ++ ("<" ++ rest)).toList = c :: (cs ++ ("<" ++ rest).toList) := by
        simp [letters]
      rw [capitalize_of_cons longer, capitalize_of_cons letters, ← String.toList_inj]
      simp

theorem Mapper.declared_of_mem {m : Mapper} {s : Schema} {target : String}
    (named : referredName target ∈ s.objects.map (·.name)) : m.Declared s target := by
  obtain ⟨arguments, split, form⟩ := referredName_split target
  have plain : arguments = "" ∨ ∃ rest, arguments = "<" ++ rest := by
    rcases form with none | ⟨rest, some⟩
    · exact .inl none
    · exact .inr ⟨rest ++ ">", by rw [some, String.append_assoc]⟩
  refine ⟨m.objectName (referredName target), arguments, ?_, form, objectsText_declares m named⟩
  unfold objectName
  rw [String.append_assoc, ← capitalize_append plain, ← split]

/-- What a closed schema refers to after patching, and what the modules write of it, is declared among
the objects, but for the two names that patches refer to without asking whether they are there. -/
theorem Schema.patched_references {options : PatchOptions} {s t : Schema} (closed : s.ReferenceClosed)
    (done : s.patched options = .ok t) (m : Mapper) :
    (t.ReferenceClosed ↔ ∀ name ∈ expectedObjects, name ∈ s.objects.map (·.name)) ∧
      (∀ target ∈ t.references, referredName target ∈ t.objects.map (·.name) ∨
        target ∈ expectedObjects ∧ target ∉ s.objects.map (·.name)) ∧
      ∀ module : Module,
        renderPieces m module.scope (module.pieces m t) = module.body m t ∧
        ∀ target, .object target ∈ module.pieces m t →
          m.Declared t target ∨ target ∈ expectedObjects ∧ target ∉ s.objects.map (·.name) := by
  have met := meets_of_patched done
  have file : referredName uploadedObject ∈ t.objects.map (·.name) := by
    have plain : referredName uploadedObject = "InputFile" := by decide
    rw [plain, eq_amended done]
    exact mem_amended_names.mpr (.inl met.file)
  have resolved : ∀ target ∈ t.references, referredName target ∈ t.objects.map (·.name) ∨
      target ∈ expectedObjects ∧ target ∉ s.objects.map (·.name) := by
    rw [eq_amended done]
    exact fun target refers => resolved_or_expected closed refers
  refine ⟨?_, resolved, fun module => ⟨module.render_pieces m t, fun target inside => ?_⟩⟩
  · rw [eq_amended done]
    exact amended_referenceClosed_iff closed met.menuButton
  · rcases module.mem_pieces inside with refers | rfl
    · exact (resolved target refers).imp_left Mapper.declared_of_mem
    · exact .inl (Mapper.declared_of_mem file)

/-- An object that a description names without saying what it is. -/
def bareObject (name : String) : Object := ⟨name, "", "", .unknown, none⟩

/-- Both expected objects are there, and a media field that takes the uploaded file. -/
theorem Schema.forum_references :
    ∃ s t : Schema, s.ReferenceClosed ∧ s.patched ⟨["EUR"]⟩ = .ok t ∧ t.ReferenceClosed ∧
      .object uploadedObject ∈ Module.objects.pieces .standard t ∧
      ∀ (module : Module) (target : String), .object target ∈ module.pieces .standard t →
        Mapper.standard.Declared t target := by
  let photo : Object :=
    ⟨"InputMediaPhoto", "", "", .properties [⟨"media", "", true, .plainString⟩], none⟩
  let more := [bareObject "ForumTopic", bareObject "MenuButton", bareObject "ResponseParameters", photo]
  have closed : (forum more).ReferenceClosed := by decide
  have done := forum_patched more "EUR" []
  have settled := patched_references closed done .standard
  have held : ∀ name ∈ expectedObjects, name ∈ (forum more).objects.map (·.name) := by decide
  refine ⟨forum more, _, closed, done, settled.1.mpr held, ?_, fun module target inside => ?_⟩
  · decide
  · rcases (settled.2.2 module).2 target inside with declared | ⟨expected, missing⟩
    · exact declared
    · exact absurd (held target expected) missing

/-- The menu button is referred to and not described: the patches run all the same. -/
theorem Schema.forum_left_open :
    ∃ t : Schema, (forum [bareObject "ForumTopic"]).ReferenceClosed ∧
      (forum [bareObject "ForumTopic"]).patched ⟨["EUR"]⟩ = .ok t ∧ ¬ t.ReferenceClosed ∧
      .object "MenuButton" ∈ Module.methods.pieces .standard t ∧
      "MenuButton" ∉ t.objects.map (·.name) := by
  have closed : (forum [bareObject "ForumTopic"]).ReferenceClosed := by decide
  have done := forum_patched [bareObject "ForumTopic"] "EUR" []
  have missing : "MenuButton" ∉ ((forum [bareObject "ForumTopic"]).amended ⟨["EUR"]⟩).objects.map
      (·.name) := by decide
  refine ⟨_, closed, done, fun resolved => missing ?_, ?_, missing⟩
  · exact resolved "MenuButton" (mem_references_menuButton (by decide))
  · decide

end BotTypings
