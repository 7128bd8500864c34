import AppManifest.Proofs.Definition.Traversal
import AppManifest.Proofs.Description.Calls
import AppManifest.Proofs.Description.Equality

/-!
# Reading exported definitions back

The one word that a schema has for its type says which of five kinds of definitions it declares, and
which primitive type. A definition is canonical if no primitive type of the platform in it takes one
of these words, its types of one id are equal, and each type has its title and its description
itself, not in its definition (`Definition.Canonical`). The schema of a canonical definition, read
with the exported types at hand, declares an equal definition; and whatever a resolver answers is
canonical (`Resolver.canonical_readBack`).
-/

namespace AppManifest

/-- The type is not one of the platform's whose name stands for another type in a schema. -/
def PrimitiveType.Canonical (type : PrimitiveType) : Prop :=
  ∀ name, type = .platform name →
    name ∉ ["string", "number", "integer", "boolean", "object", "array"] ∧
      ∀ id, name ≠ Reference.ofType id

mutual

/-- Every primitive type in the kind, also inside types, is canonical, and types keep their titles
and descriptions outside their definitions. -/
def Kind.Faithful : Kind → Prop
  | .primitive type => type.Canonical
  | .untypedObject => True
  | .typedObject properties _ _ => Definition.AreFaithful properties
  | .array items => items.Faithful
  | .custom type => type.Faithful

/-- Every primitive type in the definition, also inside types, is canonical, and types keep their
titles and descriptions outside their definitions. -/
def Definition.Faithful : Definition → Prop
  | ⟨kind, _⟩ => kind.Faithful

/-- The type keeps its title and its description outside its definition, which is faithful. -/
def CustomType.Faithful : CustomType → Prop
  | ⟨_, definition, _, _⟩ =>
      definition.notes.title = none ∧ definition.notes.description = none ∧ definition.Faithful

/-- Named definitions are faithful. -/
def Definition.AreFaithful : List (String × Definition) → Prop
  | [] => True
  | (_, definition) :: rest => definition.Faithful ∧ Definition.AreFaithful rest

end

/-- The definition is read back as it was exported. -/
structure Definition.Canonical (definition : Definition) : Prop where
  faithful : definition.Faithful
  consistent : CustomType.Consistent definition.allTypes

/-- The table has the schema of the type, up to equality, under its id. -/
def CustomType.ExportedIn (types : Table Json) (type : CustomType) : Prop :=
  ∃ json, types.get? type.id = some json ∧ (json == type.schema) = true

/-! ## What canonical definitions are made of -/

namespace PrimitiveType

variable {type : PrimitiveType}

/-- A canonical primitive type is plain. -/
theorem Canonical.plain (h : type.Canonical) : type.Plain := by
  intro name hname
  obtain ⟨hnames, hreference⟩ := h name hname
  exact ⟨fun harray => hnames (by simp [harray]), hreference⟩

/-- A canonical primitive type is not named like an object. -/
theorem Canonical.name_ne_object (h : type.Canonical) : type.name ≠ "object" := by
  cases type with
  | platform name => exact fun hobject => (h name rfl).1 (by simp [← hobject, PrimitiveType.name])
  | string | number | integer | boolean => decide

/-- A canonical primitive type is the one of its name. -/
theorem Canonical.ofName_name (h : type.Canonical) : ofName type.name = type := by
  cases type with
  | platform name =>
      have hnames := (h name rfl).1
      simp only [List.mem_cons, not_or] at hnames
      simp [PrimitiveType.name, ofName, hnames]
  | string | number | integer | boolean => rfl

/-- The type that a name stands for is canonical, unless the name is that of objects or arrays or a
reference. -/
theorem canonical_ofName {name : String} (hreference : Reference.typeId? name = none)
    (hobject : name ≠ "object") (harray : name ≠ "array") : (ofName name).Canonical := by
  intro other hother
  have hname : name = other := by
    rw [← name_ofName name, hother]
    rfl
  subst hname
  refine ⟨fun hmem => ?_, fun id hid => ?_⟩
  · -- a name that is known here stands for a type that is not the platform's
    simp only [List.mem_cons, List.not_mem_nil, or_false] at hmem
    rcases hmem with rfl | rfl | rfl | rfl | h | h
    · cases hother
    · cases hother
    · cases hother
    · cases hother
    · exact hobject h
    · exact harray h
  · cases hreference.symm.trans (Reference.typeId?_eq_some_iff.2 hid)

end PrimitiveType

mutual

/-- A faithful kind is plain. -/
theorem Kind.Faithful.plain : {kind : Kind} → kind.Faithful → kind.Plain
  | .primitive _, h => PrimitiveType.Canonical.plain h
  | .untypedObject, _ | .custom _, _ => trivial
  | .typedObject _ _ _, h => Definition.AreFaithful.plain h
  | .array _, h => Definition.Faithful.plain h

/-- A faithful definition is plain. -/
theorem Definition.Faithful.plain : {definition : Definition} → definition.Faithful →
    definition.Plain
  | ⟨_, _⟩, h => Kind.Faithful.plain h

/-- Faithful definitions are plain. -/
theorem Definition.AreFaithful.plain : {properties : List (String × Definition)} →
    Definition.AreFaithful properties → Definition.ArePlain properties
  | [], _ => trivial
  | (_, _) :: _, h => ⟨Definition.Faithful.plain h.1, Definition.AreFaithful.plain h.2⟩

end

mutual

/-- The types that occur directly in a faithful kind are faithful. -/
theorem Kind.Faithful.directTypes {type : CustomType} :
    {kind : Kind} → kind.Faithful → type ∈ kind.directTypes → type.Faithful
  | .primitive _, _, h | .untypedObject, _, h => by cases h
  | .typedObject _ _ _, hkind, h => Definition.AreFaithful.propertyTypes hkind h
  | .array _, hkind, h => Definition.Faithful.directTypes hkind h
  | .custom _, hkind, h => List.mem_singleton.1 h ▸ hkind

/-- The types that occur directly in a faithful definition are faithful. -/
theorem Definition.Faithful.directTypes {type : CustomType} :
    {definition : Definition} → definition.Faithful → type ∈ definition.directTypes → type.Faithful
  | ⟨_, _⟩, hkind, h => Kind.Faithful.directTypes hkind h

/-- The types that occur directly in faithful named definitions are faithful. -/
theorem Definition.AreFaithful.propertyTypes {type : CustomType} :
    {properties : List (String × Definition)} → Definition.AreFaithful properties →
      type ∈ Definition.propertyTypes properties → type.Faithful
  | (_, _) :: _, hproperties, h => (List.mem_append.1 h).elim
      (Definition.Faithful.directTypes hproperties.1)
      (Definition.AreFaithful.propertyTypes hproperties.2)

end

/-- Named definitions are faithful exactly if each of them is. -/
theorem Definition.areFaithful_iff {properties : List (String × Definition)} :
    Definition.AreFaithful properties ↔ ∀ entry ∈ properties, entry.2.Faithful := by
  induction properties with
  | nil => exact ⟨fun _ _ h => (by cases h), fun _ => trivial⟩
  | cons entry rest ih => rw [AreFaithful, ih, List.forall_mem_cons]

/-! ## Reading canonical definitions -/

namespace CustomType

variable {type : CustomType}

/-- The definition whose schema is that of the type. -/
def annotated (type : CustomType) : Definition :=
  ⟨type.definition.kind, { type.definition.notes with
    title := type.title
    description := type.description }⟩

/-- Annotations do not bear on the types in a definition. -/
theorem directTypes_annotated (type : CustomType) :
    type.annotated.directTypes = type.definition.directTypes := by
  obtain ⟨id, ⟨kind, notes⟩, title, description⟩ := type
  rfl

/-- A type that keeps its title and description outside its definition is that of the definition
with both. -/
theorem Faithful.ofDefinition_annotated (h : type.Faithful) :
    ofDefinition type.id type.annotated = type := by
  obtain ⟨id, ⟨kind, title, description, hint, default⟩, title', description'⟩ := type
  obtain ⟨htitle, hdescription, -⟩ := h
  cases htitle
  cases hdescription
  rfl

/-- The definition with the title and the description of a faithful type is faithful. -/
theorem Faithful.annotated (h : type.Faithful) : type.annotated.Faithful := by
  obtain ⟨id, ⟨kind, notes⟩, title, description⟩ := type
  exact h.2.2

/-- The types of equal definitions are equal. -/
theorem congruent_ofDefinition (id : String) : Congruent (ofDefinition id) := by
  intro first second h
  obtain ⟨hkind, hnotes⟩ := Definition.beq_iff.1 h
  obtain ⟨htitle, hdescription, hhint, hdefault⟩ := Annotations.beq_iff.1 hnotes
  exact beq_iff.2 ⟨rfl, Definition.beq_iff.2 ⟨hkind, Annotations.beq_iff.2
    ⟨rfl, rfl, hhint, hdefault⟩⟩, htitle, hdescription⟩

end CustomType

section Reading

variable {names : String → CustomType → Prop}

mutual

/-- What the schema of a faithful kind says declares an equal definition, if the ids of the types
that occur directly in the kind name equal types. -/
theorem Kind.exists_defines (notes : Annotations) :
    (kind : Kind) → kind.Faithful →
      (∀ type ∈ kind.directTypes, ∃ named, names type.id named ∧ (named == type) = true) →
      ∃ read, (kind.asSchema notes).Defines names read ∧
        (read == (⟨kind, notes⟩ : Definition)) = true
  | .primitive type, h, _ => by
      have hcanonical : type.Canonical := h
      rw [Kind.asSchema, if_neg hcanonical.name_ne_object, hcanonical.ofName_name]
      exact ⟨_, rfl, BEq.rfl⟩
  | .untypedObject, _, _ => ⟨_, rfl, BEq.rfl⟩
  | .typedObject properties required additional, h, htypes => by
      obtain ⟨reads, hreads, hequal⟩ := Definition.exists_definesAll properties h htypes
      exact ⟨_, ⟨reads, hreads, rfl⟩,
        Definition.beq_iff.2 ⟨Kind.typedObject_beq.2 ⟨hequal, rfl, rfl⟩, BEq.rfl⟩⟩
  | .array items, h, htypes => by
      obtain ⟨read, hread, hequal⟩ := Definition.exists_defines items h htypes
      exact ⟨_, ⟨read, hread, rfl⟩, Definition.beq_iff.2 ⟨hequal, BEq.rfl⟩⟩
  | .custom type, _, htypes => by
      obtain ⟨named, hnamed, hequal⟩ := htypes type List.mem_cons_self
      exact ⟨_, ⟨named, hnamed, rfl⟩, Definition.beq_iff.2 ⟨hequal, BEq.rfl⟩⟩

/-- What the schema of a faithful definition says declares an equal definition, if the ids of the
types that occur directly in the definition name equal types. -/
theorem Definition.exists_defines :
    (definition : Definition) → definition.Faithful →
      (∀ type ∈ definition.directTypes, ∃ named, names type.id named ∧ (named == type) = true) →
      ∃ read, definition.asSchema.Defines names read ∧ (read == definition) = true
  | ⟨kind, notes⟩, h, htypes => Kind.exists_defines notes kind h htypes

/-- What the schemas of faithful named definitions say declares equal definitions, if the ids of the
types that occur directly in the definitions name equal types. -/
theorem Definition.exists_definesAll :
    (properties : List (String × Definition)) → Definition.AreFaithful properties →
      (∀ type ∈ Definition.propertyTypes properties,
        ∃ named, names type.id named ∧ (named == type) = true) →
      ∃ reads, Schema.DefinesAll names (Definition.asSchemas properties) reads ∧
        (reads == properties) = true
  | [], _, _ => ⟨[], rfl, rfl⟩
  | (name, definition) :: rest, h, htypes => by
      obtain ⟨read, hread, hequal⟩ := Definition.exists_defines definition h.1
        fun type htype => htypes type (List.mem_append_left _ htype)
      obtain ⟨reads, hreads, hrest⟩ := Definition.exists_definesAll rest h.2
        fun type htype => htypes type (List.mem_append_right _ htype)
      refine ⟨(name, read) :: reads, ⟨read, reads, hread, hreads, rfl⟩, ?_⟩
      rw [List.cons_beq_cons, Bool.and_eq_true, pair_beq_iff]
      exact ⟨⟨beq_self_eq_true name, hequal⟩, hrest⟩

end

end Reading

variable {types : Table Json}

/-- A faithful type that is exported with all types inside it is named by its id, up to equality. -/
theorem CustomType.exists_resolves (type : CustomType) (hfaithful : type.Faithful)
    (htypes : ∀ inner ∈ type.allTypes, inner.ExportedIn types) :
    ∃ named, Resolves (types.map Schema.ofJson) type.id named ∧ (named == type) = true := by
  induction type using CustomType.nestedInduction with
  | step type ih =>
      rw [type.allTypes_eq, List.forall_mem_cons] at htypes
      obtain ⟨⟨json, hjson, hequal⟩, hinner⟩ := htypes
      have hannotated := hfaithful.annotated
      have hdirect : ∀ direct ∈ type.annotated.directTypes, ∃ named,
          Resolves (types.map Schema.ofJson) direct.id named ∧ (named == direct) = true := by
        intro direct hdirect
        have hfaithful := hannotated.directTypes hdirect
        rw [type.directTypes_annotated] at hdirect
        exact ih direct hdirect hfaithful fun inner h =>
          hinner inner (Definition.mem_allTypes_iff.2 ⟨direct, hdirect, h⟩)
      -- the schema of the type declares the definition with the title and the description of the
      -- type, and so, up to equality, does the schema that is in the table
      obtain ⟨read, hread, hsame⟩ := Definition.exists_defines _ hannotated hdirect
      rw [← type.annotated.ofJson_schema hannotated.plain,
        ← CustomType.schema_ofDefinition type.id, hfaithful.ofDefinition_annotated] at hread
      obtain ⟨stored, hstored, hsame'⟩ := Schema.exists_defines_of_beq hread hequal
      have hschema : (types.map Schema.ofJson).get? type.id = some (Schema.ofJson json) := by
        rw [Table.get?_map, hjson]
        rfl
      refine ⟨_, resolves_iff.2 ⟨_, stored, hschema, hstored, rfl⟩, ?_⟩
      have htype := congruent_ofDefinition type.id (BEq.trans hsame' hsame)
      rwa [hfaithful.ofDefinition_annotated] at htype

/-- The schema of a canonical definition declares an equal definition if the types inside the
definition are exported. -/
theorem Definition.Canonical.exists_defines {definition : Definition} (h : definition.Canonical)
    (htypes : ∀ type ∈ definition.allTypes, type.ExportedIn types) :
    ∃ read, (Schema.ofJson definition.schema).Defines (Resolves (types.map Schema.ofJson)) read ∧
      (read == definition) = true := by
  rw [definition.ofJson_schema h.faithful.plain]
  exact definition.exists_defines h.faithful fun type htype =>
    type.exists_resolves (h.faithful.directTypes htype) fun inner hinner =>
      htypes inner (Definition.mem_allTypes_iff.2 ⟨type, htype, hinner⟩)

/-! ## What is read is canonical -/

/-- What a JSON value declares as a schema is faithful if ids name faithful types. -/
theorem Schema.faithful_of_defines {names : String → CustomType → Prop}
    (hnames : ∀ {id type}, names id type → type.Faithful) {json : Json} {definition : Definition}
    (h : (ofJson json).Defines names definition) : definition.Faithful := by
  refine definesInduction ?reference ?primitive ?untypedObject ?typedObject ?array h
  case reference =>
    intro members id type htype hnamed
    exact hnames hnamed
  case primitive =>
    intro members type htype hreference hobject harray
    exact PrimitiveType.canonical_ofName hreference hobject harray
  case untypedObject =>
    intros
    trivial
  case typedObject =>
    intro members properties definitions htype hproperties hentries
    refine Definition.areFaithful_iff.2 fun entry hentry => ?_
    obtain ⟨_, -, -, hfaithful⟩ := exists_left_of_forall₂ hentries hentry
    exact hfaithful
  case array =>
    intro members items inner htype hitems hinner
    exact hinner

namespace Resolves

variable {id : String} {type : CustomType}

/-- A type that an id names is faithful. -/
theorem faithful (h : Resolves (types.map Schema.ofJson) id type) : type.Faithful := by
  induction h with
  | @intro id schema definition names hnames hschema hdefines ih =>
      rw [Table.get?_map, Option.map_eq_some_iff] at hschema
      obtain ⟨json, -, rfl⟩ := hschema
      have hfaithful := Schema.faithful_of_defines (ih _ _) hdefines
      obtain ⟨kind, notes⟩ := definition
      exact ⟨rfl, rfl, hfaithful⟩

/-- All types inside a type that an id names are named by their ids. -/
theorem allTypes {schemas : Table Schema} (h : Resolves schemas id type) :
    ∀ inner ∈ type.allTypes, Resolves schemas inner.id inner := by
  induction type using CustomType.nestedInduction generalizing id with
  | step type ih =>
      rw [type.allTypes_eq, List.forall_mem_cons]
      refine ⟨h.id_eq.symm ▸ h, fun inner hinner => ?_⟩
      obtain ⟨direct, hdirect, hinner⟩ := Definition.mem_allTypes_iff.1 hinner
      obtain ⟨other, hother⟩ := h.directTypes direct hdirect
      exact ih direct hdirect hother inner hinner

end Resolves

/-- A faithful definition is canonical if the types that occur directly in it are named by ids. -/
theorem Definition.Faithful.canonical {schemas : Table Schema} {definition : Definition}
    (h : definition.Faithful)
    (htypes : ∀ type ∈ definition.directTypes, ∃ id, Resolves schemas id type) :
    definition.Canonical := by
  have hall : ∀ type ∈ definition.allTypes, Resolves schemas type.id type := by
    intro type htype
    obtain ⟨direct, hdirect, htype⟩ := mem_allTypes_iff.1 htype
    obtain ⟨id, hid⟩ := htypes direct hdirect
    exact hid.allTypes type htype
  refine ⟨h, fun first hfirst second hsecond hid => ?_⟩
  have hsecond := hall second hsecond
  rw [← hid] at hsecond
  rw [(hall first hfirst).unique hsecond]
  exact BEq.rfl

/-- What a JSON value declares as a schema is canonical. -/
theorem Schema.canonical_of_defines {json : Json} {definition : Definition}
    (h : (ofJson json).Defines (Resolves (types.map ofJson)) definition) : definition.Canonical :=
  (faithful_of_defines Resolves.faithful h).canonical (Schema.Defines.directTypes _ h)

/-- The parameter of a type that an id names is canonical, and so is the definition of the type. -/
theorem Resolves.canonical {id : String} {type : CustomType}
    (h : Resolves (types.map Schema.ofJson) id type) :
    (Definition.custom type).Canonical ∧ type.definition.Canonical := by
  have hfaithful := h.faithful
  have hdefinition : type.definition.Faithful := by
    obtain ⟨other, definition, title, description⟩ := type
    exact hfaithful.2.2
  have hparameter : (Definition.custom type).Faithful := hfaithful
  exact ⟨hparameter.canonical fun other hother => ⟨id, List.mem_singleton.1 hother ▸ h⟩,
    hdefinition.canonical h.directTypes⟩

namespace Resolver

/-- The definitions in an answer: a type comes with what it is a parameter of, and with what is in
it. -/
def Answer.definitions : Answer → List Definition
  | .type named => [.custom named, named.definition]
  | .set parameters => parameters.properties.entries.map Prod.snd
  | .definition read => [read]

/-- Every definition in the answer of a call is canonical. -/
theorem Call.canonical {call : Call} {answer : Answer}
    (h : call.plain (types.map Schema.ofJson) = .ok answer) :
    ∀ definition ∈ answer.definitions, definition.Canonical := by
  cases call with
  | type owner id =>
      obtain ⟨type, htype, rfl⟩ := bind_pure_eq_ok_iff.1 h
      obtain ⟨hparameter, hdefinition⟩ := (expandType_sound htype).canonical
      exact List.forall_mem_cons.2 ⟨hparameter, List.forall_mem_singleton.2 hdefinition⟩
  | set owner description =>
      obtain ⟨set, hset, rfl⟩ := bind_pure_eq_ok_iff.1 h
      obtain ⟨table, htable, rfl⟩ := bind_pure_eq_ok_iff.1 hset
      refine List.forall_mem_map.2 fun entry hentry => ?_
      obtain ⟨value, -, -, hdefines⟩ := exists_left_of_forall₂
        (Schema.forall₂_of_definesAll (expandTable_eq_ok_iff.1 htable)) hentry
      exact Schema.canonical_of_defines hdefines
  | parameter owner name schema =>
      obtain ⟨definition, hdefinition, rfl⟩ := bind_pure_eq_ok_iff.1 h
      have hdefines :
          (Schema.ofJson schema).Defines (Resolves (types.map Schema.ofJson)) definition :=
        Schema.Defines.mono _ (fun _ _ _ => expandType_eq_ok_iff.1)
          ((Schema.expand_eq_ok_iff owner name _).1 hdefinition)
      exact List.forall_mem_singleton.2 (Schema.canonical_of_defines hdefines)

/-- With any resolver over a table of types that has answered calls, the schema of a canonical
definition all of whose types are exported in the table is read as an equal definition; and every
definition that the resolver has answered is canonical. -/
theorem canonical_readBack (types : Table Json) {calls : List Call} {answers : List Answer}
    {resolver : Resolver}
    (h : (calls.mapM (Call.run (types.map Schema.ofJson))).run {} = .ok (answers, resolver)) :
    (∀ (definition : Definition) (owner name : String), definition.Canonical →
      (∀ type ∈ definition.allTypes, type.ExportedIn types) →
      ∃ read, ((parameter (types.map Schema.ofJson) owner name definition.schema).run
          resolver).map Prod.fst = .ok read ∧ (read == definition) = true) ∧
      ∀ answer ∈ answers, ∀ definition ∈ answer.definitions, definition.Canonical := by
  have hcalls : Agrees (types.map Schema.ofJson) [] (calls.mapM (Call.run _))
      (calls.mapM (Call.plain _)) := .mapM Call.run_agrees calls
  refine ⟨fun definition owner name hcanonical htypes => ?_, fun answer hanswer => ?_⟩
  · obtain ⟨read, hread, hequal⟩ := hcanonical.exists_defines htypes
    refine ⟨read, ?_, hequal⟩
    have houtcome := (parameter_agrees owner name definition.schema).outcome
      (hcalls.continues .empty h).ready
    refine houtcome.trans ((Schema.expand_eq_ok_iff owner name _).2 ?_)
    exact Schema.Defines.mono _ (fun id type _ => expandType_eq_ok_iff.2) hread
  · obtain ⟨call, -, hplain⟩ := exists_of_mapM_eq_ok (hcalls.value .empty h) answer hanswer
    exact Call.canonical hplain

/-- An object with a property of a custom type and one of a type of the platform, one of which is
required twice. -/
def triageDefinition : Definition :=
  ⟨.typedObject [("issue", .custom issueType),
      ("user", .primitive (.platform "slack#/types/user_id"))]
    ["user", "user"] (some false), { title := some "Triage" }⟩

/-- The definition is canonical. -/
theorem triageDefinition_canonical : triageDefinition.Canonical where
  faithful := by
    have hlabel : labelType.Faithful := ⟨rfl, rfl, fun _ h => by cases h⟩
    have huser : (PrimitiveType.ofName "slack#/types/user_id").Canonical :=
      PrimitiveType.canonical_ofName (by decide) (by decide) (by decide)
    exact ⟨⟨rfl, rfl, hlabel⟩, huser, trivial⟩
  consistent := by decide

/-- The exported types that the definition uses. -/
def triageTypes : Table Json :=
  .ofList [("issue", issueType.schema), ("label", labelType.schema)]

/-- After resolving the type of issues, the exported definition is read back. -/
theorem triage_readBack : ∃ answers resolver read,
    ([Call.type "triage" "issue"].mapM (Call.run (triageTypes.map Schema.ofJson))).run {} =
      .ok (answers, resolver) ∧
    ((parameter (triageTypes.map Schema.ofJson) "triage" "input" triageDefinition.schema).run
      resolver).map Prod.fst = .ok read ∧ (read == triageDefinition) = true := by
  have htypes : ∀ type ∈ triageDefinition.allTypes, type.ExportedIn triageTypes :=
    List.forall_mem_cons.2 ⟨⟨_, rfl, BEq.rfl⟩, List.forall_mem_singleton.2 ⟨_, rfl, BEq.rfl⟩⟩
  have hrun : (([Call.type "triage" "issue"].mapM (Call.run (triageTypes.map Schema.ofJson))).run
      {}).toOption.isSome = true := by decide +kernel
  cases h : ([Call.type "triage" "issue"].mapM
      (Call.run (triageTypes.map Schema.ofJson))).run {} with
  | ok result =>
      obtain ⟨read, hread, hequal⟩ := (canonical_readBack triageTypes h).1 triageDefinition "triage"
        "input" triageDefinition_canonical htypes
      exact ⟨result.1, result.2, read, rfl, hread, hequal⟩
  | error error =>
      rw [h] at hrun
      cases hrun

end Resolver

end AppManifest
