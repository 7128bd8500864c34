import Mathlib.Order.WellFoundedSet
import AppManifest.Proofs.Description.Conversion
import AppManifest.Proofs.Description.Schema

/-!
# Which descriptions are accepted

A description is converted exactly if everything that is walked in it is a schema, every reference
is to a declared type, and no type leads back to itself (`AppDescription.accepted_iff`). Among
finitely many declared types without cycles, each has a meaning by induction on what it refers to
(`exists_resolves`).
-/

namespace AppManifest

variable {schemas : Table Schema}

/-- If schemas have no defects, refer to declared types only and do not lead back to themselves,
every declared id names a type. -/
theorem exists_resolves
    (hsound : ∀ {id schema}, schemas.get? id = some schema → schema.isSound = true)
    (hdeclared : ∀ {first second}, Schema.Follows schemas first second → second ∈ schemas.names)
    (hacyclic : ∀ id, ¬ Relation.TransGen (Schema.Follows schemas) id id) {id : String}
    (hid : id ∈ schemas.names) : ∃ type, Resolves schemas id type := by
  have hstrict : IsStrictOrder String
      (Function.swap (Relation.TransGen (Schema.Follows schemas))) :=
    { irrefl := hacyclic
      trans := fun _ _ _ h h' => h'.trans h }
  -- chains of references order the finitely many declared ids
  have hfounded : Set.WellFoundedOn {id | id ∈ schemas.names}
      (Function.swap (Relation.TransGen (Schema.Follows schemas))) :=
    (List.finite_toSet schemas.names).wellFoundedOn
  refine hfounded.induction (P := fun id => ∃ type, Resolves schemas id type) hid
    fun id hid ih => ?_
  obtain ⟨schema, hschema⟩ := Table.exists_get?_of_mem_names hid
  obtain ⟨definition, hdefines⟩ := (Schema.exists_defines_iff schema).2
    ⟨hsound hschema, fun next hnext =>
      have hstep : Schema.Follows schemas id next := ⟨schema, hschema, hnext⟩
      ih next (hdeclared hstep) (.single hstep)⟩
  exact ⟨_, resolves_iff.2 ⟨schema, definition, hschema, hdefines, rfl⟩⟩

/-- A JSON value is free of defects and refers to types that have a meaning. -/
def Meaningful (schemas : Table Schema) (json : Json) : Prop :=
  (Schema.ofJson json).isSound = true ∧
    ∀ id ∈ (Schema.ofJson json).references, ∃ type, Resolves schemas id type

/-- Named values declare definitions exactly if each of them has a meaning. -/
theorem exists_definesTable_iff {values : Table Json} :
    (∃ table, DefinesTable schemas values table) ↔
      ∀ {name value}, values.get? name = some value → Meaningful schemas value := by
  have hall : (∃ definitions, Schema.DefinesAll (Resolves schemas)
      (values.map Schema.ofJson).entries definitions) ↔
      ∀ {name value}, values.get? name = some value → Meaningful schemas value := by
    rw [Schema.exists_definesAll_iff]
    constructor
    · rintro ⟨hsound, hreferences⟩ name value hvalue
      have hmem := Table.get?_eq_some_iff.1 hvalue
      exact ⟨Schema.areSound_mapValues.1 hsound name value hmem, fun id hid =>
        hreferences id (Schema.mem_propertyReferences_mapValues.2 ⟨name, value, hmem, hid⟩)⟩
    · intro h
      refine ⟨Schema.areSound_mapValues.2 fun name value hmem =>
        (h (Table.get?_eq_some_iff.2 hmem)).1, fun id hid => ?_⟩
      obtain ⟨name, value, hmem, hid⟩ := Schema.mem_propertyReferences_mapValues.1 hid
      exact (h (Table.get?_eq_some_iff.2 hmem)).2 id hid
  refine Iff.trans ⟨?_, ?_⟩ hall
  · rintro ⟨table, h⟩
    exact ⟨table.entries, h⟩
  · rintro ⟨definitions, h⟩
    exact ⟨⟨definitions, (values.map Schema.ofJson).ascending.of_names h.names_eq⟩, h⟩

/-- A parameter set, as it is written, declares a set exactly if each parameter has a meaning. -/
theorem ParameterSetDescription.exists_declares_iff {description : ParameterSetDescription} :
    (∃ set, description.Declares schemas set) ↔
      ∀ {name value}, description.properties.get? name = some value → Meaningful schemas value := by
  rw [← exists_definesTable_iff]
  constructor
  · rintro ⟨_, properties, h, -⟩
    exact ⟨properties, h⟩
  · rintro ⟨properties, h⟩
    exact ⟨_, properties, h, rfl⟩

/-- A function, as it is written, declares a function exactly if both of its parameter sets declare
sets. -/
theorem FunctionDescription.exists_declares_iff {id : String} {description : FunctionDescription} :
    (∃ function, description.Declares schemas id function) ↔
      (∃ inputs, description.inputs.Declares schemas inputs) ∧
        ∃ outputs, description.outputs.Declares schemas outputs := by
  constructor
  · rintro ⟨_, inputs, hinputs, outputs, houtputs, -⟩
    exact ⟨⟨inputs, hinputs⟩, outputs, houtputs⟩
  · rintro ⟨⟨inputs, hinputs⟩, outputs, houtputs⟩
    exact ⟨_, inputs, hinputs, outputs, houtputs, rfl⟩

/-- A workflow, as it is written, declares a workflow exactly if both of its parameter sets declare
sets. -/
theorem WorkflowDescription.exists_declares_iff {functions : List AppFunction} {id : String}
    {description : WorkflowDescription} :
    (∃ workflow, description.Declares schemas functions id workflow) ↔
      (∃ inputs, description.inputs.Declares schemas inputs) ∧
        ∃ outputs, description.outputs.Declares schemas outputs := by
  constructor
  · rintro ⟨_, inputs, hinputs, outputs, houtputs, -⟩
    exact ⟨⟨inputs, hinputs⟩, outputs, houtputs⟩
  · rintro ⟨⟨inputs, hinputs⟩, outputs, houtputs⟩
    exact ⟨_, inputs, hinputs, outputs, houtputs, rfl⟩

/-- A datastore, as it is written, declares a datastore exactly if each attribute has a meaning. -/
theorem DatastoreDescription.exists_declares_iff {name : String}
    {description : DatastoreDescription} :
    (∃ datastore, description.Declares schemas name datastore) ↔
      ∀ {name value}, description.attributes.get? name = some value → Meaningful schemas value := by
  rw [← exists_definesTable_iff]
  constructor
  · rintro ⟨_, attributes, h, -⟩
    exact ⟨attributes, h⟩
  · rintro ⟨attributes, h⟩
    exact ⟨_, attributes, h, rfl⟩

/-- The schema of an id that names a type has a meaning. -/
theorem Resolves.meaningful {types : Table Json} {id : String} {type : CustomType} {json : Json}
    (h : Resolves (types.map Schema.ofJson) id type) (hjson : types.get? id = some json) :
    Meaningful (types.map Schema.ofJson) json := by
  obtain ⟨schema, definition, hschema, hdefines, -⟩ := resolves_iff.1 h
  rw [Table.get?_map, hjson, Option.map_some, Option.some.injEq] at hschema
  subst hschema
  exact (Schema.exists_defines_iff _).1 ⟨definition, hdefines⟩

namespace AppDescription

variable {app : AppDescription}

/-- The places of a description at which schemas stand: the declared types, the parameters of
functions and workflows, and the attributes of datastores. -/
inductive Root (app : AppDescription) : Json → Prop where
  | type {id schema} : app.types.get? id = some schema → Root app schema
  | functionInput {id function name schema} : app.functions.get? id = some function →
      function.inputs.properties.get? name = some schema → Root app schema
  | functionOutput {id function name schema} : app.functions.get? id = some function →
      function.outputs.properties.get? name = some schema → Root app schema
  | workflowInput {id workflow name schema} : app.workflows.get? id = some workflow →
      workflow.inputs.properties.get? name = some schema → Root app schema
  | workflowOutput {id workflow name schema} : app.workflows.get? id = some workflow →
      workflow.outputs.properties.get? name = some schema → Root app schema
  | datastoreAttribute {id datastore name schema} : app.datastores.get? id = some datastore →
      datastore.attributes.get? name = some schema → Root app schema

/-- What is met at some depth below the schema of a declared type names another type. -/
def LeadsTo (app : AppDescription) (first second : String) : Prop :=
  ∃ root schema, app.types.get? first = some root ∧ root.Walks schema ∧ schema.NamesType second

/-- Everything that is walked in a description is a schema, every reference is to a declared type,
and no type leads back to itself. -/
structure Acceptable (app : AppDescription) : Prop where
  isSchema : ∀ {root schema}, app.Root root → root.Walks schema → schema.IsSchema
  declared : ∀ {root schema id}, app.Root root → root.Walks schema → schema.NamesType id →
    ∃ type, app.types.get? id = some type
  acyclic : ∀ id, ¬ Relation.TransGen app.LeadsTo id id

/-- The schema of an id is what the JSON value of the declared type declares. -/
theorem get?_schemas_eq_some_iff {id : String} {schema : Schema} :
    app.schemas.get? id = some schema ↔
      ∃ root, app.types.get? id = some root ∧ Schema.ofJson root = schema := by
  rw [schemas, Table.get?_map, Option.map_eq_some_iff]

/-- A type leads to another one exactly if its schema refers to it. -/
theorem leadsTo_iff {first second : String} :
    app.LeadsTo first second ↔ Schema.Follows app.schemas first second := by
  constructor
  · rintro ⟨root, schema, hroot, hwalks, hnames⟩
    exact ⟨.ofJson root, get?_schemas_eq_some_iff.2 ⟨root, hroot, rfl⟩,
      Schema.mem_references_ofJson.2 ⟨schema, hwalks, hnames⟩⟩
  · rintro ⟨_, hschema, hid⟩
    obtain ⟨root, hroot, rfl⟩ := get?_schemas_eq_some_iff.1 hschema
    obtain ⟨schema, hwalks, hnames⟩ := Schema.mem_references_ofJson.1 hid
    exact ⟨root, schema, hroot, hwalks, hnames⟩

/-- Types lead to each other as their schemas refer to each other. -/
theorem leadsTo_eq (app : AppDescription) : app.LeadsTo = Schema.Follows app.schemas :=
  funext₂ fun _ _ => propext leadsTo_iff

/-- A description declares a manifest exactly if every declared id names a type and every function,
workflow and datastore in it declares one. -/
theorem exists_declares_iff :
    (∃ manifest, app.Declares manifest) ↔
      (∀ id ∈ app.types.names, ∃ type, Resolves app.schemas id type) ∧
      (∀ {id function}, app.functions.get? id = some function →
        ∃ result, function.Declares app.schemas id result) ∧
      (∀ {id workflow}, app.workflows.get? id = some workflow →
        ∀ functions, ∃ result, workflow.Declares app.schemas functions id result) ∧
      ∀ {id datastore}, app.datastores.get? id = some datastore →
        ∃ result, datastore.Declares app.schemas id result := by
  constructor
  · rintro ⟨manifest, h⟩
    have htypes := exists_forall₂_iff.1 ⟨_, h.types⟩
    have hfunctions := exists_forall₂_iff.1 ⟨_, h.functions⟩
    have hworkflows := exists_forall₂_iff.1 ⟨_, h.workflows⟩
    have hdatastores := exists_forall₂_iff.1 ⟨_, h.datastores⟩
    refine ⟨htypes, fun hget => hfunctions _ (Table.get?_eq_some_iff.1 hget),
      fun hget functions => ?_,
      fun hget => hdatastores _ (Table.get?_eq_some_iff.1 hget)⟩
    -- whether a workflow declares anything does not depend on the functions that are declared
    exact WorkflowDescription.exists_declares_iff.2
      (WorkflowDescription.exists_declares_iff.1 (hworkflows _ (Table.get?_eq_some_iff.1 hget)))
  · rintro ⟨htypes, hfunctions, hworkflows, hdatastores⟩
    obtain ⟨types, htypes⟩ := exists_forall₂_iff.2 htypes
    obtain ⟨functions, hfunctions⟩ := exists_forall₂_iff.2 fun entry hentry =>
      hfunctions (Table.get?_eq_some_iff.2 hentry)
    obtain ⟨workflows, hworkflows⟩ := exists_forall₂_iff.2 fun entry hentry =>
      hworkflows (Table.get?_eq_some_iff.2 hentry) functions
    obtain ⟨datastores, hdatastores⟩ := exists_forall₂_iff.2 fun entry hentry =>
      hdatastores (Table.get?_eq_some_iff.2 hentry)
    exact ⟨app.assemble types functions workflows datastores, rfl, rfl, rfl, rfl, rfl, htypes,
      hfunctions, hworkflows, hdatastores, rfl⟩

/-- A description declares a manifest exactly if every schema at a root has a meaning and every
declared id names a type. -/
theorem exists_declares_iff_meaningful :
    (∃ manifest, app.Declares manifest) ↔
      (∀ id ∈ app.types.names, ∃ type, Resolves app.schemas id type) ∧
        ∀ {root}, app.Root root → Meaningful app.schemas root := by
  simp only [exists_declares_iff, FunctionDescription.exists_declares_iff,
    WorkflowDescription.exists_declares_iff, DatastoreDescription.exists_declares_iff,
    ParameterSetDescription.exists_declares_iff]
  constructor
  · rintro ⟨htypes, hfunctions, hworkflows, hdatastores⟩
    refine ⟨htypes, fun {root} hroot => ?_⟩
    cases hroot with
    | @type id _ hschema =>
        obtain ⟨type, htype⟩ := htypes id (Table.mem_names_of_get? hschema)
        exact htype.meaningful hschema
    | functionInput hfunction hschema => exact (hfunctions hfunction).1 hschema
    | functionOutput hfunction hschema => exact (hfunctions hfunction).2 hschema
    -- a workflow can be given any functions here, so it is given none
    | workflowInput hworkflow hschema => exact (hworkflows hworkflow []).1 hschema
    | workflowOutput hworkflow hschema => exact (hworkflows hworkflow []).2 hschema
    | datastoreAttribute hdatastore hschema => exact hdatastores hdatastore hschema
  · rintro ⟨htypes, hroots⟩
    exact ⟨htypes, fun hfunction => ⟨fun h => hroots (.functionInput hfunction h),
      fun h => hroots (.functionOutput hfunction h)⟩, fun hworkflow _ =>
      ⟨fun h => hroots (.workflowInput hworkflow h), fun h => hroots (.workflowOutput hworkflow h)⟩,
      fun hdatastore _ _ h => hroots (.datastoreAttribute hdatastore h)⟩

/-- A declared id has a schema. -/
theorem mem_names_schemas {id : String} {root : Json} (h : app.types.get? id = some root) :
    id ∈ app.schemas.names :=
  Table.mem_names_of_get? (get?_schemas_eq_some_iff.2 ⟨root, h, rfl⟩)

/-- In an acceptable description every declared id names a type. -/
theorem Acceptable.exists_resolves (h : app.Acceptable) {id : String} {root : Json}
    (hid : app.types.get? id = some root) : ∃ type, Resolves app.schemas id type := by
  refine AppManifest.exists_resolves (fun {other schema} hschema => ?_) (fun hfollows => ?_)
    (leadsTo_eq app ▸ h.acyclic) (mem_names_schemas hid)
  · obtain ⟨root, hroot, rfl⟩ := get?_schemas_eq_some_iff.1 hschema
    exact Schema.isSound_ofJson.2 fun schema hwalks => h.isSchema (.type hroot) hwalks
  · obtain ⟨root, schema, hroot, hwalks, hnames⟩ := leadsTo_iff.2 hfollows
    obtain ⟨type, htype⟩ := h.declared (.type hroot) hwalks hnames
    exact mem_names_schemas htype

/-- A description is converted exactly if it is acceptable. -/
theorem accepted_iff (app : AppDescription) :
    (∃ conversion, app.toManifest = .ok conversion) ↔ app.Acceptable := by
  have hmanifest : (∃ conversion, app.toManifest = .ok conversion) ↔
      ∃ manifest, app.Declares manifest := by
    simp only [← toManifest_iff]
    constructor
    · rintro ⟨conversion, h⟩
      exact ⟨_, conversion, h, rfl⟩
    · rintro ⟨_, conversion, h, -⟩
      exact ⟨conversion, h⟩
  rw [hmanifest, exists_declares_iff_meaningful]
  constructor
  · rintro ⟨htypes, hroots⟩
    refine ⟨fun hroot hwalks => Schema.isSound_ofJson.1 (hroots hroot).1 _ hwalks,
      fun {root schema id} hroot hwalks hnames => ?_, fun id hcycle => ?_⟩
    · obtain ⟨type, htype⟩ := (hroots hroot).2 id
        (Schema.mem_references_ofJson.2 ⟨schema, hwalks, hnames⟩)
      obtain ⟨_, hschema⟩ := htype.declared
      rw [schemas, Table.get?_map, Option.map_eq_some_iff] at hschema
      obtain ⟨json, hjson, -⟩ := hschema
      exact ⟨json, hjson⟩
    · -- a chain of uses starts at a declared type, and that one resolves
      obtain ⟨_, ⟨root, _, hroot, -⟩, -⟩ := Relation.TransGen.head'_iff.1 hcycle
      obtain ⟨type, htype⟩ := htypes id (Table.mem_names_of_get? hroot)
      rw [leadsTo_eq] at hcycle
      exact htype.not_cyclic hcycle
  · intro h
    refine ⟨fun id hid => ?_, fun {root} hroot => ⟨?_, fun id hid => ?_⟩⟩
    · obtain ⟨root, hroot⟩ := Table.exists_get?_of_mem_names hid
      exact h.exists_resolves hroot
    · exact Schema.isSound_ofJson.2 fun schema hwalks => h.isSchema hroot hwalks
    · obtain ⟨schema, hwalks, hnames⟩ := Schema.mem_references_ofJson.1 hid
      obtain ⟨type, htype⟩ := h.declared hroot hwalks hnames
      exact h.exists_resolves htype

end AppDescription

end AppManifest
