import AppManifest.Proofs.Description.Document
import AppManifest.Proofs.Manifest.Closed

/-!
# Compiling descriptions

The manifest that a description declares declares everything that it uses, so exporting it writes
just its declarations, each as its normal form: the document is that of the description, and it is
written as the normal form (`AppDescription.compiles_to_normalForm`).
-/

namespace AppManifest

/-! ## Sections -/

/-- The entities are those of the entries of a table: each has the name of its entry as its id and
is written as the form of its value. -/
def Lists {α δ : Type} [Entity α] (table : Table δ) (form : δ → Json) (write : α → Json)
    (entities : List α) : Prop :=
  List.Forall₂ (fun entry entity => Entity.id entity = entry.1 ∧ write entity = form entry.2)
    table.entries entities

namespace Lists

variable {α δ : Type} [Entity α] {table : Table δ} {form : δ → Json} {write : α → Json}
  {entities : List α}

/-- The ids of the entities are the names of the table. -/
theorem map_id (h : Lists table form write entities) : entities.map Entity.id = table.names :=
  map_eq_of_forall₂ (h.imp fun _ _ hentry => hentry.1)

/-- The names of the table are the ids of entities. -/
theorem mem_names_iff (h : Lists table form write entities) {name : String} :
    name ∈ table.names ↔ ∃ entity ∈ entities, Entity.id entity = name := by
  rw [← h.map_id, List.mem_map]

/-- The ids of the entities are distinct. -/
theorem nodup (h : Lists table form write entities) : (entities.map Entity.id).Nodup := by
  rw [h.map_id]
  exact table.ascending.nodup

/-- A coherent set of the entities is as large as the table. -/
theorem size_eq (h : Lists table form write entities) {set : EntitySet α} (hset : set.Coherent)
    (hmem : ∀ entity, entity ∈ set.entries ↔ entity ∈ entities) : set.size = table.size := by
  have hperm : set.entries.Perm entities :=
    (List.perm_ext_iff_of_nodup hset.nodup.of_map h.nodup.of_map).2 hmem
  have hnames := congrArg List.length h.map_id
  rw [List.length_map, Table.names, Entries.names, List.length_map] at hnames
  rw [EntitySet.size, hperm.length_eq, hnames, Table.size]

/-- A coherent set of the entities is written as the table of forms. -/
theorem tabulate_eq (h : Lists table form write entities) {set : EntitySet α} (hset : set.Coherent)
    (hmem : ∀ entity, entity ∈ set.entries ↔ entity ∈ entities) :
    set.tabulate write = table.map form := by
  refine Table.ext_get? fun name => Option.ext fun json => ?_
  rw [hset.get?_tabulate_eq_some_iff, Table.get?_map, Option.map_eq_some_iff]
  constructor
  · rintro ⟨entity, hentity, rfl, rfl⟩
    obtain ⟨⟨key, value⟩, hentry, hid, hwrite⟩ := exists_left_of_forall₂ h ((hmem entity).1 hentity)
    exact ⟨value, Table.get?_eq_some_iff.2 (hid ▸ hentry), hwrite.symm⟩
  · rintro ⟨value, hvalue, rfl⟩
    obtain ⟨entity, hentity, hid, hwrite⟩ :=
      exists_right_of_forall₂ h (Table.get?_eq_some_iff.1 hvalue)
    exact ⟨entity, (hmem entity).2 hentity, hid, hwrite⟩

/-- An entity is written as the form that the table has under its id. -/
theorem get?_map_id (h : Lists table form write entities) {entity : α}
    (hentity : entity ∈ entities) :
    (table.map form).get? (Entity.id entity) = some (write entity) := by
  obtain ⟨⟨key, value⟩, hentry, hid, hwrite⟩ := exists_left_of_forall₂ h hentity
  rw [Table.get?_map, hid, Table.get?_eq_some_iff.2 hentry, Option.map_some, hwrite]

/-- A set of the entities is empty exactly if the table is. -/
theorem isEmpty_eq (h : Lists table form write entities) {set : EntitySet α}
    (hmem : ∀ entity, entity ∈ set.entries ↔ entity ∈ entities) :
    set.entries.isEmpty = table.isEmpty := by
  rw [Table.isEmpty, Bool.eq_iff_iff, List.isEmpty_iff, List.isEmpty_iff,
    List.eq_nil_iff_forall_not_mem, List.eq_nil_iff_forall_not_mem]
  constructor
  · intro hnone entry hentry
    obtain ⟨entity, hentity, -⟩ := exists_right_of_forall₂ h hentry
    exact hnone entity ((hmem entity).2 hentity)
  · intro hnone entity hentity
    obtain ⟨entry, hentry, -⟩ := exists_left_of_forall₂ h ((hmem entity).1 hentity)
    exact hnone entry hentry

end Lists

/-! ## What definitions refer to -/

namespace Schema

variable {names : String → CustomType → Prop}

mutual

/-- The types that occur directly in the definition that a schema declares are named by ids. -/
theorem Defines.directTypes :
    (schema : Schema) → {definition : Definition} → Defines names schema definition →
      ∀ type ∈ definition.directTypes, ∃ id, names id type
  | .defective _, _, h => h.elim
  | .reference id _, _, ⟨type, htype, heq⟩ => by
      subst heq
      intro other hother
      obtain rfl := List.mem_singleton.1 hother
      exact ⟨id, htype⟩
  | .primitive _ _, _, heq | .untypedObject _, _, heq => by
      subst heq
      intro _ h
      cases h
  | .typedObject properties _ _ _, _, ⟨_, h, heq⟩ => by
      subst heq
      exact DefinesAll.propertyTypes properties h
  | .array items _, _, ⟨_, h, heq⟩ => by
      subst heq
      have hitems := Defines.directTypes items h
      exact hitems

/-- The types that occur directly in the definitions that named schemas declare are named by ids. -/
theorem DefinesAll.propertyTypes :
    (properties : List (String × Schema)) → {definitions : List (String × Definition)} →
      DefinesAll names properties definitions →
      ∀ type ∈ Definition.propertyTypes definitions, ∃ id, names id type
  | [], _, heq => by
      subst heq
      intro _ h
      cases h
  | (_, schema) :: rest, _, ⟨_, _, hhead, hrest, heq⟩ => by
      subst heq
      intro type htype
      rcases List.mem_append.1 htype with htype | htype
      · exact Defines.directTypes schema hhead type htype
      · exact DefinesAll.propertyTypes rest hrest type htype

end

end Schema

variable {schemas : Table Schema}

/-- The types that occur directly in the definition of a type that an id names are named by ids. -/
theorem Resolves.directTypes {id : String} {type : CustomType} (h : Resolves schemas id type) :
    ∀ nested ∈ type.definition.directTypes, ∃ other, Resolves schemas other nested := by
  obtain ⟨schema, definition, -, hdefines, rfl⟩ := resolves_iff.1 h
  have hnested := Schema.Defines.directTypes schema hdefines
  obtain ⟨kind, notes⟩ := definition
  exact hnested

/-- The types that occur directly in the set that a parameter set declares are named by ids. -/
theorem ParameterSetDescription.Declares.directTypes {description : ParameterSetDescription}
    {set : ParameterSet} (h : description.Declares schemas set) :
    ∀ type ∈ set.directTypes, ∃ id, Resolves schemas id type := by
  obtain ⟨properties, hproperties, rfl⟩ := h
  exact Schema.DefinesAll.propertyTypes _ hproperties

/-- The types that occur directly in the function that a function declares are named by ids. -/
theorem FunctionDescription.Declares.directTypes {id : String} {description : FunctionDescription}
    {function : AppFunction} (h : description.Declares schemas id function) :
    ∀ type ∈ function.directTypes, ∃ id, Resolves schemas id type := by
  obtain ⟨inputs, hinputs, outputs, houtputs, rfl⟩ := h
  intro type htype
  rcases List.mem_append.1 htype with htype | htype
  · exact hinputs.directTypes type htype
  · exact houtputs.directTypes type htype

/-- The types that occur directly in the workflow that a workflow declares are named by ids. -/
theorem WorkflowDescription.Declares.directTypes {functions : List AppFunction} {id : String}
    {description : WorkflowDescription} {workflow : Workflow}
    (h : description.Declares schemas functions id workflow) :
    ∀ type ∈ workflow.directTypes, ∃ id, Resolves schemas id type := by
  obtain ⟨inputs, hinputs, outputs, houtputs, rfl⟩ := h
  rw [build, Workflow.addSteps_make]
  intro type htype
  rcases List.mem_append.1 htype with htype | htype
  · exact hinputs.directTypes type htype
  · exact houtputs.directTypes type htype

/-- A step that runs a function of the app runs one of those given. -/
theorem StepDescription.mem_of_definition? {functions : List AppFunction} {step : StepDescription}
    {function : AppFunction} (h : (step.stepFunction functions).definition? = some function) :
    function ∈ functions := by
  rw [stepFunction] at h
  cases hfunction : (Reference.functionId? step.function).bind fun id =>
      functions.find? fun function => function.id == id with
  | none =>
      rw [hfunction] at h
      cases h
  | some found =>
      rw [hfunction] at h
      obtain rfl : found = function := Option.some.inj h
      obtain ⟨id, -, hfind⟩ := Option.bind_eq_some_iff.1 hfunction
      exact List.mem_of_find?_eq_some hfind

/-- The functions of the app that the steps of a declared workflow run are among those given. -/
theorem WorkflowDescription.Declares.localFunctions {functions : List AppFunction} {id : String}
    {description : WorkflowDescription} {workflow : Workflow}
    (h : description.Declares schemas functions id workflow) :
    ∀ function ∈ workflow.localFunctions, function ∈ functions := by
  obtain ⟨inputs, hinputs, outputs, houtputs, rfl⟩ := h
  rw [build, Workflow.addSteps_make]
  intro function hfunction
  obtain ⟨step, hstep, hlocal⟩ := List.mem_filterMap.1 hfunction
  obtain ⟨position, hposition, rfl⟩ := List.mem_mapIdx.1 hstep
  rw [List.getElem_map, Step.localFunction?] at hlocal
  split at hlocal
  · exact StepDescription.mem_of_definition? hlocal
  · cases hlocal

/-- The types that occur directly in the datastore that a datastore declares are named by ids. -/
theorem DatastoreDescription.Declares.directTypes {name : String}
    {description : DatastoreDescription} {datastore : Datastore}
    (h : description.Declares schemas name datastore) :
    ∀ type ∈ datastore.directTypes, ∃ id, Resolves schemas id type := by
  obtain ⟨attributes, hattributes, rfl⟩ := h
  exact Schema.DefinesAll.propertyTypes _ hattributes

namespace AppDescription.Declares

variable {app : AppDescription} {manifest : Manifest}

/-- Every type that an id names is declared by the manifest. -/
theorem type_mem (h : app.Declares manifest) {id : String} {type : CustomType}
    (htype : Resolves app.schemas id type) : type ∈ manifest.types := by
  obtain ⟨schema, hschema⟩ := htype.declared
  rw [schemas, Table.get?_map, Option.map_eq_some_iff] at hschema
  obtain ⟨json, hjson, -⟩ := hschema
  obtain ⟨other, hother, hresolves⟩ :=
    exists_right_of_forall₂ h.types (Table.mem_names_of_get? hjson)
  exact htype.unique hresolves ▸ hother

/-- The functions of the manifest are those of the description. -/
theorem lists_functions (h : app.Declares manifest) :
    Lists app.functions FunctionDescription.normalForm AppFunction.toJson manifest.functions :=
  h.functions.imp fun _ _ hfunction => hfunction.toJson_eq

/-- The workflows of the manifest are those of the description. -/
theorem lists_workflows (h : app.Declares manifest) :
    Lists app.workflows WorkflowDescription.normalForm Workflow.toJson manifest.workflows :=
  h.workflows.imp fun _ _ hworkflow => hworkflow.toJson_eq

/-- The datastores of the manifest are those of the description. -/
theorem lists_datastores (h : app.Declares manifest) :
    Lists app.datastores DatastoreDescription.normalForm Datastore.toJson manifest.datastores :=
  h.datastores.imp fun _ _ hdatastore => hdatastore.toJson_eq

/-- The types of the manifest are those of the description. -/
theorem lists_types (h : app.Declares manifest) :
    Lists app.types Json.normalForm CustomType.schema manifest.types := by
  have hentries : List.Forall₂ (fun entry => Resolves app.schemas entry.1) app.types.entries
      manifest.types := List.forall₂_map_left_iff.1 h.types
  -- an id names a type by the schema that is described under it
  have hmem : ∀ entry ∈ app.types.entries, app.types.get? entry.1 = some entry.2 :=
    fun entry hentry => Table.get?_eq_some_iff.2 hentry
  exact ((List.forall₂_and_left _ _).2 ⟨hmem, hentries⟩).imp fun entry type ⟨hjson, htype⟩ =>
    ⟨htype.id_eq, htype.schema_eq hjson⟩

/-- The providers of the manifest are those of the description. -/
theorem lists_providers (h : app.Declares manifest) :
    Lists app.providerTable ProviderDescription.normalForm Provider.toJson manifest.providers := by
  have hproviders : manifest.providers = app.providerTable.entries.map fun entry =>
      ⟨entry.1, entry.2.type, entry.2.options⟩ := by
    rw [h.providers, providerTable]
    cases app.providers <;> rfl
  rw [Lists, hproviders, List.forall₂_map_right_iff, List.forall₂_same]
  exact fun entry _ => ⟨rfl, rfl⟩

/-- A declared manifest declares everything that it uses. -/
theorem closed (h : app.Declares manifest) : manifest.Closed where
  uses part hpart used hused := by
    -- a type that is used resolves, and all types that resolve are declared
    have htypes : ∀ types : List CustomType,
        (∀ type ∈ types, ∃ id, Resolves app.schemas id type) → used ∈ types.map Part.type →
        used ∈ manifest.parts := by
      intro types hresolves hmem
      obtain ⟨type, htype, rfl⟩ := List.mem_map.1 hmem
      obtain ⟨id, hid⟩ := hresolves type htype
      exact Manifest.mem_parts_iff.2 (h.type_mem hid)
    rw [Manifest.mem_parts_iff] at hpart
    cases part with
    | function entity =>
        obtain ⟨_, -, hentity⟩ := exists_left_of_forall₂ h.functions hpart
        exact htypes _ hentity.directTypes hused
    | type entity =>
        obtain ⟨_, -, hentity⟩ := exists_left_of_forall₂ h.types hpart
        exact htypes _ hentity.directTypes hused
    | workflow entity =>
        obtain ⟨_, -, hentity⟩ := exists_left_of_forall₂ h.workflows hpart
        rcases List.mem_append.1 hused with hused | hused
        · obtain ⟨callee, hcallee, rfl⟩ := List.mem_map.1 hused
          exact Manifest.mem_parts_iff.2 (hentity.localFunctions callee hcallee)
        · exact htypes _ hentity.directTypes hused
    | datastore entity =>
        obtain ⟨_, -, hentity⟩ := exists_left_of_forall₂ h.datastores hpart
        exact htypes _ hentity.directTypes hused
    | provider entity => cases hused
  distinct _ hfirst _ hsecond hkind hid :=
    Manifest.distinct_of_nodup h.lists_functions.nodup h.lists_types.nodup h.lists_workflows.nodup
      h.lists_datastores.nodup h.lists_providers.nodup hfirst hsecond hkind hid

/-- The sections of a declared manifest are those of the normal form. -/
theorem sections_eq (h : app.Declares manifest) :
    manifest.collected.sections = app.normalForm.sections := by
  have hcoherent := manifest.collected_grows.coherent
  have hkeeps (part : Part) : manifest.collected.Keeps part ↔ manifest.Has part :=
    h.closed.keeps_iff.trans Manifest.mem_parts_iff
  have hproviders : manifest.collected.providers.entries.isEmpty = app.providerTable.isEmpty :=
    h.lists_providers.isEmpty_eq fun entity => hkeeps (.provider entity)
  rw [Registry.sections, normalForm,
    h.lists_functions.tabulate_eq hcoherent.functions fun entity => hkeeps (.function entity),
    h.lists_types.tabulate_eq hcoherent.types fun entity => hkeeps (.type entity),
    h.lists_workflows.tabulate_eq hcoherent.workflows fun entity => hkeeps (.workflow entity),
    h.lists_datastores.tabulate_eq hcoherent.datastores fun entity => hkeeps (.datastore entity),
    h.lists_providers.tabulate_eq hcoherent.providers fun entity => hkeeps (.provider entity),
    hproviders]

/-- A declared manifest is exported as the normal form of the description. -/
theorem compile_eq (h : app.Declares manifest) :
    manifest.compile.result = .ok app.normalForm := by
  rw [Manifest.compile_of_nodup h.lists_providers.nodup, Manifest.documentOf, h.sections_eq,
    h.name, h.description, h.longDescription, h.icon, h.botScopes]
  rfl

end AppDescription.Declares

namespace AppDescription

/-- If a description is converted, the manifest is exported, and the document is written as the
normal form of the description. -/
theorem compiles_to_normalForm (app : AppDescription) {conversion : Conversion}
    (h : app.toManifest = .ok conversion) :
    conversion.manifest.compile.result = .ok app.normalForm ∧
      app.normalForm.write = .ok app.normalJson := by
  refine ⟨(toManifest_iff.1 ⟨conversion, h, rfl⟩).compile_eq, ?_⟩
  rw [Document.write_eq, app.toJson_normalForm]

/-- An app with a type that refers to another one, a function that takes it, and a workflow that
runs the function. -/
def tracker : AppDescription where
  name := "tracker"
  types := .ofList [
    ("issue", .object [("items", .object [("type", .string "#/types/label")]),
      ("title", .string "Issue"), ("type", .string "array")]),
    ("label", .object [("maxLength", .null), ("type", .string "string")])]
  functions := .ofList [("close", {
    title := "Close"
    sourceFile := "close.ts"
    inputs :=
      { properties := .ofList [("issue", .object [("type", .string "#/types/issue")])]
        required := ["issue"] } })]
  workflows := .ofList [("triage", { title := "Triage", steps := [{ function := "close" }] })]

/-- The tracker is converted. -/
theorem tracker_converts : ∃ conversion, tracker.toManifest = .ok conversion := by
  have hconverted : tracker.toManifest.toOption.isSome = true := by decide +kernel
  -- only the success is computed: the manifest itself is left to the theorems
  cases h : tracker.toManifest with
  | ok conversion => exact ⟨conversion, rfl⟩
  | error error =>
      rw [h] at hconverted
      cases hconverted

/-- The tracker is converted, exported and written in its normal form. -/
theorem tracker_compiles : ∃ conversion, tracker.toManifest = .ok conversion ∧
    conversion.manifest.compile.result = .ok tracker.normalForm ∧
      tracker.normalForm.write = .ok tracker.normalJson := by
  obtain ⟨conversion, h⟩ := tracker_converts
  exact ⟨conversion, h, tracker.compiles_to_normalForm h⟩

/-- In the normal form of the tracker, what the label says beyond its type is left out, and the step
refers to its function in full. -/
example : tracker.normalJson = .object [
    ("display_information", .object [("name", .string "tracker")]),
    ("functions", .object [("close", .object [
      ("input_parameters", .object [
        ("properties", .object [("issue", .object [("type", .string "#/types/issue")])]),
        ("required", .array [.string "issue"])]),
      ("output_parameters", .object [("properties", .object []), ("required", .array [])]),
      ("source_file", .string "close.ts"), ("title", .string "Close")])]),
    ("types", .object [
      ("issue", .object [("items", .object [("type", .string "#/types/label")]),
        ("title", .string "Issue"), ("type", .string "array")]),
      ("label", .object [("type", .string "string")])]),
    ("workflows", .object [("triage", .object [
      ("steps", .array [.object [("function_id", .string "#/functions/close"),
        ("id", .string "0"), ("inputs", .object [])]]),
      ("title", .string "Triage")])]),
    ("datastores", .object [])] :=
  rfl

end AppDescription

end AppManifest
