import AppManifest.Proofs.Description.Conversion
import AppManifest.Proofs.Description.NormalForm
import AppManifest.Proofs.Manifest.Writing
import AppManifest.Proofs.Workflow.Steps

/-!
# The normal form of a description

`AppDescription.normalForm` is the document that a description stands for, given without resolving
anything: every schema in its normal form, every function that a step runs by its reference, every
step under the decimal of its position. `AppDescription.normalJson` lists the members of this
document (`AppDescription.toJson_normalForm`). The normal forms are spelt out, and what a
description declares of a function, a workflow, a type or a datastore is written as the normal form
of its description.
-/

namespace AppManifest

/-- The object with the form of each value of a table under its name. -/
def Json.objectOf {δ : Type} (form : δ → Json) (table : Table δ) : Json :=
  .object (table.entries.map fun entry => (entry.1, form entry.2))

namespace ParameterSetDescription

/-- The normal form of a parameter set: that of every parameter, and the required names as they
are. -/
def normalForm (description : ParameterSetDescription) : Json :=
  .object [("properties", .objectOf Json.normalForm description.properties),
    ("required", .array (description.required.map .string))]

/-- The normal form of a parameter set of a workflow; a set without parameters is left out. -/
def normalForm? (description : ParameterSetDescription) : Option Json :=
  match description.properties.entries with
  | [] => none
  | _ :: _ => some description.normalForm

end ParameterSetDescription

/-- The normal form of a function. -/
def FunctionDescription.normalForm (description : FunctionDescription) : Json :=
  .object (Json.members [("description", description.description.map .string),
    ("input_parameters", some description.inputs.normalForm),
    ("output_parameters", some description.outputs.normalForm),
    ("source_file", some (.string description.sourceFile)),
    ("title", some (.string description.title))])

/-- The normal form of the step at a position: the decimal of the position, the function and the
inputs as they are. A function without `#/` in its text is one of this manifest. -/
def StepDescription.normalForm (position : Nat) (description : StepDescription) : Json :=
  let function := description.function
  .object [("function_id", .string
      (if ['#', '/'] <:+: function.toList then function else "#/functions/" ++ function)),
    ("id", .string (toString position)), ("inputs", .object description.inputs.entries)]

/-- The normal form of a workflow. -/
def WorkflowDescription.normalForm (description : WorkflowDescription) : Json :=
  .object (Json.members [("description", description.description.map .string),
    ("input_parameters", description.inputs.normalForm?),
    ("output_parameters", description.outputs.normalForm?),
    ("steps", some (.array (description.steps.mapIdx StepDescription.normalForm))),
    ("title", some (.string description.title))])

/-- The normal form of a datastore. -/
def DatastoreDescription.normalForm (description : DatastoreDescription) : Json :=
  .object [("attributes", .objectOf Json.normalForm description.attributes),
    ("primary_key", .string description.primaryKey)]

/-- The normal form of a provider. -/
def ProviderDescription.normalForm (description : ProviderDescription) : Json :=
  .object [("options", description.options),
    ("provider_type", .string (match description.type with
      | .custom => "CUSTOM"
      | .google => "GOOGLE"))]

namespace AppDescription

/-- The providers that are described. -/
def providerTable (app : AppDescription) : Table ProviderDescription :=
  (app.providers.map ProvidersDescription.oauth2).getD ∅

/-- The document of a description, with every definition in its normal form. -/
def normalForm (app : AppDescription) : Document where
  name := app.name
  description := app.description
  longDescription := app.longDescription
  icon := app.icon
  botScopes := if app.botScopes.isEmpty then none else some app.botScopes
  sections :=
    { functions := app.functions.map FunctionDescription.normalForm
      types := app.types.map Json.normalForm
      workflows := app.workflows.map WorkflowDescription.normalForm
      datastores := app.datastores.map DatastoreDescription.normalForm
      providers :=
        if app.providerTable.isEmpty then none
        else some (app.providerTable.map ProviderDescription.normalForm) }

/-- The bot scopes as they are written, if there are any. -/
def normalScopes? (app : AppDescription) : Option Json :=
  match app.botScopes with
  | [] => none
  | scopes => some (.object [("scopes", .object [("bot", .array (scopes.map .string))])])

/-- The providers as they are written, if there are any. -/
def normalProviders? (app : AppDescription) : Option Json :=
  match app.providers with
  | none => none
  | some providers =>
      match providers.oauth2.entries with
      | [] => none
      | _ :: _ =>
          some (.object [("oauth2", .objectOf ProviderDescription.normalForm providers.oauth2)])

/-- The normal form of a description, member by member. -/
def normalJson (app : AppDescription) : Json :=
  .object (Json.members [
    ("display_information", some (.object (Json.members [
      ("name", some (.string app.name)),
      ("description", app.description.map .string),
      ("long_description", app.longDescription.map .string)]))),
    ("icon", app.icon.map .string),
    ("oauth_config", app.normalScopes?),
    ("functions", some (.objectOf FunctionDescription.normalForm app.functions)),
    ("types", some (.objectOf Json.normalForm app.types)),
    ("workflows", some (.objectOf WorkflowDescription.normalForm app.workflows)),
    ("datastores", some (.objectOf DatastoreDescription.normalForm app.datastores)),
    ("external_auth_providers", app.normalProviders?)])

end AppDescription

/-! ## Normal forms as they are written -/

/-- The normal form of a parameter set is the object of its tables. -/
theorem ParameterSetDescription.normalForm_eq (description : ParameterSetDescription) :
    description.normalForm =
      .object [("properties", .ofTable (description.properties.map Json.normalForm)),
        ("required", .ofStrings description.required)] :=
  rfl

/-- A parameter set of a workflow is left out if it has no parameters. -/
theorem ParameterSetDescription.normalForm?_eq (description : ParameterSetDescription) :
    description.normalForm? =
      if description.properties.isEmpty then none else some description.normalForm := by
  rw [normalForm?, Table.isEmpty]
  cases description.properties.entries <;> rfl

/-- The normal form of a function begins with its description, if it has one. -/
theorem FunctionDescription.normalForm_eq (description : FunctionDescription) :
    description.normalForm =
      .object (Json.member "description" (description.description.map .string) ++
        [("input_parameters", description.inputs.normalForm),
          ("output_parameters", description.outputs.normalForm),
          ("source_file", .string description.sourceFile),
          ("title", .string description.title)]) := by
  simp [normalForm, Json.members_cons, Json.member]

/-- The normal form of a step refers to the function that its text stands for. -/
theorem StepDescription.normalForm_eq (position : Nat) (description : StepDescription) :
    description.normalForm position =
      .object [("function_id", .string (Reference.normalize description.function)),
        ("id", .string (toString position)), ("inputs", .ofTable description.inputs)] := by
  rw [Reference.normalize_eq]
  rfl

/-- The normal form of a workflow leaves out what it does not have. -/
theorem WorkflowDescription.normalForm_eq (description : WorkflowDescription) :
    description.normalForm =
      .object (Json.member "description" (description.description.map .string) ++
        Json.member "input_parameters" description.inputs.normalForm? ++
        Json.member "output_parameters" description.outputs.normalForm? ++
        [("steps", .array (description.steps.mapIdx StepDescription.normalForm)),
          ("title", .string description.title)]) := by
  simp [normalForm, Json.members_cons, Json.member]

/-- The normal form of a datastore is the object of its attributes. -/
theorem DatastoreDescription.normalForm_eq (description : DatastoreDescription) :
    description.normalForm =
      .object [("attributes", .ofTable (description.attributes.map Json.normalForm)),
        ("primary_key", .string description.primaryKey)] :=
  rfl

/-- The normal form of a provider names its type. -/
theorem ProviderDescription.normalForm_eq (description : ProviderDescription) :
    description.normalForm = .object [("options", description.options),
      ("provider_type", .string description.type.name)] := by
  rw [normalForm]
  cases description.type <;> rfl

/-- The document of a description is written member by member. -/
theorem AppDescription.toJson_normalForm (app : AppDescription) :
    app.normalForm.toJson = app.normalJson := by
  have hscopes : app.normalScopes? = app.normalForm.botScopes.map fun scopes =>
      .object [("scopes", .object [("bot", .array (scopes.map .string))])] := by
    rw [normalScopes?, normalForm]
    cases app.botScopes <;> rfl
  have hproviders : app.normalProviders? = app.normalForm.sections.providers.map fun providers =>
      .object [("oauth2", .object providers.entries)] := by
    rw [normalProviders?, normalForm, providerTable]
    cases app.providers with
    | none => rfl
    | some providers =>
        rw [Option.map_some, Option.getD_some, Table.isEmpty]
        cases hentries : providers.oauth2.entries with
        | nil => simp [hentries]
        | cons entry rest => simp [Json.objectOf, Table.map, hentries, Entries.mapValues]
  rw [Document.toJson_eq, normalJson, hscopes, hproviders]
  rfl

variable {schemas : Table Schema}

/-- The type that an id names is written as the normal form of its schema. -/
theorem Resolves.schema_eq {types : Table Json} {id : String} {type : CustomType} {json : Json}
    (h : Resolves (types.map Schema.ofJson) id type) (hjson : types.get? id = some json) :
    type.schema = json.normalForm := by
  obtain ⟨schema, definition, hschema, hdefines, rfl⟩ := resolves_iff.1 h
  rw [Table.get?_map, hjson, Option.map_some, Option.some.injEq] at hschema
  subst hschema
  rw [CustomType.schema_ofDefinition]
  exact Schema.schema_of_defines Resolves.id_eq hdefines

namespace DefinesTable

variable {values : Table Json} {table : Table Definition}

/-- Named definitions are written as the normal forms of the schemas that declare them. -/
theorem map_schema (h : DefinesTable schemas values table) :
    table.map Definition.schema = values.map Json.normalForm := by
  refine Table.ext_entries (map_eq_of_forall₂ ?_)
  exact (Schema.forall₂_of_definesAll h).imp fun _ _ ⟨hname, hdefines⟩ =>
    Prod.ext hname (Schema.schema_of_defines Resolves.id_eq hdefines)

/-- There are definitions exactly if there are schemas. -/
theorem isEmpty_eq (h : DefinesTable schemas values table) : table.isEmpty = values.isEmpty := by
  rw [← Table.isEmpty_map Schema.ofJson values]
  exact Table.isEmpty_eq_of_names h.names_eq

end DefinesTable

/-- The set that a parameter set declares is written as its normal form. -/
theorem ParameterSetDescription.Declares.toJson_eq {description : ParameterSetDescription}
    {set : ParameterSet} (h : description.Declares schemas set) :
    set.toJson = description.normalForm := by
  obtain ⟨properties, hproperties, rfl⟩ := h
  rw [ParameterSet.toJson, normalForm_eq, hproperties.map_schema]

/-- The set that a parameter set declares is left out of a workflow exactly if it is. -/
theorem ParameterSetDescription.Declares.parameterMember_eq {description : ParameterSetDescription}
    {set : ParameterSet} (h : description.Declares schemas set) (name : String) :
    Workflow.parameterMember name set = Json.member name description.normalForm? := by
  rw [Workflow.parameterMember, normalForm?_eq, h.toJson_eq]
  obtain ⟨properties, hproperties, rfl⟩ := h
  rw [ParameterSet.isEmpty, hproperties.isEmpty_eq]

/-- The parameter sets of a function that a function declares are declared by its own. -/
theorem FunctionDescription.Declares.parameters {id : String} {description : FunctionDescription}
    {function : AppFunction} (h : description.Declares schemas id function) :
    description.inputs.Declares schemas function.inputs ∧
      description.outputs.Declares schemas function.outputs := by
  obtain ⟨_, hinputs, _, houtputs, rfl⟩ := h
  exact ⟨hinputs, houtputs⟩

/-- The parameter sets of a workflow that a workflow declares are declared by its own. -/
theorem WorkflowDescription.Declares.parameters {functions : List AppFunction} {id : String}
    {description : WorkflowDescription} {workflow : Workflow}
    (h : description.Declares schemas functions id workflow) :
    description.inputs.Declares schemas workflow.inputParameters ∧
      description.outputs.Declares schemas workflow.outputParameters := by
  obtain ⟨_, hinputs, _, houtputs, rfl⟩ := h
  rw [build, Workflow.addSteps_make]
  exact ⟨hinputs, houtputs⟩

/-- The function that a function declares is written as its normal form, under its id. -/
theorem FunctionDescription.Declares.toJson_eq {id : String} {description : FunctionDescription}
    {function : AppFunction} (h : description.Declares schemas id function) :
    function.id = id ∧ function.toJson = description.normalForm := by
  obtain ⟨inputs, hinputs, outputs, houtputs, rfl⟩ := h
  refine ⟨rfl, ?_⟩
  rw [AppFunction.toJson, normalForm_eq, hinputs.toJson_eq, houtputs.toJson_eq]

/-- A step refers to the function that its text stands for, whether or not the function is one of
these. -/
theorem StepDescription.reference_stepFunction (functions : List AppFunction)
    (step : StepDescription) :
    (step.stepFunction functions).reference = Reference.normalize step.function := by
  rw [stepFunction]
  cases hfunction : (Reference.functionId? step.function).bind fun id =>
      functions.find? fun function => function.id == id with
  | none => rfl
  | some function =>
      obtain ⟨id, hid, hfind⟩ := Option.bind_eq_some_iff.1 hfunction
      have hfound : function.id = id := by
        simpa using List.find?_some hfind
      show Reference.ofFunction function.id = _
      rw [Reference.functionId?_eq_some_iff.1 hid, hfound]

/-- A step is written as its normal form. -/
theorem StepDescription.toJson_eq (functions : List AppFunction) (position : Nat)
    (step : StepDescription) :
    (Workflow.stepAt position (step.toStep functions)).toJson = step.normalForm position := by
  have hinputs : StepInputs.templatize (step.inputs.map .literal) = step.inputs := by
    refine Table.ext_get? fun name => ?_
    rw [StepInputs.templatize, Table.get?_map, Table.get?_map, Option.map_map]
    exact congrFun Option.map_id _
  rw [Step.toJson, normalForm_eq]
  show Json.object [("function_id", .string (step.stepFunction functions).reference),
    ("id", .string (toString position)),
    ("inputs", .ofTable (StepInputs.templatize (step.inputs.map .literal)))] = _
  rw [step.reference_stepFunction, hinputs]

/-- The workflow that a workflow declares is written as its normal form, under its id. -/
theorem WorkflowDescription.Declares.toJson_eq {functions : List AppFunction} {id : String}
    {description : WorkflowDescription} {workflow : Workflow}
    (h : description.Declares schemas functions id workflow) :
    workflow.id = id ∧ workflow.toJson = description.normalForm := by
  obtain ⟨inputs, hinputs, outputs, houtputs, rfl⟩ := h
  have hsteps : ((description.steps.map (StepDescription.toStep functions)).mapIdx
      Workflow.stepAt).map Step.toJson = description.steps.mapIdx StepDescription.normalForm := by
    refine List.ext_getElem (by simp) fun position _ _ => ?_
    simp [StepDescription.toJson_eq]
  rw [build, Workflow.addSteps_make]
  refine ⟨rfl, ?_⟩
  rw [Workflow.toJson, normalForm_eq]
  dsimp only [Workflow.make]
  rw [hsteps, hinputs.parameterMember_eq, houtputs.parameterMember_eq]

/-- The datastore that a datastore declares is written as its normal form, under its name. -/
theorem DatastoreDescription.Declares.toJson_eq {name : String} {description : DatastoreDescription}
    {datastore : Datastore} (h : description.Declares schemas name datastore) :
    datastore.name = name ∧ datastore.toJson = description.normalForm := by
  obtain ⟨attributes, hattributes, rfl⟩ := h
  refine ⟨rfl, ?_⟩
  rw [Datastore.toJson, normalForm_eq, hattributes.map_schema]

end AppManifest
