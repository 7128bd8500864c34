import AppManifest.Description.Conversion
import AppManifest.Proofs.Description.Resolver

/-!
# Correctness of conversion

`AppDescription.Declares app manifest` says that a description declares a manifest: its types are
those that the declared ids name, and its functions, workflows and datastores have the definitions
that their schemas declare. Conversion gives exactly the manifest that is declared, and fails if
there is none (`AppDescription.toManifest_iff`).
-/

namespace AppManifest

variable {schemas : Table Schema}

/-- A parameter set, as it is written, declares this set. -/
def ParameterSetDescription.Declares (schemas : Table Schema)
    (description : ParameterSetDescription) (set : ParameterSet) : Prop :=
  ∃ properties, DefinesTable schemas description.properties properties ∧
    set = ⟨properties, description.required⟩

/-- A function of an id, as it is written, declares this function. -/
def FunctionDescription.Declares (schemas : Table Schema) (id : String)
    (description : FunctionDescription) (function : AppFunction) : Prop :=
  ∃ inputs, description.inputs.Declares schemas inputs ∧
    ∃ outputs, description.outputs.Declares schemas outputs ∧
      function = ⟨id, description.title, description.description, description.sourceFile, inputs,
        outputs⟩

namespace WorkflowDescription

/-- The workflow of an id with these parameters, with the events of its steps. -/
def build (description : WorkflowDescription) (functions : List AppFunction) (id : String)
    (inputs outputs : ParameterSet) : Workflow × List Event :=
  let result := (Workflow.make id description.title description.description inputs outputs).addSteps
    (description.steps.map (StepDescription.toStep functions))
  (result.1, result.2.2)

/-- A workflow of an id, as it is written, declares this workflow, given the functions of the
app. -/
def Declares (schemas : Table Schema) (functions : List AppFunction) (id : String)
    (description : WorkflowDescription) (workflow : Workflow) : Prop :=
  ∃ inputs, description.inputs.Declares schemas inputs ∧
    ∃ outputs, description.outputs.Declares schemas outputs ∧
      workflow = (description.build functions id inputs outputs).1

end WorkflowDescription

/-- A datastore of a name, as it is written, declares this datastore. -/
def DatastoreDescription.Declares (schemas : Table Schema) (name : String)
    (description : DatastoreDescription) (datastore : Datastore) : Prop :=
  ∃ attributes, DefinesTable schemas description.attributes attributes ∧
    datastore = ⟨name, description.primaryKey, attributes⟩

namespace AppDescription

/-- A description declares a manifest. -/
structure Declares (app : AppDescription) (manifest : Manifest) : Prop where
  name : manifest.name = app.name
  description : manifest.description = app.description
  longDescription : manifest.longDescription = app.longDescription
  icon : manifest.icon = app.icon
  botScopes : manifest.botScopes = app.botScopes
  types : List.Forall₂ (Resolves app.schemas) app.types.names manifest.types
  functions : List.Forall₂ (fun entry => entry.2.Declares app.schemas entry.1)
    app.functions.entries manifest.functions
  workflows : List.Forall₂ (fun entry => entry.2.Declares app.schemas manifest.functions entry.1)
    app.workflows.entries manifest.workflows
  datastores : List.Forall₂ (fun entry => entry.2.Declares app.schemas entry.1)
    app.datastores.entries manifest.datastores
  providers : manifest.providers = (app.providers.map ProvidersDescription.toProviders).getD []

end AppDescription

/-- Converting a parameter set computes the set that it declares. -/
theorem ParameterSetDescription.toSet_computes (owner : String)
    (description : ParameterSetDescription) :
    Computes schemas [] (description.toSet schemas owner) (description.Declares schemas) :=
  (Resolver.parameters_computes owner description.properties).bind fun _ _ => .pure _

/-- Converting a function computes the function that it declares. -/
theorem FunctionDescription.toFunction_computes (id : String) (description : FunctionDescription) :
    Computes schemas [] (description.toFunction schemas id) (description.Declares schemas id) :=
  (description.inputs.toSet_computes id).bind fun _ _ =>
    (description.outputs.toSet_computes id).bind fun _ _ => .pure _

/-- Converting a workflow without the events of its steps. -/
theorem WorkflowDescription.fst_toWorkflow (functions : List AppFunction) (id : String)
    (description : WorkflowDescription) :
    Prod.fst <$> description.toWorkflow schemas functions id = (do
      let inputs ← description.inputs.toSet schemas id
      let outputs ← description.outputs.toSet schemas id
      return (description.build functions id inputs outputs).1) := by
  simp only [toWorkflow, map_bind]
  rfl

/-- Converting a workflow computes the workflow that it declares. -/
theorem WorkflowDescription.toWorkflow_computes (functions : List AppFunction) (id : String)
    (description : WorkflowDescription) :
    Computes schemas [] (Prod.fst <$> description.toWorkflow schemas functions id)
      (description.Declares schemas functions id) := by
  rw [description.fst_toWorkflow]
  exact (description.inputs.toSet_computes id).bind fun _ _ =>
    (description.outputs.toSet_computes id).bind fun _ _ => .pure _

/-- Converting a datastore computes the datastore that it declares. -/
theorem DatastoreDescription.toDatastore_computes (name : String)
    (description : DatastoreDescription) :
    Computes schemas [] (description.toDatastore schemas name)
      (description.Declares schemas name) :=
  (Resolver.parameters_computes name description.attributes).bind fun _ _ => .pure _

namespace AppDescription

variable {app : AppDescription} {manifest : Manifest}

/-- The manifest with these declarations and the header and providers of a description. -/
def assemble (app : AppDescription) (types : List CustomType) (functions : List AppFunction)
    (workflows : List Workflow) (datastores : List Datastore) : Manifest where
  name := app.name
  description := app.description
  longDescription := app.longDescription
  icon := app.icon
  botScopes := app.botScopes
  functions := functions
  workflows := workflows
  types := types
  datastores := datastores
  providers := (app.providers.map ProvidersDescription.toProviders).getD []

/-- Keeping the first component of each result keeps those of all results. -/
theorem mapM_fst {m : Type → Type} [Monad m] [LawfulMonad m] {α β γ : Type} (f : α → m (β × γ))
    (values : List α) :
    values.mapM (fun value => Prod.fst <$> f value) = List.map Prod.fst <$> values.mapM f := by
  induction values with
  | nil => simp
  | cons head rest ih => simp [List.mapM_cons, ih]

/-- Converts everything but the types of a description. -/
def convertWith (app : AppDescription) (types : List CustomType) : Resolving Manifest := do
  let functions ← app.functions.entries.mapM fun entry => entry.2.toFunction app.schemas entry.1
  let workflows ← app.workflows.entries.mapM fun entry =>
    Prod.fst <$> entry.2.toWorkflow app.schemas functions entry.1
  let datastores ← app.datastores.entries.mapM fun entry =>
    entry.2.toDatastore app.schemas entry.1
  return app.assemble types functions workflows datastores

/-- The manifest of a conversion, without its events. -/
theorem manifest_convert (app : AppDescription) :
    Conversion.manifest <$> app.convert = (do
      let types ← app.types.names.mapM fun id => Resolver.resolve app.schemas id id
      app.convertWith types) := by
  simp only [convert, convertWith, map_bind, mapM_fst, bind_map_left]
  rfl

/-- Converting everything but the types computes a manifest with these types. -/
theorem convertWith_computes (app : AppDescription) (types : List CustomType) :
    Computes app.schemas [] (app.convertWith types) fun manifest =>
      ∃ functions, List.Forall₂ (fun entry => entry.2.Declares app.schemas entry.1)
        app.functions.entries functions ∧
      ∃ workflows, List.Forall₂ (fun entry => entry.2.Declares app.schemas functions entry.1)
        app.workflows.entries workflows ∧
      ∃ datastores, List.Forall₂ (fun entry => entry.2.Declares app.schemas entry.1)
        app.datastores.entries datastores ∧
      manifest = app.assemble types functions workflows datastores :=
  (Computes.mapM (fun entry => entry.2.toFunction_computes entry.1) app.functions.entries).bind
    fun functions _ => (Computes.mapM (fun entry => entry.2.toWorkflow_computes functions entry.1)
      app.workflows.entries).bind
    fun workflows _ => (Computes.mapM (fun entry => entry.2.toDatastore_computes entry.1)
      app.datastores.entries).bind
    fun datastores _ => .pure (app.assemble types functions workflows datastores)

/-- Converting a description computes the manifest that it declares. -/
theorem convert_computes (app : AppDescription) :
    Computes app.schemas [] (Conversion.manifest <$> app.convert) app.Declares := by
  rw [manifest_convert]
  refine ((Computes.mapM (fun id => Resolver.resolve_computes id id) app.types.names).bind
    fun types _ => app.convertWith_computes types).congr fun manifest => ⟨?_, ?_⟩
  · rintro ⟨types, htypes, functions, hfunctions, workflows, hworkflows, datastores, hdatastores,
      rfl⟩
    exact ⟨rfl, rfl, rfl, rfl, rfl, htypes, hfunctions, hworkflows, hdatastores, rfl⟩
  · intro h
    refine ⟨manifest.types, h.types, manifest.functions, h.functions, manifest.workflows,
      h.workflows, manifest.datastores, h.datastores, ?_⟩
    cases manifest
    simp only [assemble, ← h.name, ← h.description, ← h.longDescription, ← h.icon, ← h.botScopes,
      ← h.providers]

/-- The run of a conversion, without its events. -/
theorem run_convert (app : AppDescription) :
    (Conversion.manifest <$> app.convert) {} =
      (app.convert.run {}).map fun result => (result.1.manifest, result.2) :=
  rfl

/-- Conversion gives a manifest exactly if the description declares it. -/
theorem toManifest_iff :
    (∃ conversion, app.toManifest = .ok conversion ∧ conversion.manifest = manifest) ↔
      app.Declares manifest := by
  have hcomputes := convert_computes app
  have hrun := app.run_convert
  cases hconvert : app.convert.run {} with
  | error error =>
      rw [hconvert] at hrun
      rw [toManifest, hconvert]
      constructor
      · rintro ⟨_, h, -⟩
        cases h
      · intro h
        obtain ⟨final, hok⟩ := hcomputes.complete .empty h
        cases hrun.symm.trans hok
  | ok result =>
      rw [hconvert] at hrun
      rw [toManifest, hconvert]
      constructor
      · rintro ⟨conversion, h, rfl⟩
        cases h
        exact (hcomputes.sound .empty hrun).1
      · intro h
        obtain ⟨final, hok⟩ := hcomputes.complete .empty h
        cases hrun.symm.trans hok
        exact ⟨_, rfl, rfl⟩

end AppDescription

end AppManifest
