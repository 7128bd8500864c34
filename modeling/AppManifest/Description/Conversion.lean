import AppManifest.Description.Basic
import AppManifest.Description.Resolver
import AppManifest.Manifest

/-!
# Converting descriptions

A description is converted by resolving its types, then its functions, workflows and datastores, in
the order of their names; the first error ends the conversion. A step runs a described function if
its reference names one, and is left as a reference otherwise.
-/

namespace AppManifest

/-- A converted description, and the events that report the conversion. -/
structure Conversion where
  manifest : Manifest
  events : List Event

namespace ParameterSetDescription

/-- Converts a parameter set of an owner. -/
def toSet (schemas : Table Schema) (owner : String) (set : ParameterSetDescription) :
    Resolving ParameterSet := do
  let properties ← Resolver.parameters schemas owner set.properties
  return ⟨properties, set.required⟩

end ParameterSetDescription

namespace FunctionDescription

/-- Converts the function of an id. -/
def toFunction (schemas : Table Schema) (id : String) (function : FunctionDescription) :
    Resolving AppFunction := do
  let inputs ← function.inputs.toSet schemas id
  let outputs ← function.outputs.toSet schemas id
  return ⟨id, function.title, function.description, function.sourceFile, inputs, outputs⟩

end FunctionDescription

namespace StepDescription

/-- The function that a step runs: the one of these functions that its reference names, if there is
one. -/
def stepFunction (functions : List AppFunction) (step : StepDescription) : StepFunction :=
  let function? := (Reference.functionId? step.function).bind fun id =>
    functions.find? fun function => function.id == id
  match function? with
  | some function => .defined function
  | none => .named step.function

/-- What the step adds to its workflow: the function that it runs and its inputs. -/
def toStep (functions : List AppFunction) (step : StepDescription) : StepFunction × StepInputs :=
  (step.stepFunction functions, step.inputs.map .literal)

end StepDescription

namespace WorkflowDescription

/-- Converts the workflow of an id, with the events of its steps. -/
def toWorkflow (schemas : Table Schema) (functions : List AppFunction) (id : String)
    (workflow : WorkflowDescription) : Resolving (Workflow × List Event) := do
  let inputs ← workflow.inputs.toSet schemas id
  let outputs ← workflow.outputs.toSet schemas id
  let blank := Workflow.make id workflow.title workflow.description inputs outputs
  let steps := workflow.steps.map (StepDescription.toStep functions)
  let (workflow, _, events) := blank.addSteps steps
  return (workflow, events)

end WorkflowDescription

namespace DatastoreDescription

/-- Converts the datastore of a name. -/
def toDatastore (schemas : Table Schema) (name : String) (datastore : DatastoreDescription) :
    Resolving Datastore := do
  let attributes ← Resolver.parameters schemas name datastore.attributes
  return ⟨name, datastore.primaryKey, attributes⟩

end DatastoreDescription

namespace ProvidersDescription

/-- The providers, in the order of their keys. -/
def toProviders (providers : ProvidersDescription) : List Provider :=
  providers.oauth2.entries.map fun entry => ⟨entry.1, entry.2.type, entry.2.options⟩

end ProvidersDescription

namespace AppDescription

/-- The schemas of the declared types. -/
def schemas (app : AppDescription) : Table Schema :=
  app.types.map Schema.ofJson

/-- Converts a description. -/
def convert (app : AppDescription) : Resolving Conversion := do
  let schemas := app.schemas
  let types ← app.types.names.mapM fun id => Resolver.resolve schemas id id
  let functions ← app.functions.entries.mapM fun entry => entry.2.toFunction schemas entry.1
  let workflows ← app.workflows.entries.mapM fun entry =>
    entry.2.toWorkflow schemas functions entry.1
  let datastores ← app.datastores.entries.mapM fun entry => entry.2.toDatastore schemas entry.1
  let resolver ← get
  let manifest : Manifest :=
    { name := app.name
      description := app.description
      longDescription := app.longDescription
      icon := app.icon
      botScopes := app.botScopes
      functions := functions
      workflows := workflows.map Prod.fst
      types := types
      datastores := datastores
      providers := (app.providers.map ProvidersDescription.toProviders).getD [] }
  return ⟨manifest, workflows.flatMap Prod.snd ++ [.converted app.name resolver.resolved.size]⟩

/-- The manifest of a description, with the events that report the conversion. -/
def toManifest (app : AppDescription) : Except DescriptionError Conversion :=
  (app.convert.run {}).map Prod.fst

/-- The manifest that a text describes, with the events that report the conversion. -/
def load (text : String) : Except DescriptionError Conversion :=
  match read text with
  | .ok app => app.toManifest
  | .error error => .error (.unreadable error.message)

end AppDescription

end AppManifest
