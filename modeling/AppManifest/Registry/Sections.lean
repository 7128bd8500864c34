import AppManifest.Registry.Basic

/-!
# Sections of a manifest

The registered definitions as a manifest writes them: by kind and, within a kind, by id. There is a
section of providers only if there are any.
-/

namespace AppManifest

/-- The sections of a manifest. -/
structure Sections where
  functions : Table Json
  types : Table Json
  workflows : Table Json
  datastores : Table Json
  providers : Option (Table Json)

namespace EntitySet

variable {α : Type} [Entity α]

/-- The entities as they are written, by id. -/
def tabulate (set : EntitySet α) (write : α → Json) : Table Json :=
  .ofList (set.entries.map fun entity => (Entity.id entity, write entity))

end EntitySet

namespace Registry

/-- The sections of the registered definitions. -/
def sections (registry : Registry) : Sections where
  functions := registry.functions.tabulate AppFunction.toJson
  types := registry.types.tabulate CustomType.schema
  workflows := registry.workflows.tabulate Workflow.toJson
  datastores := registry.datastores.tabulate Datastore.toJson
  providers :=
    if registry.providers.entries.isEmpty then none
    else some (registry.providers.tabulate Provider.toJson)

end Registry

namespace Sections

/-- The sections as members of the document. -/
def members (sections : Sections) : Entries Json :=
  [("functions", .ofTable sections.functions), ("types", .ofTable sections.types),
    ("workflows", .ofTable sections.workflows), ("datastores", .ofTable sections.datastores)] ++
    Json.member "external_auth_providers"
      (sections.providers.map fun providers => .object [("oauth2", .ofTable providers)])

end Sections

end AppManifest
