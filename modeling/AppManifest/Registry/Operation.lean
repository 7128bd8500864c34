import AppManifest.Registry.Basic

/-!
# Operations on the registry

Everything that can be done to a registry from outside, as a value: registering a definition with
what it uses, or only what a definition uses. `Registry.applyAll` runs a sequence of operations.
-/

namespace AppManifest.Registry

/-- Something that is done to a registry. -/
inductive Operation where
  | function (function : AppFunction)
  | type (type : CustomType)
  | types (types : List CustomType)
  | workflow (workflow : Workflow)
  | datastore (datastore : Datastore)
  | provider (provider : Provider)
  /-- Registers the types of a parameter set. -/
  | set (set : ParameterSet)
  /-- Registers the types of a definition. -/
  | definition (definition : Definition)
  /-- Registers the types of the parameters of a function. -/
  | functionTypes (function : AppFunction)
  /-- Registers the types in the definition of a type. -/
  | nestedTypes (type : CustomType)
  /-- Registers the functions of the steps of a workflow. -/
  | stepFunctions (workflow : Workflow)
  /-- Registers the types of the parameters of a workflow. -/
  | workflowTypes (workflow : Workflow)
  /-- Registers the types of the attributes of a datastore. -/
  | attributeTypes (datastore : Datastore)

/-- What an operation answers. -/
inductive Answer where
  /-- Whether the id of the definition was free. -/
  | inserted (fresh : Bool)
  | done
  | rejected (error : ExportError)

/-- The answer of a registration and the registry after it. -/
def answered (result : Bool × Registry) : Answer × Registry :=
  (.inserted result.1, result.2)

/-- Does an operation. -/
def apply (registry : Registry) : Operation → Answer × Registry
  | .function function => answered (registry.registerFunction function)
  | .type type => answered (registry.registerType type)
  | .types types => (.done, registry.registerTypes types)
  | .workflow workflow => answered (registry.registerWorkflow workflow)
  | .datastore datastore => answered (registry.registerDatastore datastore)
  | .provider provider =>
      match registry.registerProvider provider with
      | .ok registry => (.done, registry)
      | .error error => (.rejected error, registry)
  | .set set => (.done, registry.registerSet set)
  | .definition definition => (.done, registry.registerDefinition definition)
  | .functionTypes function => (.done, registry.registerFunctionTypes function)
  | .nestedTypes type => (.done, registry.registerNestedTypes type)
  | .stepFunctions workflow => (.done, registry.registerStepFunctions workflow)
  | .workflowTypes workflow => (.done, registry.registerWorkflowTypes workflow)
  | .attributeTypes datastore => (.done, registry.registerAttributeTypes datastore)

/-- The registry after a sequence of operations. -/
def applyAll (registry : Registry) (operations : List Operation) : Registry :=
  operations.foldl (fun registry operation => (registry.apply operation).2) registry

end AppManifest.Registry
