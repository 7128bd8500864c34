import AppManifest.Datastore
import AppManifest.Error
import AppManifest.Provider
import AppManifest.Registry.EntitySet
import AppManifest.Workflow.Basic

/-!
# The registry

The registry collects the definitions that a manifest is made of, starting from those that are
declared and following what they use: a function and a workflow bring the custom types of their
parameters, a workflow the functions of its steps, a datastore the types of its attributes, and a
type the types in its definition. A definition whose id is taken is not followed again.

Every attempt to register a definition is reported by one event, before those of the definitions
that follow from it.
-/

namespace AppManifest

instance : Entity AppFunction where
  kind := .function
  id := AppFunction.id

instance : Entity CustomType where
  kind := .type
  id := CustomType.id

instance : Entity Workflow where
  kind := .workflow
  id := Workflow.id

instance : Entity Datastore where
  kind := .datastore
  id := Datastore.name

instance : Entity Provider where
  kind := .provider
  id := Provider.key

/-- The definitions that are registered, and the events that report it. -/
structure Registry where
  functions : EntitySet AppFunction := ∅
  types : EntitySet CustomType := ∅
  workflows : EntitySet Workflow := ∅
  datastores : EntitySet Datastore := ∅
  providers : EntitySet Provider := ∅
  events : List Event := []

namespace Registry

/-- The registry without definitions. -/
def empty : Registry :=
  {}

instance : Inhabited Registry :=
  ⟨empty⟩

/-- Appends the event of a registration. -/
def report (α : Type) [Entity α] (entity : α) (outcome : Registration) (registry : Registry) :
    Registry :=
  { registry with
    events := registry.events ++ [outcome.event (Entity.kind α) (Entity.id entity)] }

/-- Inserts a function, without what it uses. -/
def insertFunction (registry : Registry) (function : AppFunction) : Registration × Registry :=
  let (outcome, functions) := registry.functions.insert function
  (outcome, report AppFunction function outcome { registry with functions := functions })

/-- Inserts a type, without what it uses. -/
def insertType (registry : Registry) (type : CustomType) : Registration × Registry :=
  let (outcome, types) := registry.types.insert type
  (outcome, report CustomType type outcome { registry with types := types })

/-- Inserts a workflow, without what it uses. -/
def insertWorkflow (registry : Registry) (workflow : Workflow) : Registration × Registry :=
  let (outcome, workflows) := registry.workflows.insert workflow
  (outcome, report Workflow workflow outcome { registry with workflows := workflows })

/-- Inserts a datastore, without what it uses. -/
def insertDatastore (registry : Registry) (datastore : Datastore) : Registration × Registry :=
  let (outcome, datastores) := registry.datastores.insert datastore
  (outcome, report Datastore datastore outcome { registry with datastores := datastores })

/-- Inserts a provider. -/
def insertProvider (registry : Registry) (provider : Provider) : Registration × Registry :=
  let (outcome, providers) := registry.providers.insert provider
  (outcome, report Provider provider outcome { registry with providers := providers })

mutual

/-- Registers the custom types of a kind. -/
def registerKind (registry : Registry) : Kind → Registry
  | .primitive _ | .untypedObject => registry
  | .typedObject properties _ _ => registry.registerProperties properties
  | .array items => registry.registerDefinition items
  | .custom type => (registry.registerType type).2

/-- Registers the custom types of a definition. -/
def registerDefinition (registry : Registry) : Definition → Registry
  | ⟨kind, _⟩ => registry.registerKind kind

/-- Registers a custom type and, if its id was free, the custom types of its definition. The first
result says whether it was. -/
def registerType (registry : Registry) (type : CustomType) : Bool × Registry :=
  let (outcome, registry) := registry.insertType type
  if outcome = .inserted then
    match type with
    | ⟨_, definition, _, _⟩ => (true, registry.registerDefinition definition)
  else (false, registry)

/-- Registers the custom types of named definitions, in order. -/
def registerProperties (registry : Registry) : List (String × Definition) → Registry
  | [] => registry
  | (_, definition) :: rest => (registry.registerDefinition definition).registerProperties rest

end

/-- Registers the custom types of a parameter set. -/
def registerSet (registry : Registry) (set : ParameterSet) : Registry :=
  registry.registerProperties set.properties.entries

/-- Registers the custom types of the parameters of a function. -/
def registerFunctionTypes (registry : Registry) (function : AppFunction) : Registry :=
  (registry.registerSet function.inputs).registerSet function.outputs

/-- Registers a function and, if its id was free, the custom types of its parameters. The first
result says whether it was. -/
def registerFunction (registry : Registry) (function : AppFunction) : Bool × Registry :=
  let (outcome, registry) := registry.insertFunction function
  if outcome = .inserted then (true, registry.registerFunctionTypes function)
  else (false, registry)

/-- Registers the functions that the steps of a workflow run. -/
def registerStepFunctions (registry : Registry) (workflow : Workflow) : Registry :=
  workflow.localFunctions.foldl (fun registry function => (registry.registerFunction function).2)
    registry

/-- Registers the custom types of the parameters of a workflow. -/
def registerWorkflowTypes (registry : Registry) (workflow : Workflow) : Registry :=
  (registry.registerSet workflow.inputParameters).registerSet workflow.outputParameters

/-- Registers a workflow and, if its id was free, the functions of its steps and the custom types of
its parameters. The first result says whether it was. -/
def registerWorkflow (registry : Registry) (workflow : Workflow) : Bool × Registry :=
  let (outcome, registry) := registry.insertWorkflow workflow
  if outcome = .inserted then
    (true, (registry.registerStepFunctions workflow).registerWorkflowTypes workflow)
  else (false, registry)

/-- Registers custom types, in order. -/
def registerTypes (registry : Registry) (types : List CustomType) : Registry :=
  types.foldl (fun registry type => (registry.registerType type).2) registry

/-- Registers the custom types of the attributes of a datastore. -/
def registerAttributeTypes (registry : Registry) (datastore : Datastore) : Registry :=
  registry.registerProperties datastore.attributes.entries

/-- Registers the custom types of the definition of a type. -/
def registerNestedTypes (registry : Registry) (type : CustomType) : Registry :=
  registry.registerDefinition type.definition

/-- Registers a datastore and, if its name was free, the custom types of its attributes. The first
result says whether it was. -/
def registerDatastore (registry : Registry) (datastore : Datastore) : Bool × Registry :=
  let (outcome, registry) := registry.insertDatastore datastore
  if outcome = .inserted then (true, registry.registerAttributeTypes datastore)
  else (false, registry)

/-- Registers a provider. Keys of providers have to be unique, and a provider with a taken key
changes nothing. -/
def registerProvider (registry : Registry) (provider : Provider) :
    Except ExportError Registry :=
  if registry.providers.contains provider.key then
    .error (.duplicateKey EntityKind.provider.name provider.key)
  else .ok (registry.insertProvider provider).2

/-- Registers providers in order, up to the first one whose key is taken. -/
def registerProviders (registry : Registry) : List Provider → Registry × Except ExportError Unit
  | [] => (registry, .ok ())
  | provider :: rest =>
      match registry.registerProvider provider with
      | .ok registry => registry.registerProviders rest
      | .error error => (registry, .error error)

/-- A function of this id is registered. -/
def hasFunction (registry : Registry) (id : String) : Bool :=
  registry.functions.contains id

/-- A type of this id is registered. -/
def hasType (registry : Registry) (id : String) : Bool :=
  registry.types.contains id

end Registry

end AppManifest
